import Bundler.Text.Split

/-!
# Bundler.Text.Blank

Blank characters. Two classes are in use: `isWhite` is the Unicode property White_Space, and
`isBlank` adds to it the four information separators U+001C to U+001F.

* `trim p s`: `s` without the characters of `p` at its two ends.
* `words s`: the maximal pieces of `s` without blank characters.
-/

namespace Bundler.Text

/-- The Unicode property White_Space. -/
def isWhite (c : Char) : Bool :=
  let n := c.toNat
  (9 ≤ n && n ≤ 13) || n == 0x20 || n == 0x85 || n == 0xa0 || n == 0x1680 ||
    (0x2000 ≤ n && n ≤ 0x200a) || n == 0x2028 || n == 0x2029 || n == 0x202f || n == 0x205f ||
    n == 0x3000

/-- White space or an information separator. -/
def isBlank (c : Char) : Bool :=
  isWhite c || (0x1c ≤ c.toNat && c.toNat ≤ 0x1f)

def trim (p : Char → Bool) (s : List Char) : List Char :=
  ((s.dropWhile p).reverse.dropWhile p).reverse

def words (s : List Char) : List (List Char) :=
  (fields isBlank s).filter fun w => !w.isEmpty

def trimWhite (s : String) : String :=
  String.ofList (trim isWhite s.toList)

def trimBlank (s : String) : String :=
  String.ofList (trim isBlank s.toList)

end Bundler.Text
