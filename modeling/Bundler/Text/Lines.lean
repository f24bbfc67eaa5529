/-!
# Bundler.Text.Lines

Line boundaries. A text ends a line at a line feed, carriage return, vertical tab, form feed, one of
the separators U+001C to U+001E, next line, line separator or paragraph separator; a carriage return
with the line feed after it is one boundary.

* `lines s`: the lines of `s` without their boundaries; a boundary at the end opens no further line.
* `unifyNewlines s`: `s` with every carriage return, alone or before a line feed, as a line feed.
-/

namespace Bundler.Text

def isLineEnd (c : Char) : Bool :=
  let n := c.toNat
  (10 ≤ n && n ≤ 13) || (0x1c ≤ n && n ≤ 0x1e) || n == 0x85 || n == 0x2028 || n == 0x2029

def lines : List Char → List (List Char)
  | [] => []
  | '\r' :: '\n' :: s => [] :: lines s
  | c :: s =>
    if isLineEnd c then [] :: lines s
    else
      match lines s with
      | [] => [[c]]
      | l :: ls => (c :: l) :: ls

/-- The text with carriage returns, alone or before a line feed, turned into line feeds. -/
def unifyNewlines : List Char → List Char
  | [] => []
  | '\r' :: '\n' :: s => '\n' :: unifyNewlines s
  | '\r' :: s => '\n' :: unifyNewlines s
  | c :: s => c :: unifyNewlines s

end Bundler.Text
