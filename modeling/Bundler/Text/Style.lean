/-!
# Bundler.Text.Style

Style codes of terminals: an escape character and an opening bracket, any number of digits,
semicolons and question marks, and one letter.

* `styleLength s`: the number of characters of the style code at the beginning of `s`.
* `dropStyles s`: the text without its style codes. What only looks like the beginning of a code
  stays.
-/

namespace Bundler.Text

def isStyleParameter (c : Char) : Bool :=
  c.isDigit || c == ';' || c == '?'

/-- The length of the style code with which a text begins, zero when it begins with none. -/
def styleLength : List Char → Nat
  | '\x1b' :: '[' :: s =>
    let parameters := s.takeWhile isStyleParameter
    match s.drop parameters.length with
    | c :: _ => if c.isAlpha then parameters.length + 3 else 0
    | [] => 0
  | _ => 0

def dropStylesAfter : (skip : Nat) → List Char → List Char
  | _, [] => []
  | skip + 1, _ :: s => dropStylesAfter skip s
  | 0, c :: s =>
    match styleLength (c :: s) with
    | 0 => c :: dropStylesAfter 0 s
    | n + 1 => dropStylesAfter n s

def dropStyles (s : String) : String :=
  String.ofList (dropStylesAfter 0 s.toList)

end Bundler.Text
