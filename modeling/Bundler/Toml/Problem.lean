import Bundler.Text.Quoted

/-!
# Bundler.Toml.Problem

What can be wrong with a configuration text, and where. A reader stops with a problem and the number
of characters left; the place in the whole text is found from that number.

* `Problem.message`: the text of a problem.
* `Place.of`: line and column of the place with so many characters left.
* `Step α`: a value read and the rest of the text, or a stop.
-/

namespace Bundler.Toml

abbrev Key := List String

/-- The parts of a key in parentheses; a single part has a comma after it. -/
def keyText : Key → String
  | [k] => "(" ++ Text.quoted k ++ ",)"
  | ks => "(" ++ String.intercalate ", " (ks.map Text.quoted) ++ ")"

inductive Problem where
  | invalidStatement
  | expectedNewline
  | expected (closing : String)
  | foundInvalid (c : Char)
  | illegalCharacter (c : Char)
  | declaredTwice (key : Key)
  | immutable (key : Key)
  | redefined (key : Key)
  | overwritten
  | expectedTableEnd
  | expectedArrayEnd
  | expectedEquals
  | invalidKeyStart
  | unclosedArray
  | unclosedInlineTable
  | duplicateInlineKey (name : String)
  | unescapedBackslash
  | invalidHex
  | notScalar
  | unterminatedString
  | invalidDate
  | invalidValue
  /-- An integer of more digits than are read; its message names no place. -/
  | tooManyDigits (count : Nat)
deriving Repr, DecidableEq

def maxDigits : Nat := 4300

namespace Problem

def message : Problem → String
  | .invalidStatement => "Invalid statement"
  | .expectedNewline => "Expected newline or end of document after a statement"
  | .expected closing => "Expected " ++ Text.quoted closing
  | .foundInvalid c => "Found invalid character " ++ Text.quoted (String.singleton c)
  | .illegalCharacter c => "Illegal character " ++ Text.quoted (String.singleton c)
  | .declaredTwice key => "Cannot declare " ++ keyText key ++ " twice"
  | .immutable key => "Cannot mutate immutable namespace " ++ keyText key
  | .redefined key => "Cannot redefine namespace " ++ keyText key
  | .overwritten => "Cannot overwrite a value"
  | .expectedTableEnd => "Expected ']' at the end of a table declaration"
  | .expectedArrayEnd => "Expected ']]' at the end of an array declaration"
  | .expectedEquals => "Expected '=' after a key in a key/value pair"
  | .invalidKeyStart => "Invalid initial character for a key part"
  | .unclosedArray => "Unclosed array"
  | .unclosedInlineTable => "Unclosed inline table"
  | .duplicateInlineKey name => "Duplicate inline table key " ++ Text.quoted name
  | .unescapedBackslash => "Unescaped '\\' in a string"
  | .invalidHex => "Invalid hex value"
  | .notScalar => "Escaped character is not a Unicode scalar value"
  | .unterminatedString => "Unterminated string"
  | .invalidDate => "Invalid date or datetime"
  | .invalidValue => "Invalid value"
  | .tooManyDigits count =>
    "Exceeds the limit (" ++ toString maxDigits ++
      " digits) for integer string conversion: value has " ++ toString count ++
      " digits; use sys.set_int_max_str_digits() to increase the limit"

end Problem

inductive Place where
  | endOfDocument
  | at (line column : Nat)
deriving Repr, DecidableEq

namespace Place

/-- The place in a text with so many characters left, lines and columns counted from one. -/
def of (source : List Char) (left : Nat) : Place :=
  if left = 0 then .endOfDocument
  else
    let before := source.take (source.length - left)
    .at (before.count '\n' + 1) ((before.reverse.takeWhile (· != '\n')).length + 1)

def text : Place → String
  | .endOfDocument => "end of document"
  | .at line column => "line " ++ toString line ++ ", column " ++ toString column

end Place

structure Error where
  problem : Problem
  place : Place
deriving Repr, DecidableEq

def Error.message (e : Error) : String :=
  match e.problem with
  | .tooManyDigits _ => e.problem.message
  | _ => e.problem.message ++ " (at " ++ e.place.text ++ ")"

/-- A problem, and how many characters are left where it lies. -/
structure Stop where
  problem : Problem
  left : Nat
deriving Repr, DecidableEq

abbrev Step (α : Type) := Except Stop (α × List Char)

def stop {α : Type} (problem : Problem) (s : List Char) : Except Stop α :=
  .error ⟨problem, s.length⟩

end Bundler.Toml
