import Bundler.Number.Layout
import Bundler.Text.Blank

/-!
# Bundler.Number.Integer

Integers written as text. The strict form is an optional minus and digits without a needless zero in
front. A looser form may have white space around it, a plus sign, zeros in front, underscores between
digits and a fraction of zeros; `tidy?` brings it into the strict form.

* `strict?`: the integer of a text in the strict form.
* `ofText`: the integer of a text in either form.
-/

namespace Bundler.Number.Integer

def maxDigits : Nat := 4300

inductive TextError where
  | malformed
  | tooLong
deriving Repr, DecidableEq

/-- Digits without a needless zero in front. -/
def isNumeral (s : List Char) : Bool :=
  match s with
  | [] => false
  | ['0'] => true
  | c :: _ => c != '0' && s.all Char.isDigit

def magnitude : List Char → List Char
  | '-' :: s => s
  | s => s

def strict? (s : List Char) : Option Int :=
  if isNumeral (magnitude s) then
    let n := Int.ofNat (Binary64.digitsValue (magnitude s))
    some (if s.head? = some '-' then -n else n)
  else none

/-- Whether a text begins with a number in the strict form that has too many digits. -/
def isOverlong (s : List Char) : Bool :=
  let digits := (magnitude s).takeWhile Char.isDigit
  digits.head? != some '0' && maxDigits < digits.length

/-! ## The looser form -/

/-- The text from the first digit that counts on, after zeros and underscores the last of which was
`last`. A zero before a point counts, and so does the last character of all. -/
def afterZeros (last : Char) : List Char → Option (List Char)
  | [] => some [last]
  | c :: s =>
    if c = '0' || c = '_' then afterZeros c s
    else if c = '.' then some (last :: c :: s)
    else if c = '-' || c.isDigit then some (c :: s)
    else none

def dropZeros : List Char → Option (List Char)
  | [] => none
  | c :: s =>
    if c = '0' then afterZeros c s
    else if c = '-' || c.isDigit then some (c :: s)
    else none

def dropZeroFraction (s : List Char) : List Char :=
  match s.dropWhile (· != '.') with
  | '.' :: c :: zeros =>
    if (c :: zeros).all (· == '0') then s.takeWhile (· != '.') else s
  | _ => s

/-- The text without underscores, if each of them stands alone between other characters. -/
def dropUnderscores (s : List Char) : List Char :=
  let pieces := Text.fields (· == '_') s
  if pieces.any List.isEmpty then s else pieces.flatten

/-- The text without its plus sign and the zeros in front; a plus and a minus do not go together. -/
def dropSign : List Char → Option (List Char)
  | '+' :: '-' :: _ => none
  | '+' :: s => dropZeros s
  | '-' :: s => (dropZeros s).map ('-' :: ·)
  | s => dropZeros s

def tidy? (s : List Char) : Option (List Char) :=
  (dropSign (Text.trim Text.isWhite s)).map fun t => dropUnderscores (dropZeroFraction t)

/-- The integer that a text writes. Only a number in the strict form is said to be too long. -/
def ofText (s : List Char) : Except TextError Int :=
  if isOverlong s then .error .tooLong
  else
    match strict? s with
    | some n => .ok n
    | none =>
      match (tidy? s).filter (fun t => !isOverlong t) |>.bind strict? with
      | some n => .ok n
      | none => .error .malformed

def isWritable (n : Int) : Bool :=
  n.natAbs < Nat.pow 10 maxDigits

end Bundler.Number.Integer
