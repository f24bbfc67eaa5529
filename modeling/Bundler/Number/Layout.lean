import Bundler.Number.Shortest
import Bundler.Text.Blank
import Bundler.Text.Digit

/-!
# Bundler.Number.Layout

The text of a binary number and the reading of such texts.

* `Binary64.text`: the fewest digits that read back, positional from `0.0001` to below `10 ^ 16` and
  with an exponent of at least two digits otherwise.
* `Binary64.ofText?`: reads a decimal text with optional sign, fraction, exponent and underscores
  between digits, or one of the names of infinity and of the undefined number. There may be white
  space around it, and the digits may be those of any script.
-/

namespace Bundler.Number

/-- The layout of digits: positional notation for points above `least` and up to `greatest`. -/
structure Layout where
  least : Int
  greatest : Int
  exponentWidth : Nat

def plainLayout : Layout :=
  ⟨-4, 16, 2⟩

namespace Layout

def exponentText (l : Layout) (n : Int) : List Char :=
  let ds := Nat.toDigits 10 n.natAbs
  (if n < 0 then '-' else '+') :: (List.replicate (l.exponentWidth - ds.length) '0' ++ ds)

/-- The digits with their point; an integer keeps a zero after the point. -/
def write (l : Layout) (d : Decimal) : List Char :=
  if l.least < d.point && d.point ≤ l.greatest then
    if d.point ≤ 0 then '0' :: '.' :: (List.replicate (-d.point).toNat '0' ++ d.digits)
    else
      let p := d.point.toNat
      if d.digits.length ≤ p then
        d.digits ++ List.replicate (p - d.digits.length) '0' ++ ['.', '0']
      else d.digits.take p ++ '.' :: d.digits.drop p
  else
    let mantissa :=
      match d.digits with
      | c :: c' :: cs => c :: '.' :: c' :: cs
      | cs => cs
    mantissa ++ 'e' :: l.exponentText (d.point - 1)

end Layout

namespace Binary64

def text : Binary64 → String
  | .nan => "nan"
  | .infinite negative => if negative then "-inf" else "inf"
  | .finite negative m e =>
    let body := if m = 0 then ['0', '.', '0'] else plainLayout.write (shortest m e)
    String.ofList (if negative then '-' :: body else body)

/-! ## Reading -/

def digitValue (c : Char) : Nat :=
  c.toNat - '0'.toNat

def digitsValue (ds : List Char) : Nat :=
  ds.foldl (fun n c => n * 10 + digitValue c) 0

/-- Digits with single underscores between them; the digits and the rest. -/
def readDigits : List Char → List Char × List Char
  | [] => ([], [])
  | '_' :: c :: s => if c.isDigit then readDigitsAfter c s else ([], '_' :: c :: s)
  | c :: s => if c.isDigit then readDigitsAfter c s else ([], c :: s)
where
  readDigitsAfter (c : Char) (s : List Char) : List Char × List Char :=
    let r := readDigits s
    (c :: r.1, r.2)

def readNumeral : List Char → List Char × List Char
  | '_' :: s => ([], '_' :: s)
  | s => readDigits s

def readSign : List Char → Bool × List Char
  | '-' :: s => (true, s)
  | '+' :: s => (false, s)
  | s => (false, s)

/-- The exponent after its mark; `none` when the text is something else. -/
def readExponent? : List Char → Option Int
  | [] => some 0
  | c :: s =>
    if c = 'e' || c = 'E' then
      let (negative, s) := readSign s
      match readNumeral s with
      | ([], _) => none
      | (ds, []) => some (if negative then -Int.ofNat (digitsValue ds) else Int.ofNat (digitsValue ds))
      | _ => none
    else none

def readDecimal? (negative : Bool) (s : List Char) : Option Binary64 :=
  let (whole, s) := readNumeral s
  let (fraction, s) :=
    match s with
    | '.' :: s => readNumeral s
    | s => ([], s)
  if whole.isEmpty && fraction.isEmpty then none
  else
    match readExponent? s with
    | none => none
    | some e =>
      some (ofScientific negative (digitsValue (whole ++ fraction)) (e - Int.ofNat fraction.length))

def ofText? (s : String) : Option Binary64 :=
  let (negative, body) := readSign ((Text.trim Text.isWhite s.toList).map Text.plainDigit)
  let word := String.ofList (body.map Char.toLower)
  if word = "inf" || word = "infinity" then some (.infinite negative)
  else if word = "nan" then some .nan
  else readDecimal? negative body

end Binary64

end Bundler.Number
