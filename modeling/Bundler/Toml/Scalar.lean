import Bundler.Toml.Problem
import Bundler.Value

/-!
# Bundler.Toml.Scalar

Dates, times and numbers of configuration texts. Each reader takes the longest front of a text that
its form allows.

* `readMoment?`: a date, a time, or a date with a time.
* `readNumber?`: an integer in base ten, sixteen, eight or two, or a number with fraction or
  exponent.
-/

namespace Bundler.Toml

/-! ## Dates and times -/

def readFixed? (acc : Nat) : (count : Nat) → List Char → Option (Nat × List Char)
  | 0, s => some (acc, s)
  | _ + 1, [] => none
  | count + 1, c :: s =>
    if c.isDigit then readFixed? (acc * 10 + (c.toNat - '0'.toNat)) count s else none

def readTwo? (low high : Nat) (s : List Char) : Option (Nat × List Char) :=
  match readFixed? 0 2 s with
  | some (n, rest) => if low ≤ n && n ≤ high then some (n, rest) else none
  | none => none

def readChar? (c : Char) : List Char → Option (List Char)
  | [] => none
  | d :: s => if d = c then some s else none

/-- The form of a date; the month may still be too short for the day. -/
def readDate? (s : List Char) : Option (Date × List Char) := do
  let (year, s) ← readFixed? 0 4 s
  let s ← readChar? '-' s
  let (month, s) ← readTwo? 1 12 s
  let s ← readChar? '-' s
  let (day, s) ← readTwo? 1 31 s
  return (⟨year, month, day⟩, s)

/-- The microseconds of a fraction; digits after the sixth have no effect. -/
def microseconds (digits : List Char) : Nat :=
  let six := digits.take 6
  Number.Binary64.digitsValue (six ++ List.replicate (6 - six.length) '0')

def readFraction (s : List Char) : Nat × List Char :=
  match s with
  | '.' :: rest =>
    match rest.takeWhile Char.isDigit with
    | [] => (0, s)
    | ds => (microseconds ds, rest.dropWhile Char.isDigit)
  | _ => (0, s)

def readClock? (s : List Char) : Option (Clock × List Char) := do
  let (hour, s) ← readTwo? 0 23 s
  let s ← readChar? ':' s
  let (minute, s) ← readTwo? 0 59 s
  let s ← readChar? ':' s
  let (second, s) ← readTwo? 0 59 s
  let (micro, s) := readFraction s
  return (⟨hour, minute, second, micro⟩, s)

def readOffsetMinutes? (s : List Char) : Option (Nat × List Char) := do
  let (hour, s) ← readTwo? 0 23 s
  let s ← readChar? ':' s
  let (minute, s) ← readTwo? 0 59 s
  return (hour * 60 + minute, s)

def readOffset (s : List Char) : Option Int × List Char :=
  match s with
  | [] => (none, s)
  | c :: rest =>
    if c = 'Z' || c = 'z' then (some 0, rest)
    else if c = '+' || c = '-' then
      match readOffsetMinutes? rest with
      | some (n, rest) => (some (if c = '-' then -Int.ofNat n else Int.ofNat n), rest)
      | none => (none, s)
    else (none, s)

def readDateTime? (s : List Char) : Option (Date × Option (Clock × Option Int) × List Char) := do
  let (d, s) ← readDate? s
  match s with
  | [] => return (d, none, [])
  | c :: rest =>
    if c = 'T' || c = 't' || c = ' ' then
      match readClock? rest with
      | some (t, rest) =>
        let (offset, rest) := readOffset rest
        return (d, some (t, offset), rest)
      | none => return (d, none, s)
    else return (d, none, s)

/-- A date that the calendar does not have is a problem; other forms are no moment. -/
def readMoment? (s : List Char) : Option (Step Moment) :=
  match readDateTime? s with
  | some (d, none, rest) => some (if d.isValid then .ok (.date d, rest) else stop .invalidDate s)
  | some (d, some (t, offset), rest) =>
    some (if d.isValid then .ok (.datetime d t offset, rest) else stop .invalidDate s)
  | none => (readClock? s).map fun (t, rest) => .ok (.time t, rest)

/-! ## Numbers -/

/-- Digits of a base with single underscores between them: the digits and the rest. The first digit
has been checked. -/
def spanDigits (isDigit : Char → Bool) : List Char → List Char × List Char
  | [] => ([], [])
  | '_' :: c :: s =>
    if isDigit c then
      let r := spanDigits isDigit s
      (c :: r.1, r.2)
    else ([], '_' :: c :: s)
  | c :: s =>
    if isDigit c then
      let r := spanDigits isDigit s
      (c :: r.1, r.2)
    else ([], c :: s)

def digits? (isDigit : Char → Bool) : List Char → Option (List Char × List Char)
  | [] => none
  | c :: s =>
    if isDigit c then
      let r := spanDigits isDigit s
      some (c :: r.1, r.2)
    else none

def digitOf (c : Char) : Nat :=
  if c.isDigit then c.toNat - '0'.toNat
  else if 'a' ≤ c && c ≤ 'f' then c.toNat - 'a'.toNat + 10
  else c.toNat - 'A'.toNat + 10

def isBaseDigit (base : Nat) (c : Char) : Bool :=
  (c.isDigit || ('a' ≤ c && c ≤ 'f') || ('A' ≤ c && c ≤ 'F')) && digitOf c < base

def readBased? : List Char → Option (Nat × List Char)
  | '0' :: mark :: s =>
    let base := if mark = 'x' then 16 else if mark = 'o' then 8 else if mark = 'b' then 2 else 0
    match digits? (isBaseDigit base) s with
    | some (ds, rest) => some (ds.foldl (fun n c => n * base + digitOf c) 0, rest)
    | none => none
  | _ => none

/-- The digits before the point: a zero alone, or digits that begin with no zero. -/
def readWhole? : List Char → Option (List Char × List Char)
  | [] => none
  | c :: s => if c = '0' then some ([c], s) else digits? Char.isDigit (c :: s)

/-- The digits after the point, if a point with digits follows. -/
def readFractionDigits (s : List Char) : List Char × List Char :=
  match s with
  | '.' :: rest => (digits? Char.isDigit rest).getD ([], s)
  | _ => ([], s)

def readExponent (s : List Char) : Option Int × List Char :=
  match s with
  | [] => (none, s)
  | c :: rest =>
    if c = 'e' || c = 'E' then
      let (negative, body) := Number.Binary64.readSign rest
      match digits? Char.isDigit body with
      | some (ds, after) =>
        let n := Number.Binary64.digitsValue ds
        (some (if negative then -Int.ofNat n else Int.ofNat n), after)
      | none => (none, s)
    else (none, s)

def readDecimal? (s : List Char) : Option (Step Value) := do
  let (negative, body) := Number.Binary64.readSign s
  let (whole, rest) ← readWhole? body
  let (fraction, rest) := readFractionDigits rest
  let (exponent, rest) := readExponent rest
  if fraction.isEmpty && exponent.isNone then
    if maxDigits < whole.length then return stop (.tooManyDigits whole.length) s
    else
      let n := Number.Binary64.digitsValue whole
      return .ok (.int (if negative then -Int.ofNat n else Int.ofNat n), rest)
  else
    let m := Number.Binary64.digitsValue (whole ++ fraction)
    let e := exponent.getD 0 - Int.ofNat fraction.length
    return .ok (.float (Number.Binary64.ofScientific negative m e), rest)

def readNamed? (s : List Char) : Option (Value × List Char) :=
  let (negative, body) := Number.Binary64.readSign s
  match "inf".toList.isPrefixOf? body with
  | some rest => some (.float (.infinite negative), rest)
  | none => ("nan".toList.isPrefixOf? body).map fun rest => (.float .nan, rest)

def readNumber? (s : List Char) : Option (Step Value) :=
  match readBased? s with
  | some (n, rest) => some (.ok (.int n, rest))
  | none =>
    match readDecimal? s with
    | some r => some r
    | none => (readNamed? s).map .ok

end Bundler.Toml
