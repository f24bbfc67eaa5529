/-!
# Bundler.Number.Binary64

Binary numbers with 53 significant bits, by their exact value. A finite number is a sign, a mantissa
below `2 ^ 53` and an exponent of two from `-1074` to `971`; the mantissa of a number above the least
exponent is at least `2 ^ 52`, so that every number has one form.

* `ofRatio negative num den`: the number nearest to a ratio, a tie going to the even mantissa.
* `ofScientific negative m e`: the number nearest to `m * 10 ^ e`.
* `toInt?`: the integer that a number is.
-/

namespace Bundler.Number

inductive Binary64 where
  | nan
  | infinite (negative : Bool)
  | finite (negative : Bool) (mantissa : Nat) (exponent : Int)
deriving Repr, DecidableEq

namespace Binary64

def zero (negative : Bool) : Binary64 :=
  .finite negative 0 (-1074)

def isZero : Binary64 → Bool
  | .finite _ mantissa _ => mantissa == 0
  | _ => false

/-- The quotient rounded to the nearest integer, a tie going to the even one. -/
def divNearestEven (num den : Nat) : Nat :=
  let q := num / den
  let r := num % den
  if 2 * r < den then q
  else if den < 2 * r then q + 1
  else if q % 2 = 0 then q else q + 1

def scaleNearestEven (num den : Nat) (e : Int) : Nat :=
  if 0 ≤ e then divNearestEven num (den * Nat.pow 2 e.toNat)
  else divNearestEven (num * Nat.pow 2 (-e).toNat) den

/-- The greatest `e` with `2 ^ e ≤ num / den`, for a positive ratio. -/
def log2Ratio (num den : Nat) : Int :=
  let e : Int := Int.ofNat num.log2 - Int.ofNat den.log2
  let fits : Bool :=
    if 0 ≤ e then den * Nat.pow 2 e.toNat ≤ num else den ≤ num * Nat.pow 2 (-e).toNat
  if fits then e else e - 1

def ofRatio (negative : Bool) (num den : Nat) : Binary64 :=
  if num = 0 then zero negative
  else
    let e := max (log2Ratio num den - 52) (-1074)
    let m := scaleNearestEven num den e
    let (m, e) := if m = Nat.pow 2 53 then (Nat.pow 2 52, e + 1) else (m, e)
    if 971 < e then .infinite negative else .finite negative m e

/-- The number nearest to `m * 10 ^ e`. Beyond the range of the format the power is not formed. -/
def ofScientific (negative : Bool) (m : Nat) (e : Int) : Binary64 :=
  let magnitude : Int := Int.ofNat (Nat.toDigits 10 m).length + e
  if m = 0 then zero negative
  else if 400 < magnitude then .infinite negative
  else if magnitude < -400 then zero negative
  else if 0 ≤ e then ofRatio negative (m * Nat.pow 10 e.toNat) 1
  else ofRatio negative m (Nat.pow 10 (-e).toNat)

def toInt? : Binary64 → Option Int
  | .finite negative m e =>
    let magnitude? : Option Nat :=
      if 0 ≤ e then some (m * Nat.pow 2 e.toNat)
      else if m % Nat.pow 2 (-e).toNat = 0 then some (m / Nat.pow 2 (-e).toNat)
      else none
    magnitude?.map fun n => if negative then -Int.ofNat n else Int.ofNat n
  | _ => none

def isFinite : Binary64 → Bool
  | .finite .. => true
  | _ => false

end Binary64

end Bundler.Number
