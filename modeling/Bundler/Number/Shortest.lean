import Bundler.Number.Binary64

/-!
# Bundler.Number.Shortest

The fewest decimal digits that determine a binary number. For one digit, two digits, and so on, the
two neighbours of the number on the grid of that many digits are tried; the first grid with a
neighbour that rounds to the number wins, and of two such neighbours the nearer.

* `Decimal`: digits `d₁d₂…` with a point, standing for `0.d₁d₂… * 10 ^ point`.
* `shortest m e`: the digits of `m * 2 ^ e`.
-/

namespace Bundler.Number

structure Decimal where
  digits : List Char
  point : Int
deriving Repr, DecidableEq

def compareScaled (a : Nat) (i : Int) (b : Nat) (j : Int) : Ordering :=
  compare (a * Nat.pow 10 i.toNat * Nat.pow 2 (-j).toNat)
    (b * Nat.pow 2 j.toNat * Nat.pow 10 (-i).toNat)

def floorScaled (b : Nat) (j i : Int) : Nat :=
  (b * Nat.pow 2 j.toNat * Nat.pow 10 (-i).toNat) / (Nat.pow 2 (-j).toNat * Nat.pow 10 i.toNat)

/-- The place of the point: the number `m * 2 ^ e` lies from `10 ^ (p - 1)` to below `10 ^ p`. -/
def decimalPoint (m : Nat) (e : Int) : Int :=
  let guard : Nat := 340
  Int.ofNat (Nat.toDigits 10 (floorScaled m e (-Int.ofNat guard))).length - guard

/-- Whether `c * 10 ^ i` rounds to `m * 2 ^ e`. The neighbours below and above are half a unit away,
except below a power of two, where the unit halves; the ends belong to an even mantissa. -/
def roundsTo (c : Nat) (i : Int) (m : Nat) (e : Int) : Bool :=
  let lower := if m = Nat.pow 2 52 && -1074 < e then 4 * m - 1 else 4 * m - 2
  let upper := 4 * m + 2
  let even := m % 2 = 0
  let above :=
    match compareScaled c i lower (e - 2) with
    | .gt => true
    | .eq => even
    | .lt => false
  let below :=
    match compareScaled c i upper (e - 2) with
    | .lt => true
    | .eq => even
    | .gt => false
  above && below

def neighbour? (m : Nat) (e i : Int) : Option Nat :=
  let c := floorScaled m e i
  match roundsTo c i m e && c != 0, roundsTo (c + 1) i m e with
  | true, false => some c
  | false, true => some (c + 1)
  | false, false => none
  | true, true =>
    match compareScaled (2 * c + 1) i (2 * m) e with
    | .gt => some c
    | .lt => some (c + 1)
    | .eq => some (if c % 2 = 0 then c else c + 1)

def search (m : Nat) (e point : Int) : (digits tries : Nat) → Decimal
  | digits, 0 => ⟨Nat.toDigits 10 (floorScaled m e (point - Int.ofNat digits)), point⟩
  | digits, tries + 1 =>
    match neighbour? m e (point - Int.ofNat digits) with
    | some c =>
      let ds := Nat.toDigits 10 c
      ⟨ds, point - Int.ofNat digits + Int.ofNat ds.length⟩
    | none => search m e point (digits + 1) tries

/-- The fewest digits of the positive number `m * 2 ^ e`, without zeros at the end. -/
def shortest (m : Nat) (e : Int) : Decimal :=
  let d := search m e (decimalPoint m e) 1 17
  ⟨(d.digits.reverse.dropWhile (· == '0')).reverse, d.point⟩

end Bundler.Number
