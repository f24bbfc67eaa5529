import Bundler.Number.Binary64

/-!
# Bundler.Number.Sum

Sums of binary numbers: the number nearest to the exact sum.

* `Binary64.ofInt?`: the number nearest to an integer, as long as there is one.
* `Binary64.add`: the number nearest to a sum.
-/

namespace Bundler.Number.Binary64

def ofInt? (n : Int) : Option Binary64 :=
  match ofRatio (n < 0) n.natAbs 1 with
  | .finite negative m e => some (.finite negative m e)
  | _ => none

def steps (negative : Bool) (m : Nat) (e : Int) : Int :=
  -- in multiples of the least positive number
  let n := Int.ofNat (m * Nat.pow 2 (e + 1074).toNat)
  if negative then -n else n

/-- The sum, rounded once. Opposite infinities have none, and a sum of zero is negative only when both
numbers are. -/
def add : Binary64 → Binary64 → Binary64
  | .nan, _ => .nan
  | _, .nan => .nan
  | .infinite a, .infinite b => if a = b then .infinite a else .nan
  | .infinite a, _ => .infinite a
  | _, .infinite b => .infinite b
  | .finite a m e, .finite b n f =>
    let sum := steps a m e + steps b n f
    if sum = 0 then zero (a && b) else ofRatio (sum < 0) sum.natAbs (Nat.pow 2 1074)

def isNegative : Binary64 → Bool
  | .nan => false
  | .infinite negative => negative
  | .finite negative m _ => negative && m != 0

end Bundler.Number.Binary64
