/-!
# Bundler.Keyed

Lists of keyed values in the order in which the keys were first put. `List.lookup` reads them.

* `put k v xs`: the value under `k` is `v`; a key that is present keeps its place, a new one comes
  last.
* `keys xs`: the keys in order.
-/

namespace Bundler.Keyed

variable {α : Type} {β : Type} [BEq α]

/-- The list with `v` under `k`. -/
def put (k : α) (v : β) : List (α × β) → List (α × β)
  | [] => [(k, v)]
  | (k', v') :: xs => if k == k' then (k', v) :: xs else (k', v') :: put k v xs

def putAll (new : List (α × β)) (xs : List (α × β)) : List (α × β) :=
  new.foldl (fun acc p => put p.1 p.2 acc) xs

def keys (xs : List (α × β)) : List α :=
  xs.map Prod.fst

def erase (k : α) (xs : List (α × β)) : List (α × β) :=
  xs.filter fun p => !(p.1 == k)

theorem lookup_put_self [LawfulBEq α] (k : α) (v : β) (xs : List (α × β)) :
    (put k v xs).lookup k = some v := by
  induction xs with
  | nil => simp [put]
  | cons p xs ih =>
    obtain ⟨k', v'⟩ := p
    by_cases h : k = k'
    · subst h; simp [put]
    · have h' : (k == k') = false := by simp [h]
      simp [put, h', List.lookup_cons, ih]

theorem lookup_put_of_ne [LawfulBEq α] {k l : α} (h : l ≠ k) (v : β) (xs : List (α × β)) :
    (put k v xs).lookup l = xs.lookup l := by
  induction xs with
  | nil =>
    have h' : (l == k) = false := by simp [h]
    simp [put, List.lookup_cons, h']
  | cons p xs ih =>
    obtain ⟨k', v'⟩ := p
    by_cases hk : k = k'
    · subst hk
      have h' : (l == k) = false := by simp [h]
      simp [put, List.lookup_cons, h']
    · have hk' : (k == k') = false := by simp [hk]
      simp only [put, hk', Bool.false_eq_true, ↓reduceIte, List.lookup_cons]
      rw [ih]

end Bundler.Keyed
