import Bundler.Keyed
import Mathlib.Data.List.Induction
import Mathlib.Data.List.Nodup

/-!
# Bundler.Proofs.Keyed

Lists of keyed values: which keys they have, and what becomes of a key that occurs more than once.

* `firsts xs`: of every key its first pair, in order.
* `firsts_append`: what a second list adds to the first pairs of a first one.
* `put_of_notMem`: a new key comes last.
* `lookup_putAll`, `keys_putAll_nil`: of pairs that are put one after the other, the last one of a key
  holds, at the place of the first.
-/

namespace Bundler.Keyed

variable {α β : Type}

@[simp] theorem keys_nil : keys ([] : List (α × β)) = [] := rfl

@[simp] theorem keys_cons (p : α × β) (xs : List (α × β)) : keys (p :: xs) = p.1 :: keys xs := rfl

@[simp] theorem keys_append (xs ys : List (α × β)) : keys (xs ++ ys) = keys xs ++ keys ys := by
  simp [keys]

theorem mem_keys_filter (p : α → Bool) (k : α) (xs : List (α × β)) :
    k ∈ keys (xs.filter fun q => p q.1) ↔ k ∈ keys xs ∧ p k = true := by
  simp only [keys, List.mem_map, List.mem_filter]
  constructor
  · rintro ⟨q, ⟨hq, hp⟩, rfl⟩
    exact ⟨⟨q, hq, rfl⟩, hp⟩
  · rintro ⟨⟨q, hq, rfl⟩, hp⟩
    exact ⟨q, ⟨hq, hp⟩, rfl⟩

theorem lookup_map_snd [BEq α] {γ : Type} (f : β → γ) (k : α) (xs : List (α × β)) :
    (xs.map fun p => (p.1, f p.2)).lookup k = (xs.lookup k).map f := by
  induction xs with
  | nil => rfl
  | cons x xs ih =>
    obtain ⟨l, v⟩ := x
    rw [List.map_cons, List.lookup_cons, List.lookup_cons, ih]
    cases k == l <;> rfl

/-- Lists with the same keys and related values stay so. -/
theorem forall₂_put [BEq α] {γ : Type} {R : β → γ → Prop} {xs : List (α × β)} {ys : List (α × γ)}
    (h : List.Forall₂ (fun p q => p.1 = q.1 ∧ R p.2 q.2) xs ys) (k : α) {v : β} {w : γ} (hvw : R v w) :
    List.Forall₂ (fun p q => p.1 = q.1 ∧ R p.2 q.2) (put k v xs) (put k w ys) := by
  induction h with
  | nil => exact .cons ⟨rfl, hvw⟩ .nil
  | @cons p q xs ys hpq hrest ih =>
    obtain ⟨k₁, v₁⟩ := p
    obtain ⟨k₂, w₁⟩ := q
    obtain ⟨rfl, hvalues⟩ : k₁ = k₂ ∧ R v₁ w₁ := hpq
    simp only [put]
    split
    · exact .cons ⟨rfl, hvw⟩ hrest
    · exact .cons ⟨rfl, hvalues⟩ ih

variable [BEq α] [LawfulBEq α]

theorem lookup_eq_none (k : α) (xs : List (α × β)) : xs.lookup k = none ↔ k ∉ keys xs := by
  simp only [List.lookup_eq_none_iff, bne_iff_ne, keys, List.mem_map, not_exists, not_and]
  exact ⟨fun h p hp he => h p hp he.symm, fun h p hp he => h p hp he.symm⟩

theorem lookup_of_mem {xs : List (α × β)} (h : (keys xs).Nodup) {p : α × β} (hp : p ∈ xs) :
    xs.lookup p.1 = some p.2 := by
  induction xs with
  | nil => cases hp
  | cons x xs ih =>
    rw [keys_cons, List.nodup_cons] at h
    rcases List.mem_cons.1 hp with rfl | hp
    · exact List.lookup_cons_self
    · have hne : (p.1 == x.1) = false := by
        rw [beq_eq_false_iff_ne]
        exact fun heq => h.1 (heq ▸ List.mem_map_of_mem hp)
      rw [List.lookup_cons, hne]
      exact ih h.2 hp

/-- Without a key twice the order does not matter. -/
theorem lookup_perm {xs ys : List (α × β)} (h : (keys xs).Nodup) (hperm : xs.Perm ys) (k : α) :
    xs.lookup k = ys.lookup k := by
  cases hk : xs.lookup k with
  | none =>
    rw [lookup_eq_none, keys, (hperm.map Prod.fst).mem_iff] at hk
    exact ((lookup_eq_none k ys).2 hk).symm
  | some v =>
    obtain ⟨before, after, rfl, _⟩ := List.lookup_eq_some_iff.1 hk
    have hmem : (k, v) ∈ ys := hperm.subset (by simp)
    exact (lookup_of_mem ((hperm.map Prod.fst).nodup h) hmem).symm

theorem lookup_filter_of_pos (p : α → Bool) {k : α} (hk : p k = true) (xs : List (α × β)) :
    (xs.filter fun q => p q.1).lookup k = xs.lookup k := by
  induction xs with
  | nil => rfl
  | cons x xs ih =>
    obtain ⟨l, v⟩ := x
    cases hl : p l with
    | true => simp [hl, List.lookup_cons, ih]
    | false =>
      have hne : k ≠ l := by
        rintro rfl
        rw [hk] at hl
        cases hl
      have h' : (k == l) = false := beq_eq_false_iff_ne.2 hne
      simp [hl, List.lookup_cons, h', ih]

/-! ## Putting -/

theorem put_of_notMem {k : α} {xs : List (α × β)} (h : k ∉ keys xs) (v : β) :
    put k v xs = xs ++ [(k, v)] := by
  induction xs with
  | nil => rfl
  | cons p xs ih =>
    rw [keys_cons, List.mem_cons, not_or] at h
    have hk : (k == p.1) = false := by simp [h.1]
    simp [put, hk, ih h.2]

theorem keys_put_of_mem {k : α} {xs : List (α × β)} (h : k ∈ keys xs) (v : β) :
    keys (put k v xs) = keys xs := by
  induction xs with
  | nil => simp at h
  | cons p xs ih =>
    by_cases hk : k = p.1
    · simp [put, hk]
    · have hk' : (k == p.1) = false := by simp [hk]
      rw [keys_cons, List.mem_cons, or_iff_right hk] at h
      simp [put, hk', ih h]

theorem mem_keys_put (k l : α) (v : β) (xs : List (α × β)) :
    l ∈ keys (put k v xs) ↔ l = k ∨ l ∈ keys xs := by
  by_cases h : k ∈ keys xs
  · rw [keys_put_of_mem h]
    constructor
    · exact Or.inr
    · rintro (rfl | hl)
      · exact h
      · exact hl
  · rw [put_of_notMem h, keys_append, List.mem_append, or_comm]
    simp

theorem nodup_keys_put {xs : List (α × β)} (h : (keys xs).Nodup) (k : α) (v : β) :
    (keys (put k v xs)).Nodup := by
  by_cases hk : k ∈ keys xs
  · rwa [keys_put_of_mem hk]
  · rw [put_of_notMem hk, keys_append]
    exact h.append (List.nodup_singleton k) (by simpa [keys] using hk)

theorem mem_put_self (k : α) (v : β) (xs : List (α × β)) : (k, v) ∈ put k v xs := by
  induction xs with
  | nil => simp [put]
  | cons p xs ih =>
    by_cases h : k = p.1
    · simp [put, h]
    · have h' : (k == p.1) = false := beq_eq_false_iff_ne.2 h
      simp [put, h', ih]

theorem eq_or_mem_of_mem_put {k : α} {v : β} {xs : List (α × β)} {p : α × β} (h : p ∈ put k v xs) :
    p = (k, v) ∨ p ∈ xs := by
  induction xs with
  | nil => exact .inl (List.mem_singleton.1 h)
  | cons q xs ih =>
    simp only [put] at h
    split at h
    · rename_i hk
      rcases List.mem_cons.1 h with rfl | h
      · exact .inl (by rw [eq_of_beq hk])
      · exact .inr (List.mem_cons_of_mem _ h)
    · rcases List.mem_cons.1 h with rfl | h
      · exact .inr List.mem_cons_self
      · exact (ih h).imp_right (List.mem_cons_of_mem _)

/-- A pair that goes is the one that the key had. -/
theorem mem_put_or_lookup {k : α} {xs : List (α × β)} {p : α × β} (h : p ∈ xs) (v : β) :
    p ∈ put k v xs ∨ xs.lookup k = some p.2 := by
  induction xs with
  | nil => cases h
  | cons q xs ih =>
    obtain ⟨l, u⟩ := q
    by_cases hk : k = l
    · subst hk
      rcases List.mem_cons.1 h with rfl | h
      · exact .inr List.lookup_cons_self
      · exact .inl (by simp [put, h])
    · have hk' : (k == l) = false := beq_eq_false_iff_ne.2 hk
      rcases List.mem_cons.1 h with rfl | h
      · exact .inl (by simp [put, hk'])
      · simpa [put, hk', List.lookup_cons] using (ih h).imp_left Or.inr

theorem put_put (k : α) (u v : β) (xs : List (α × β)) : put k v (put k u xs) = put k v xs := by
  induction xs with
  | nil => simp [put]
  | cons p xs ih =>
    by_cases h : k = p.1
    · simp [put, h]
    · have h' : (k == p.1) = false := beq_eq_false_iff_ne.2 h
      simp [put, h', ih]

theorem mem_keys_putAll (l : α) (new xs : List (α × β)) :
    l ∈ keys (putAll new xs) ↔ l ∈ keys new ∨ l ∈ keys xs := by
  induction new generalizing xs with
  | nil => simp [putAll]
  | cons p new ih =>
    have h := ih (put p.1 p.2 xs)
    rw [mem_keys_put] at h
    rw [keys_cons, List.mem_cons]
    simp only [putAll, List.foldl_cons] at h ⊢
    rw [h]
    tauto

/-- New keys come last, in their order. -/
theorem putAll_of_nodup {new xs : List (α × β)} (h : (keys (xs ++ new)).Nodup) :
    putAll new xs = xs ++ new := by
  induction new generalizing xs with
  | nil => simp [putAll]
  | cons p new ih =>
    have hp : p.1 ∉ keys xs := by
      rw [keys_append, keys_cons] at h
      exact fun hmem => List.disjoint_of_nodup_append h hmem List.mem_cons_self
    rw [List.append_cons] at h ⊢
    rw [putAll, List.foldl_cons, put_of_notMem hp]
    exact ih h

/-- The last value that is put under a key holds. -/
theorem lookup_putAll (new xs : List (α × β)) (k : α) :
    (putAll new xs).lookup k = (new.reverse.lookup k).or (xs.lookup k) := by
  induction new generalizing xs with
  | nil => simp [putAll]
  | cons p new ih =>
    obtain ⟨l, v⟩ := p
    have hfirst : (put l v xs).lookup k = ([(l, v)].lookup k).or (xs.lookup k) := by
      by_cases hk : k = l
      · subst hk
        simp [lookup_put_self]
      · have hkl : (k == l) = false := beq_eq_false_iff_ne.2 hk
        simp [lookup_put_of_ne hk, List.lookup_cons, hkl]
    rw [putAll, List.foldl_cons, ← putAll, ih, hfirst, List.reverse_cons, List.lookup_append,
      Option.or_assoc]

/-- Without a key twice, a list can be read off its keys. -/
theorem map_eq_filterMap_lookup {γ : Type} {xs : List (α × β)} (h : (keys xs).Nodup) (f : α × β → γ) :
    xs.map f = (keys xs).filterMap fun k => (xs.lookup k).map fun v => f (k, v) := by
  rw [keys, List.filterMap_map, ← List.filterMap_eq_map]
  refine List.filterMap_congr fun p hp => ?_
  simp [lookup_of_mem h hp]

/-! ## First pairs -/

/-- Of every key its first pair, in order. -/
def firsts : List (α × β) → List (α × β)
  | [] => []
  | p :: xs => p :: (firsts xs).filter fun q => !(q.1 == p.1)

theorem mem_keys_firsts (k : α) (xs : List (α × β)) : k ∈ keys (firsts xs) ↔ k ∈ keys xs := by
  induction xs with
  | nil => rfl
  | cons p xs ih =>
    simp only [firsts, keys_cons, List.mem_cons]
    rw [mem_keys_filter (fun l => !(l == p.1)), ih]
    by_cases h : k = p.1 <;> simp [h]

theorem nodup_keys_firsts (xs : List (α × β)) : (keys (firsts xs)).Nodup := by
  induction xs with
  | nil => exact List.nodup_nil
  | cons p xs ih =>
    rw [firsts, keys_cons, List.nodup_cons]
    constructor
    · rw [mem_keys_filter (fun l => !(l == p.1))]
      simp
    · exact ih.sublist (List.filter_sublist.map Prod.fst)

/-- The second list adds the first pairs of the keys that the first one does not have. -/
theorem firsts_append (xs ys : List (α × β)) :
    firsts (xs ++ ys) = firsts xs ++ (firsts ys).filter fun q => !(keys xs).contains q.1 := by
  induction xs with
  | nil => simp [firsts]
  | cons x xs ih =>
    rw [List.cons_append, firsts, firsts, ih, List.filter_append, List.filter_filter,
      List.cons_append]
    congr 2
    refine List.filter_congr fun q _ => ?_
    simp [Bool.not_or]

theorem lookup_firsts (k : α) (xs : List (α × β)) : (firsts xs).lookup k = xs.lookup k := by
  induction xs with
  | nil => rfl
  | cons x xs ih =>
    obtain ⟨l, v⟩ := x
    by_cases h : k = l
    · simp [firsts, h]
    · have h' : (k == l) = false := beq_eq_false_iff_ne.2 h
      rw [firsts, List.lookup_cons, List.lookup_cons, h',
        lookup_filter_of_pos (fun q => !(q == l)) (by simp [h]), ih]

/-- Keys that are put one after the other stand where they were put first. -/
theorem keys_putAll_nil (xs : List (α × β)) : keys (putAll xs []) = keys (firsts xs) := by
  induction xs using List.reverseRecOn with
  | nil => rfl
  | append_singleton xs p ih =>
    have hput : putAll (xs ++ [p]) [] = put p.1 p.2 (putAll xs []) := by
      simp [putAll, List.foldl_append]
    have hmem : p.1 ∈ keys (putAll xs []) ↔ p.1 ∈ keys xs := by rw [ih, mem_keys_firsts]
    rw [hput, firsts_append, keys_append, ← ih]
    by_cases hp : p.1 ∈ keys xs
    · simp [keys_put_of_mem (hmem.2 hp), firsts, hp]
    · simp [put_of_notMem (fun h => hp (hmem.1 h)), firsts, hp]

/-! ## Places -/

/-- What a filter keeps stays in order. -/
theorem idxOf_filter_lt_iff {k l : α} {p : α → Bool} (hk : p k = true) (hl : p l = true)
    (xs : List α) : (xs.filter p).idxOf k < (xs.filter p).idxOf l ↔ xs.idxOf k < xs.idxOf l := by
  induction xs with
  | nil => rfl
  | cons x xs ih =>
    cases hx : p x with
    | false =>
      have hxk : x ≠ k := by
        rintro rfl
        rw [hk] at hx
        cases hx
      have hxl : x ≠ l := by
        rintro rfl
        rw [hl] at hx
        cases hx
      rw [List.filter_cons_of_neg (by simp [hx]), ih, List.idxOf_cons_ne _ hxk,
        List.idxOf_cons_ne _ hxl, Nat.succ_lt_succ_iff]
    | true =>
      rw [List.filter_cons_of_pos hx]
      by_cases hxl : x = l
      · subst hxl
        simp
      · by_cases hxk : x = k
        · subst hxk
          simp [List.idxOf_cons_ne _ hxl]
        · rw [List.idxOf_cons_ne _ hxk, List.idxOf_cons_ne _ hxl, List.idxOf_cons_ne _ hxk,
            List.idxOf_cons_ne _ hxl, Nat.succ_lt_succ_iff, Nat.succ_lt_succ_iff, ih]

/-- First pairs stay in order. -/
theorem idxOf_keys_firsts_lt_iff (k l : α) (xs : List (α × β)) :
    (keys (firsts xs)).idxOf k < (keys (firsts xs)).idxOf l ↔
      (keys xs).idxOf k < (keys xs).idxOf l := by
  induction xs with
  | nil => rfl
  | cons x xs ih =>
    have hkeys : keys ((firsts xs).filter fun q => !(q.1 == x.1)) =
        (keys (firsts xs)).filter fun m => !(m == x.1) := by
      rw [keys, keys, List.filter_map]
      rfl
    rw [firsts, keys_cons, keys_cons, hkeys]
    by_cases hl : x.1 = l
    · simp [hl]
    · by_cases hk : x.1 = k
      · simp [hk, List.idxOf_cons_ne _ (hk ▸ hl)]
      · rw [List.idxOf_cons_ne _ hk, List.idxOf_cons_ne _ hl, List.idxOf_cons_ne _ hk,
          List.idxOf_cons_ne _ hl, Nat.succ_lt_succ_iff, Nat.succ_lt_succ_iff,
          idxOf_filter_lt_iff (by simp [Ne.symm hk]) (by simp [Ne.symm hl]), ih]

end Bundler.Keyed
