import Bundler.Proofs.Keyed
import Bundler.Value

/-!
# Bundler.Proofs.Value

Tables laid on each other, key by key.

* `Table.lookup_merge`: what a key holds after an overlay has been laid on a table;
  `Table.lookup_merge_of_noTable`, `Table.lookup_merge_under`: its two cases.
* `Table.Distinct`: no table in it, at any depth, has a key twice.
-/

namespace Bundler

theorem Value.onto_of_ne_table {v : Value} (h : ∀ t, v ≠ .table t) (old : Option Value) :
    v.onto old = v := by
  cases v with
  | table t => exact absurd rfl (h t)
  | _ => rfl

/-- A key of the overlay holds its value laid on the old one; the others keep theirs. -/
theorem Table.lookup_merge {overlay : Table} (h : (Keyed.keys overlay).Nodup) (base : Table)
    (k : String) :
    (Table.merge overlay base).lookup k =
      match overlay.lookup k with
      | some v => some (v.onto (base.lookup k))
      | none => base.lookup k := by
  induction overlay generalizing base with
  | nil => simp [Table.merge]
  | cons p overlay ih =>
    obtain ⟨l, v⟩ := p
    rw [Keyed.keys_cons, List.nodup_cons] at h
    rw [Table.merge, ih h.2, Table.mergeField]
    by_cases hk : k = l
    · subst hk
      rw [(Keyed.lookup_eq_none k overlay).2 h.1, List.lookup_cons_self, Keyed.lookup_put_self]
    · have hkl : (k == l) = false := by simp [hk]
      rw [List.lookup_cons, hkl, Keyed.lookup_put_of_ne hk]

/-- The value, if there is one, is no table. -/
def NoTable (v : Option Value) : Prop :=
  ∀ t, v ≠ some (.table t)

theorem NoTable.or {v u : Option Value} (hv : NoTable v) (hu : NoTable u) : NoTable (v.or u) := by
  cases v with
  | none => simpa using hu
  | some v => exact hv

theorem Value.onto_of_noTable (v : Value) {old : Option Value} (h : NoTable old) :
    v.onto old = v := by
  cases v with
  | table t =>
    cases old with
    | none => rfl
    | some u =>
      cases u with
      | table base => exact absurd rfl (h base)
      | _ => rfl
  | _ => rfl

/-- Where two tables do not meet, the overlay's value wins. -/
theorem Table.lookup_merge_of_noTable {overlay base : Table} {k : String}
    (h : (Keyed.keys overlay).Nodup) (hk : NoTable (overlay.lookup k) ∨ NoTable (base.lookup k)) :
    (Table.merge overlay base).lookup k = (overlay.lookup k).or (base.lookup k) := by
  rw [Table.lookup_merge h]
  cases hv : overlay.lookup k with
  | none => simp
  | some v =>
    have honto : v.onto (base.lookup k) = v := by
      rcases hk with hv' | hbase
      · exact Value.onto_of_ne_table (fun t ht => hv' t (ht ▸ hv)) _
      · exact v.onto_of_noTable hbase
    simp [honto]

/-- The table under a key; it is empty when there is none. -/
def Table.under (k : String) (t : Table) : Table :=
  match t.lookup k with
  | some (.table sub) => sub
  | _ => []

/-- What the key holds, if it is there, is a table. -/
def Table.Nests (k : String) (t : Table) : Prop :=
  ∀ v, t.lookup k = some v → ∃ sub, v = .table sub

/-- A table under a key is laid on the one that was there. -/
theorem Table.lookup_merge_under {overlay base sub : Table} {k : String}
    (h : (Keyed.keys overlay).Nodup) (hoverlay : overlay.Nests k)
    (hbase : base.lookup k = some (.table sub)) :
    (Table.merge overlay base).lookup k = some (.table (Table.merge (overlay.under k) sub)) := by
  rw [Table.lookup_merge h, Table.under]
  cases hv : overlay.lookup k with
  | none => simpa [Table.merge] using hbase
  | some v =>
    obtain ⟨t, rfl⟩ := hoverlay v hv
    rw [hbase]
    rfl

/-! ## Distinct keys -/

/-- No table in the value, at any depth, has a key twice. -/
inductive Value.Distinct : Value → Prop where
  | scalar {v : Value} : (∀ xs, v ≠ .list xs) → (∀ t, v ≠ .table t) → Distinct v
  | list {xs : List Value} : (∀ v ∈ xs, Distinct v) → Distinct (.list xs)
  | table {t : Table} : (Keyed.keys t).Nodup → (∀ p ∈ t, Distinct p.2) → Distinct (.table t)

structure Table.Distinct (t : Table) : Prop where
  nodup : (Keyed.keys t).Nodup
  values : ∀ p ∈ t, p.2.Distinct

theorem Value.distinct_table_iff {t : Table} : (Value.table t).Distinct ↔ t.Distinct := by
  constructor
  · intro h
    cases h with
    | scalar _ htable => exact absurd rfl (htable t)
    | table hkeys hvalues => exact ⟨hkeys, hvalues⟩
  · exact fun h => .table h.nodup h.values

theorem Value.distinct_list_iff {xs : List Value} :
    (Value.list xs).Distinct ↔ ∀ v ∈ xs, v.Distinct := by
  constructor
  · intro h
    cases h with
    | scalar hlist _ => exact absurd rfl (hlist xs)
    | list h => exact h
  · exact .list

namespace Table.Distinct

theorem nil : Distinct [] :=
  ⟨List.nodup_nil, by simp⟩

theorem of_lookup {t : Table} (h : t.Distinct) {k : String} {v : Value} (hk : t.lookup k = some v) :
    v.Distinct := by
  obtain ⟨before, after, rfl, _⟩ := List.lookup_eq_some_iff.1 hk
  exact h.values (k, v) (by simp)

theorem under {t : Table} (h : t.Distinct) (k : String) : (t.under k).Distinct := by
  unfold Table.under
  split
  · rename_i hk
    exact Value.distinct_table_iff.1 (h.of_lookup hk)
  · exact nil

theorem put {t : Table} (h : t.Distinct) (k : String) {v : Value} (hv : v.Distinct) :
    Distinct (Keyed.put k v t) := by
  refine ⟨Keyed.nodup_keys_put h.nodup k v, fun p hp => ?_⟩
  rcases Keyed.eq_or_mem_of_mem_put hp with rfl | hp
  · exact hv
  · exact h.values p hp

end Table.Distinct

end Bundler
