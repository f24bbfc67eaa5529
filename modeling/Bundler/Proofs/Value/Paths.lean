import Bundler.Proofs.Value

/-!
# Bundler.Proofs.Value.Paths

Tables laid on each other, seen along paths of keys. At the end of a path stands what the overlay has
there, laid on what the base has there. Where the overlay has nothing, the base shows through, unless the
overlay has put something other than a table in the way.

* `Value.at? v p`: what stands at the end of a path.
* `Value.at?_onto`, `Value.at?_onto_of_open`: the two cases of a value laid on another.
* `Value.onto_onto`: a value that is laid on again changes nothing.
* `Table.keys_merge`: the keys of the base come first, then the new ones of the overlay.
* `Table.merge_along_paths`: the law of merging, path by path.
-/

namespace Bundler

/-! ## Paths -/

namespace Value

/-- What stands at the end of a path of keys; the empty path leads to the value itself. -/
def at? : Value → List String → Option Value
  | v, [] => some v
  | .table t, k :: p =>
    match t.lookup k with
    | some v => v.at? p
    | none => none
  | _, _ :: _ => none

def IsTable (v : Value) : Prop :=
  ∃ t, v = .table t

@[simp] theorem at?_nil (v : Value) : v.at? [] = some v := by
  cases v <;> rfl

theorem at?_cons (t : Table) (k : String) (p : List String) :
    (Value.table t).at? (k :: p) = (t.lookup k).bind (·.at? p) := by
  rw [at?]
  cases t.lookup k <;> rfl

theorem at?_cons_of_not_isTable {v : Value} (h : ¬ v.IsTable) (k : String) (p : List String) :
    v.at? (k :: p) = none := by
  cases v with
  | table t => exact absurd ⟨t, rfl⟩ h
  | _ => rfl

theorem at?_cons_eq_some {v u : Value} {k : String} {p : List String} (h : v.at? (k :: p) = some u) :
    ∃ t w, v = .table t ∧ t.lookup k = some w ∧ w.at? p = some u := by
  by_cases htable : v.IsTable
  · obtain ⟨t, rfl⟩ := htable
    rw [at?_cons] at h
    obtain ⟨w, hk, hw⟩ := Option.bind_eq_some_iff.1 h
    exact ⟨t, w, rfl, hk, hw⟩
  · rw [at?_cons_of_not_isTable htable] at h
    cases h

theorem at?_append (v : Value) (p q : List String) : v.at? (p ++ q) = (v.at? p).bind (·.at? q) := by
  induction p generalizing v with
  | nil => simp
  | cons k p ih =>
    cases v with
    | table t =>
      rw [List.cons_append, at?_cons, at?_cons, Option.bind_assoc]
      exact Option.bind_congr fun u _ => ih u
    | _ => rfl

/-- Nothing stands behind a value that is no table. -/
theorem at?_of_blocked {v u : Value} {p q : List String} (hq : v.at? q = some u) (hu : ¬ u.IsTable)
    (hfront : q <+: p) (hne : q ≠ p) : v.at? p = none := by
  obtain ⟨r, rfl⟩ := hfront
  rw [at?_append, hq, Option.bind_some]
  cases r with
  | nil => simp at hne
  | cons k r => exact at?_cons_of_not_isTable hu k r

/-- On the way along a path, up to its end, the value has nothing but tables. -/
def IsOpen (v : Value) (p : List String) : Prop :=
  ∀ q, q <+: p → q ≠ p → ∀ u, v.at? q = some u → u.IsTable

theorem IsOpen.isTable {v : Value} {k : String} {p : List String} (h : v.IsOpen (k :: p)) :
    v.IsTable :=
  h [] List.nil_prefix (by simp) v (by simp)

theorem IsOpen.tail {t : Table} {k : String} {p : List String} {v : Value}
    (h : (Value.table t).IsOpen (k :: p)) (hk : t.lookup k = some v) : v.IsOpen p := by
  intro q hq hne u hu
  refine h (k :: q) ((List.prefix_cons_inj k).2 hq) (by simpa using hne) u ?_
  rw [at?_cons, hk, Option.bind_some, hu]

/-! ## Laying on -/

theorem onto_none (v : Value) : v.onto none = v :=
  v.onto_of_noTable (by simp [NoTable])

/-- A table laid on anything but a table takes its place. -/
theorem onto_table (t : Table) (old : Option Value) :
    (∃ b, old = some (.table b) ∧ (Value.table t).onto old = .table (Table.merge t b)) ∨
      NoTable old ∧ (Value.table t).onto old = .table t := by
  by_cases h : NoTable old
  · exact .inr ⟨h, (Value.table t).onto_of_noTable h⟩
  · obtain ⟨b, hb⟩ := not_forall_not.1 h
    exact .inl ⟨b, hb, by rw [hb]; rfl⟩

theorem bind_at?_cons_of_noTable {old : Option Value} (h : NoTable old) (k : String) (p : List String) :
    old.bind (·.at? (k :: p)) = none := by
  cases old with
  | none => rfl
  | some v =>
    refine at?_cons_of_not_isTable ?_ k p
    rintro ⟨t, rfl⟩
    exact h t rfl

/-- What the overlay has at the end of a path is laid on what stood there. -/
theorem at?_onto {v u : Value} {p : List String} (hv : v.Distinct) (h : v.at? p = some u)
    (old : Option Value) : (v.onto old).at? p = some (u.onto (old.bind (·.at? p))) := by
  induction p generalizing v old with
  | nil =>
    obtain rfl : v = u := by simpa using h
    simp
  | cons k p ih =>
    obtain ⟨t, w, rfl, hk, hw⟩ := at?_cons_eq_some h
    have ht := distinct_table_iff.1 hv
    rcases onto_table t old with ⟨b, rfl, honto⟩ | ⟨hold, honto⟩
    · rw [Option.bind_some, honto, at?_cons, at?_cons, Table.lookup_merge ht.nodup, hk]
      exact ih (ht.of_lookup hk) hw (b.lookup k)
    · rw [honto, h, bind_at?_cons_of_noTable hold, onto_none]

/-- Where the overlay has nothing and nothing in the way, the old value shows through. -/
theorem at?_onto_of_open {v : Value} {p : List String} (hv : v.Distinct) (h : v.at? p = none)
    (hopen : v.IsOpen p) (old : Option Value) : (v.onto old).at? p = old.bind (·.at? p) := by
  induction p generalizing v old with
  | nil => simp at h
  | cons k p ih =>
    obtain ⟨t, rfl⟩ := hopen.isTable
    have ht := distinct_table_iff.1 hv
    rcases onto_table t old with ⟨b, rfl, honto⟩ | ⟨hold, honto⟩
    · rw [honto, at?_cons, Table.lookup_merge ht.nodup, Option.bind_some, at?_cons]
      cases hk : t.lookup k with
      | none => rfl
      | some w =>
        rw [at?_cons, hk, Option.bind_some] at h
        exact ih (ht.of_lookup hk) h (hopen.tail hk) (b.lookup k)
    -- the overlay stands alone here, and what it replaces has nothing below it either
    · rw [honto, h, bind_at?_cons_of_noTable hold]

theorem Distinct.of_at? {v u : Value} {p : List String} (hv : v.Distinct) (h : v.at? p = some u) :
    u.Distinct := by
  induction p generalizing v with
  | nil =>
    obtain rfl : v = u := by simpa using h
    exact hv
  | cons k p ih =>
    obtain ⟨t, w, rfl, hk, hw⟩ := at?_cons_eq_some h
    exact ih ((distinct_table_iff.1 hv).of_lookup hk) hw

end Value

/-! ## Laying on twice -/

theorem Keyed.put_of_lookup {k : String} {v : Value} {t : Table} (h : t.lookup k = some v) :
    Keyed.put k v t = t := by
  induction t with
  | nil => cases h
  | cons p t ih =>
    obtain ⟨l, u⟩ := p
    by_cases hk : k = l
    · subst hk
      obtain rfl : u = v := by simpa using h
      simp [Keyed.put]
    · have hkl : (k == l) = false := beq_eq_false_iff_ne.2 hk
      rw [List.lookup_cons, hkl] at h
      simp [Keyed.put, hkl, ih h]

/-- An overlay changes nothing where every key already holds what the overlay would make of it. -/
theorem Table.merge_eq_self {overlay base : Table}
    (h : ∀ p ∈ overlay, base.lookup p.1 = some (p.2.onto (base.lookup p.1))) :
    Table.merge overlay base = base := by
  induction overlay with
  | nil => rfl
  | cons p overlay ih =>
    obtain ⟨k, v⟩ := p
    rw [Table.merge, Table.mergeField, Keyed.put_of_lookup (h (k, v) List.mem_cons_self)]
    exact ih fun q hq => h q (List.mem_cons_of_mem _ hq)

/-- By induction on the nesting of the overlay, whose values are laid on themselves in turn. -/
theorem Value.onto_onto {v : Value} (hv : v.Distinct) (old : Option Value) :
    v.onto (some (v.onto old)) = v.onto old := by
  induction hv generalizing old with
  | scalar _ htable => rw [onto_of_ne_table htable, onto_of_ne_table htable]
  | list _ _ => rfl
  | @table t hnodup _ ih =>
    rcases onto_table t old with ⟨b, rfl, honto⟩ | ⟨_, honto⟩
    · rw [honto]
      refine congrArg Value.table (Table.merge_eq_self fun p hp => ?_)
      rw [Table.lookup_merge hnodup, Keyed.lookup_of_mem hnodup hp]
      exact congrArg some (ih p hp _).symm
    · rw [honto]
      refine congrArg Value.table (Table.merge_eq_self fun p hp => ?_)
      have hself := ih p hp none
      rw [onto_none] at hself
      rw [Keyed.lookup_of_mem hnodup hp, hself]

/-- The keys of the base come first, then those of the overlay that are new. -/
theorem Table.keys_merge {overlay : Table} (h : (Keyed.keys overlay).Nodup) (base : Table) :
    Keyed.keys (Table.merge overlay base) =
      Keyed.keys base ++ (Keyed.keys overlay).filter fun k => !(Keyed.keys base).contains k := by
  induction overlay generalizing base with
  | nil => simp [Table.merge]
  | cons p overlay ih =>
    obtain ⟨k, v⟩ := p
    rw [Keyed.keys_cons, List.nodup_cons] at h
    rw [Table.merge, ih h.2, Table.mergeField, Keyed.keys_cons]
    by_cases hk : k ∈ Keyed.keys base
    · rw [Keyed.keys_put_of_mem hk]
      simp [hk]
    · rw [Keyed.put_of_notMem hk, Keyed.keys_append]
      have hrest : (Keyed.keys overlay).filter (fun l => !(Keyed.keys base ++ [k]).contains l) =
          (Keyed.keys overlay).filter fun l => !(Keyed.keys base).contains l := by
        refine List.filter_congr fun l hl => ?_
        have hne : l ≠ k := fun heq => h.1 (heq ▸ hl)
        simp [hne]
      simpa [hk] using hrest

/-! ## The law of merging -/

def Table.at? (t : Table) (p : List String) : Option Value :=
  (Value.table t).at? p

/-- At the end of a path stands the overlay's value if it is no table. Behind such a value stands nothing.
Where the overlay has nothing, and nothing but tables on the way, the base shows through. Where it has a
table there is one: laid on the table that the base has there, whose keys come first, or else the
overlay's own. So the same overlay laid on again changes nothing, not even the order of keys. -/
theorem Table.merge_along_paths {overlay : Table} (h : overlay.Distinct) (base : Table) :
    (∀ p v, overlay.at? p = some v → ¬ v.IsTable → (Table.merge overlay base).at? p = some v) ∧
    (∀ p q v, overlay.at? q = some v → ¬ v.IsTable → q <+: p → q ≠ p →
      (Table.merge overlay base).at? p = none) ∧
    (∀ p, overlay.at? p = none →
      (∀ q, q <+: p → q ≠ p → ∀ v, overlay.at? q = some v → v.IsTable) →
      (Table.merge overlay base).at? p = base.at? p) ∧
    (∀ p t, overlay.at? p = some (.table t) →
      ∃ m, (Table.merge overlay base).at? p = some (.table m) ∧
        (∀ b, base.at? p = some (.table b) → m = Table.merge t b ∧
          Keyed.keys m = Keyed.keys b ++ (Keyed.keys t).filter fun k => !(Keyed.keys b).contains k) ∧
        (NoTable (base.at? p) → m = t)) ∧
    Table.merge overlay (Table.merge overlay base) = Table.merge overlay base ∧
    Keyed.keys (Table.merge overlay base) =
      Keyed.keys base ++ (Keyed.keys overlay).filter fun k => !(Keyed.keys base).contains k := by
  have hdistinct : (Value.table overlay).Distinct := Value.distinct_table_iff.2 h
  have hsome : ∀ p v, overlay.at? p = some v →
      (Table.merge overlay base).at? p = some (v.onto (base.at? p)) :=
    fun p v hp => Value.at?_onto hdistinct hp (some (.table base))
  have hscalar : ∀ p v, overlay.at? p = some v → ¬ v.IsTable →
      (Table.merge overlay base).at? p = some v := by
    intro p v hp hv
    rw [hsome p v hp, Value.onto_of_ne_table fun t ht => hv ⟨t, ht⟩]
  refine ⟨hscalar, fun p q v hq hv => Value.at?_of_blocked (hscalar q v hq hv) hv, fun p hp hopen => ?_,
    fun p t hp => ?_, ?_, Table.keys_merge h.nodup base⟩
  · exact Value.at?_onto_of_open hdistinct hp hopen (some (.table base))
  · rw [hsome p _ hp]
    rcases Value.onto_table t (base.at? p) with ⟨b, hb, honto⟩ | ⟨hno, honto⟩
    · refine ⟨Table.merge t b, by rw [honto], fun b' hb' => ?_, fun hno => absurd hb (hno b)⟩
      obtain rfl : b = b' := by simpa [hb] using hb'
      exact ⟨rfl, Table.keys_merge (Value.distinct_table_iff.1 (hdistinct.of_at? hp)).nodup b⟩
    · exact ⟨t, by rw [honto], fun b hb => absurd hb (hno b), fun _ => rfl⟩
  · exact Value.table.inj (Value.onto_onto hdistinct (some (.table base)))

/-- An overlay with tables and other values, also an empty table, to be laid on one another. -/
def layeredOverlay : Table :=
  [("a", .table [("x", .int 1), ("w", .null)]), ("b", .int 2), ("c", .table []), ("e", .table [])]

def layeredBase : Table :=
  [("d", .bool true), ("c", .int 5), ("a", .table [("y", .int 3), ("x", .table [("z", .int 0)])]),
    ("b", .table [("z", .int 4)]), ("e", .table [("v", .int 6)])]

theorem Table.merge_along_paths_layered :
    layeredOverlay.Distinct ∧
    (Table.merge layeredOverlay layeredBase).at? ["a", "x"] = some (.int 1) ∧
    (Table.merge layeredOverlay layeredBase).at? ["a", "x", "z"] = none ∧
    (Table.merge layeredOverlay layeredBase).at? ["e", "v"] = some (.int 6) ∧
    (Table.merge layeredOverlay layeredBase).at? ["c"] = some (.table []) ∧
    Table.merge layeredOverlay (Table.merge layeredOverlay layeredBase) =
      Table.merge layeredOverlay layeredBase ∧
    Keyed.keys (Table.merge layeredOverlay layeredBase) = ["d", "c", "a", "b", "e"] := by
  have hdistinct : layeredOverlay.Distinct := by
    refine ⟨by decide, ?_⟩
    simp only [layeredOverlay, List.forall_mem_cons]
    refine ⟨.table (by decide) ?_, .scalar nofun nofun, .table (by decide) nofun,
      .table (by decide) nofun, nofun⟩
    simp only [List.forall_mem_cons]
    exact ⟨.scalar nofun nofun, .scalar nofun nofun, nofun⟩
  obtain ⟨hscalar, hbehind, hopen, htable, hagain, hkeys⟩ :=
    Table.merge_along_paths hdistinct layeredBase
  refine ⟨hdistinct, hscalar _ _ rfl nofun, hbehind _ ["a", "x"] _ rfl nofun ⟨["z"], rfl⟩ (by decide), ?_,
    ?_, hagain, hkeys.trans (by decide)⟩
  · refine (hopen ["e", "v"] rfl fun q hq hne v hv => ?_).trans rfl
    obtain rfl | rfl : q = [] ∨ q = ["e"] := by
      rcases q with _ | ⟨k, _ | ⟨l, q⟩⟩
      · exact .inl rfl
      · simp_all
      · simp_all
    · exact ⟨_, (Option.some.inj hv).symm⟩
    · exact ⟨_, (Option.some.inj hv).symm⟩
  · obtain ⟨m, hm, _, hother⟩ := htable ["c"] [] rfl
    rw [hm, hother nofun]

end Bundler
