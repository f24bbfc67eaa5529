import Bundler.Proofs.Value
import Bundler.Toml.Document

/-!
# Bundler.Proofs.Toml.Distinct

A configuration text sets every key once: the tables that are read from it, at any depth, have
distinct keys.

* `Nest.distinct_update`: a change somewhere inside a table keeps its keys distinct.
* `distinct_of_readValue`: values in front of a text.
* `distinct_of_parse`: whole texts.
-/

namespace Bundler.Toml

theorem exists_of_map_eq_ok {ε α β : Type} {r : Except ε α} {f : α → β} {b : β}
    (h : r.map f = .ok b) : ∃ a, r = .ok a ∧ f a = b := by
  cases r with
  | error e => cases h
  | ok a =>
    cases h
    exact ⟨a, rfl, rfl⟩

/-! ## Changes inside a table -/

theorem Nest.distinct_setNew {taken : Problem} {k : String} {v : Value} {t t' : Table}
    (hv : v.Distinct) (ht : t.Distinct) (h : Nest.setNew taken k v t = .ok t') : t'.Distinct := by
  unfold Nest.setNew at h
  split at h
  · cases h
  · cases h
    exact ht.put k hv

theorem Nest.distinct_update {throughLists : Bool} {change : Table → Except Problem Table}
    (hchange : ∀ {u u' : Table}, u.Distinct → change u = .ok u' → u'.Distinct) {key : Key}
    {t t' : Table} (ht : t.Distinct) (h : Nest.update throughLists change key t = .ok t') : t'.Distinct := by
  induction key generalizing t t' with
  | nil => exact hchange ht h
  | cons k ks ih =>
    unfold Nest.update at h
    split at h
    · obtain ⟨sub, hsub, rfl⟩ := exists_of_map_eq_ok h
      exact ht.put k (Value.distinct_table_iff.2 (ih .nil hsub))
    · rename_i hold
      have hold' := Value.distinct_table_iff.1 (ht.of_lookup hold)
      obtain ⟨sub, hsub, rfl⟩ := exists_of_map_eq_ok h
      exact ht.put k (Value.distinct_table_iff.2 (ih hold' hsub))
    · rename_i vs hvs
      have hmembers := Value.distinct_list_iff.1 (ht.of_lookup hvs)
      split at h
      · -- the last member is changed, the others stay
        rename_i hlast
        have hold := Value.distinct_table_iff.1 (hmembers _ (List.mem_of_getLast? hlast))
        obtain ⟨sub, hsub, rfl⟩ := exists_of_map_eq_ok h
        refine ht.put k (Value.distinct_list_iff.2 fun v hv => ?_)
        rcases List.mem_append.1 hv with hv | hv
        · exact hmembers v (List.dropLast_subset vs hv)
        · rw [List.mem_singleton.1 hv, Value.distinct_table_iff]
          exact ih hold hsub
      · cases h
    · cases h

/-! ## Values -/

theorem distinct_of_readPlain? {s rest : List Char} {v : Value}
    (h : readPlain? s = some (.ok (v, rest))) : v.Distinct := by
  have hstr : ∀ r, some (readPlain?.strStep r) = some (.ok (v, rest)) → v.Distinct := by
    intro r hr
    obtain ⟨x, _, hx⟩ := exists_of_map_eq_ok (Option.some.inj hr)
    cases hx
    exact .scalar nofun nofun
  unfold readPlain? at h
  split at h
  · exact hstr _ h
  · exact hstr _ h
  · exact hstr _ h
  · exact hstr _ h
  · cases h
    exact .scalar nofun nofun
  · cases h
    exact .scalar nofun nofun
  · cases h

theorem distinct_of_readDecimal? {s rest : List Char} {v : Value}
    (h : readDecimal? s = some (.ok (v, rest))) : v.Distinct := by
  unfold readDecimal? at h
  simp only [bind, Option.bind] at h
  split at h
  · cases h
  · simp only [pure] at h
    split at h
    · split at h
      · cases h
      · cases h
        exact .scalar nofun nofun
    · cases h
      exact .scalar nofun nofun

theorem distinct_of_readNumber? {s rest : List Char} {v : Value}
    (h : readNumber? s = some (.ok (v, rest))) : v.Distinct := by
  unfold readNumber? at h
  split at h
  · cases h
    exact .scalar nofun nofun
  · split at h
    · rename_i hdecimal
      cases h
      exact distinct_of_readDecimal? hdecimal
    · obtain ⟨x, hx, hv⟩ := Option.map_eq_some_iff.1 h
      cases hv
      simp only [readNamed?] at hx
      split at hx
      · cases hx
        exact .scalar nofun nofun
      · obtain ⟨_, _, hnan⟩ := Option.map_eq_some_iff.1 hx
        cases hnan
        exact .scalar nofun nofun

theorem distinct_of_readScalar {s rest : List Char} {v : Value} (h : readScalar s = .ok (v, rest)) :
    v.Distinct := by
  unfold readScalar at h
  split at h
  · rename_i hplain
    exact distinct_of_readPlain? (h ▸ hplain)
  · split at h
    · obtain ⟨x, _, hx⟩ := exists_of_map_eq_ok h
      cases hx
      exact .scalar nofun nofun
    · split at h
      · rename_i hnumber
        exact distinct_of_readNumber? (h ▸ hnumber)
      · cases h

/-- Values, members of arrays and fields of inline tables that are read with some fuel. -/
structure ReadsDistinct (fuel : Nat) : Prop where
  value {s rest : List Char} {v : Value} : valueFrom fuel s = .ok (v, rest) → v.Distinct
  items {s rest : List Char} {vs : List Value} :
    itemsFrom fuel s = .ok (vs, rest) → ∀ v ∈ vs, v.Distinct
  fields {frozen : List Key} {t t' : Table} {s rest : List Char} :
    t.Distinct → fieldsFrom fuel frozen t s = .ok (t', rest) → t'.Distinct

namespace ReadsDistinct

variable {fuel : Nat}

theorem value_succ (ih : ReadsDistinct fuel) {s rest : List Char} {v : Value}
    (h : valueFrom (fuel + 1) s = .ok (v, rest)) : v.Distinct := by
  unfold valueFrom at h
  split at h
  · split at h
    · cases h
    · cases h
      exact .list (by simp)
    · obtain ⟨x, hx, heq⟩ := exists_of_map_eq_ok h
      cases heq
      exact .list (ih.items hx)
  · split at h
    · cases h
      exact Value.distinct_table_iff.2 .nil
    · obtain ⟨x, hx, heq⟩ := exists_of_map_eq_ok h
      cases heq
      exact Value.distinct_table_iff.2 (ih.fields .nil hx)
  · exact distinct_of_readScalar h

theorem items_succ (ih : ReadsDistinct fuel) {s rest : List Char} {vs : List Value}
    (h : itemsFrom (fuel + 1) s = .ok (vs, rest)) : ∀ v ∈ vs, v.Distinct := by
  unfold itemsFrom at h
  split at h
  · cases h
  · rename_i v _ hv
    have hone : ∀ u ∈ [v], u.Distinct := by
      simpa using ih.value hv
    split at h
    · cases h
    · cases h
      exact hone
    · split at h
      · cases h
      · cases h
        exact hone
      · obtain ⟨x, hx, heq⟩ := exists_of_map_eq_ok h
        cases heq
        exact List.forall_mem_cons.2 ⟨ih.value hv, ih.items hx⟩
    · cases h

theorem fields_succ (ih : ReadsDistinct fuel) {frozen : List Key} {t t' : Table} {s rest : List Char}
    (ht : t.Distinct) (h : fieldsFrom (fuel + 1) frozen t s = .ok (t', rest)) : t'.Distinct := by
  unfold fieldsFrom at h
  split at h
  · cases h
  · split at h
    · cases h
    · split at h
      · cases h
      · rename_i hv
        split at h
        · cases h
        · simp only at h
          split at h
          · cases h
          · rename_i hset
            have hnext := Nest.distinct_update (Nest.distinct_setNew (ih.value hv)) ht hset
            split at h
            · cases h
              exact hnext
            · exact ih.fields hnext h
            · cases h

end ReadsDistinct

theorem readsDistinct (fuel : Nat) : ReadsDistinct fuel := by
  induction fuel with
  | zero =>
    refine ⟨fun h => ?_, fun h => ?_, fun _ h => ?_⟩
    · unfold valueFrom at h
      cases h
    · unfold itemsFrom at h
      cases h
    · unfold fieldsFrom at h
      cases h
  | succ fuel ih => exact ⟨ih.value_succ, ih.items_succ, ih.fields_succ⟩

theorem distinct_of_readValue {s rest : List Char} {v : Value} (h : readValue s = .ok (v, rest)) :
    v.Distinct :=
  (readsDistinct _).value h

/-! ## Documents -/

variable {d d' : Draft} {s rest : List Char}

namespace Draft

theorem distinct_openTable {key : Key} (hd : d.data.Distinct) (h : d.openTable key = .ok d') :
    d'.data.Distinct := by
  unfold openTable at h
  split at h
  · cases h
  · obtain ⟨data, hdata, rfl⟩ := exists_of_map_eq_ok h
    refine Nest.distinct_update ?_ hd hdata
    intro u u' hu hchange
    cases hchange
    exact hu

theorem distinct_appendToList {k : String} {t t' : Table} (ht : t.Distinct)
    (h : appendToList k t = .ok t') : t'.Distinct := by
  have hempty : (Value.table []).Distinct := Value.distinct_table_iff.2 .nil
  unfold appendToList at h
  split at h
  · cases h
    exact ht.put k (.list (by simpa using hempty))
  · rename_i vs hvs
    cases h
    have hmembers := Value.distinct_list_iff.1 (ht.of_lookup hvs)
    refine ht.put k (.list fun v hv => ?_)
    rcases List.mem_append.1 hv with hv | hv
    · exact hmembers v hv
    · rwa [List.mem_singleton.1 hv]
  · cases h

theorem distinct_openListItem {key : Key} (hd : d.data.Distinct) (h : d.openListItem key = .ok d') :
    d'.data.Distinct := by
  unfold openListItem at h
  split at h
  · cases h
  · obtain ⟨data, hdata, rfl⟩ := exists_of_map_eq_ok h
    exact Nest.distinct_update distinct_appendToList hd hdata

theorem distinct_setKey {key : Key} {v : Value} (hd : d.data.Distinct) (hv : v.Distinct)
    (h : d.setKey key v = .ok d') : d'.data.Distinct := by
  simp only [setKey] at h
  split at h
  · cases h
  · split at h
    · cases h
    · obtain ⟨data, hdata, rfl⟩ := exists_of_map_eq_ok h
      exact Nest.distinct_update (Nest.distinct_setNew hv) hd hdata

end Draft

theorem eq_ok_of_settle {r : Except Problem Draft} (h : settle r s = .ok d) :
    r = .ok d := by
  cases r with
  | error e => cases h
  | ok d' =>
    cases h
    rfl

theorem distinct_of_readListHeader (hd : d.data.Distinct)
    (h : readListHeader d s = .ok (d', rest)) : d'.data.Distinct := by
  unfold readListHeader at h
  split at h
  · cases h
  · split at h
    · cases h
    · rename_i hopened
      split at h
      · cases h
        exact Draft.distinct_openListItem (d := d.closeSection) hd (eq_ok_of_settle hopened)
      · cases h

theorem distinct_of_readTableHeader (hd : d.data.Distinct)
    (h : readTableHeader d s = .ok (d', rest)) : d'.data.Distinct := by
  unfold readTableHeader at h
  split at h
  · cases h
  · split at h
    · cases h
    · rename_i hopened
      split at h
      · cases h
        exact Draft.distinct_openTable (d := d.closeSection) hd (eq_ok_of_settle hopened)
      · cases h

theorem distinct_of_readKeyValue (hd : d.data.Distinct) (h : readKeyValue d s = .ok (d', rest)) :
    d'.data.Distinct := by
  unfold readKeyValue at h
  split at h
  · cases h
  · split at h
    · cases h
    · split at h
      · cases h
      · rename_i hv
        obtain ⟨x, hx, heq⟩ := exists_of_map_eq_ok h
        cases heq
        exact Draft.distinct_setKey hd (distinct_of_readValue hv) (eq_ok_of_settle hx)

theorem distinct_of_readStatement (hd : d.data.Distinct) (h : readStatement d s = .ok (d', rest)) :
    d'.data.Distinct := by
  unfold readStatement at h
  split at h
  · exact distinct_of_readListHeader hd h
  · exact distinct_of_readTableHeader hd h
  · cases h
    exact hd
  · split at h
    · exact distinct_of_readKeyValue hd h
    · cases h
  · cases h
    exact hd

theorem distinct_of_statementsFrom {fuel : Nat} (hd : d.data.Distinct)
    (h : statementsFrom fuel d s = .ok d') : d'.data.Distinct := by
  induction fuel generalizing d s with
  | zero =>
    cases h
    exact hd
  | succ fuel ih =>
    rw [statementsFrom] at h
    split at h
    · cases h
      exact hd
    · exact ih hd h
    · split at h
      · cases h
      · rename_i hstatement
        have hnext := distinct_of_readStatement hd hstatement
        split at h
        · cases h
        · cases h
          exact hnext
        · exact ih hnext h
        · cases h

theorem distinct_of_parse {text : String} {t : Table} (h : parse text = .ok t) : t.Distinct := by
  simp only [parse] at h
  split at h
  · rename_i hstatements
    cases h
    exact distinct_of_statementsFrom .nil hstatements
  · cases h

end Bundler.Toml
