import Bundler.Proofs.Declaration

/-!
# Bundler.Proofs.Declaration.Repeats

The declarations of a source whose labels are taken, by what is known before or by an earlier declaration.

* `fresh taken ds`, `repeated taken ds`: the declarations with new labels, and the others.
* `keptPath known ds l`: the path that a taken label has.
* `resolve_fst_eq`: the declarations that are kept are the fresh ones.
* `filterMap_clash?_repeated`: only repeated declarations can clash.
* `resolveSource_keeps_first`: both for a whole source, with what the journal is told.
-/

namespace Bundler.Declaration

/-! ## Places -/

/-- The label of the declaration at a place is taken: it is among those given, or an earlier declaration
has it. -/
def Repeats (taken : List String) (ds : List Declaration) (p : Declaration × Nat) : Prop :=
  p.1.label ∈ taken ∨ ∃ e ∈ ds.take p.2, e.label = p.1.label

instance (taken : List String) (ds : List Declaration) (p : Declaration × Nat) :
    Decidable (Repeats taken ds p) :=
  inferInstanceAs (Decidable (_ ∨ _))

def fresh (taken : List String) (ds : List Declaration) : List Declaration :=
  (ds.zipIdx.filter fun p => ¬ Repeats taken ds p).map Prod.fst

def repeated (taken : List String) (ds : List Declaration) : List Declaration :=
  (ds.zipIdx.filter fun p => Repeats taken ds p).map Prod.fst

/-- The first declaration takes its label from those behind it. -/
theorem repeats_cons_succ {taken : List String} {d e : Declaration} {ds : List Declaration} {i : Nat} :
    Repeats taken (d :: ds) (e, i + 1) ↔ Repeats (d.label :: taken) ds (e, i) := by
  simp only [Repeats, List.take_succ_cons, List.mem_cons, exists_eq_or_imp]
  rw [← or_assoc, or_comm (a := e.label ∈ taken), @eq_comm _ d.label]

theorem fresh_cons (taken : List String) (d : Declaration) (ds : List Declaration) :
    fresh taken (d :: ds) =
      if d.label ∈ taken then fresh (d.label :: taken) ds else d :: fresh (d.label :: taken) ds := by
  have htail : ((ds.zipIdx 1).filter fun p => ¬ Repeats taken (d :: ds) p).map Prod.fst =
      fresh (d.label :: taken) ds := by
    rw [List.zipIdx_succ, List.filter_map, List.map_map]
    simp only [fresh, Function.comp_def, repeats_cons_succ]
  have hhead : Repeats taken (d :: ds) (d, 0) ↔ d.label ∈ taken := by simp [Repeats]
  rw [fresh, List.zipIdx_cons, Nat.zero_add]
  split
  · rename_i h
    rw [List.filter_cons_of_neg (by simpa [hhead] using h), htail]
  · rename_i h
    rw [List.filter_cons_of_pos (by simpa [hhead] using h), List.map_cons, htail]

theorem fresh_congr {taken taken' : List String} (h : ∀ l, l ∈ taken ↔ l ∈ taken')
    (ds : List Declaration) : fresh taken ds = fresh taken' ds := by
  rw [fresh, fresh]
  congr 1
  refine List.filter_congr fun p _ => ?_
  rw [decide_eq_decide, Repeats, Repeats, h]

theorem resolve_fst_eq (known : List (String × Option Path)) (ds : List Declaration) :
    (resolve known ds).1 = fresh (Keyed.keys known) ds := by
  induction ds generalizing known with
  | nil => rfl
  | cons d ds ih =>
    rw [fresh_cons]
    cases hd : known.lookup d.label with
    | none =>
      rw [if_neg ((Keyed.lookup_eq_none _ _).1 hd)]
      simp only [resolve, hd, ih]
      rfl
    | some kept =>
      have hmem : d.label ∈ Keyed.keys known := by
        by_contra hnew
        rw [(Keyed.lookup_eq_none _ _).2 hnew] at hd
        cases hd
      rw [if_pos hmem, resolve_fst_of_lookup hd, ih]
      refine fresh_congr (fun l => ?_) ds
      rw [List.mem_cons]
      exact ⟨Or.inr, fun h => h.elim (fun he => he ▸ hmem) id⟩

theorem nodup_label_fresh (known : List (String × Option Path)) (ds : List Declaration) :
    ((fresh (Keyed.keys known) ds).map label).Nodup := by
  have hkeys : (fresh (Keyed.keys known) ds).map label =
      Keyed.keys ((resolve known ds).1.map pair) := by
    simp [resolve_fst_eq, Keyed.keys, Function.comp_def, pair]
  rw [hkeys, map_pair_resolve]
  exact (Keyed.nodup_keys_firsts _).sublist (List.filter_sublist.map Prod.fst)

/-! ## Paths -/

namespace Known

def names : Known → List String
  | .labels ls => ls
  | .paths ps => Keyed.keys ps

def path? : Known → String → Option Path
  | .labels _, _ => none
  | .paths ps, l => ps.lookup l

theorem keys_entries (known : Known) : Keyed.keys known.entries = known.names := by
  cases known with
  | labels ls => simp [entries, names, Keyed.keys, Function.comp_def]
  | paths ps => simp [entries, names, Keyed.keys, Function.comp_def]

theorem lookup_entries (known : Known) (l : String) :
    known.entries.lookup l = if l ∈ known.names then some (known.path? l) else none := by
  cases hl : known.entries.lookup l with
  | none =>
    rw [Keyed.lookup_eq_none, keys_entries] at hl
    rw [if_neg hl]
  | some kept =>
    have hmem : l ∈ known.names := by
      rw [← keys_entries]
      by_contra hnew
      rw [(Keyed.lookup_eq_none _ _).2 hnew] at hl
      cases hl
    rw [if_pos hmem]
    cases known with
    | labels ls =>
      obtain ⟨before, after, hsplit, _⟩ := List.lookup_eq_some_iff.1 hl
      have hentry : (l, kept) ∈ (labels ls).entries := by simp [hsplit]
      simp only [entries, List.mem_map, Prod.mk.injEq] at hentry
      obtain ⟨_, _, _, hkept⟩ := hentry
      rw [← hkept, path?]
    | paths ps =>
      rw [entries, Keyed.lookup_map_snd] at hl
      obtain ⟨p, hp, rfl⟩ := Option.map_eq_some_iff.1 hl
      rw [path?, hp]

end Known

/-- The path that a taken label has: the known one of a known label, otherwise that of the first
declaration with the label. -/
def keptPath (known : Known) (ds : List Declaration) (l : String) : Option Path :=
  if l ∈ known.names then known.path? l else (ds.find? fun d => d.label = l).map path

theorem lookup_map_asKnown (ds : List Declaration) (l : String) :
    (ds.map asKnown).lookup l = (ds.find? fun d => d.label = l).map fun d => some d.path := by
  induction ds with
  | nil => rfl
  | cons d ds ih =>
    rw [List.map_cons, asKnown, List.lookup_cons, List.find?_cons, ih]
    by_cases h : l = d.label
    · simp [h]
    · have hne : (l == d.label) = false := beq_eq_false_iff_ne.2 h
      simp [hne, Ne.symm h]

theorem pathIn_eq_keptPath (known : Known) (ds : List Declaration) :
    pathIn (known.entries ++ ds.map asKnown) = keptPath known ds := by
  funext l
  rw [pathIn, keptPath, List.lookup_append, known.lookup_entries, lookup_map_asKnown]
  split
  · rfl
  · cases ds.find? fun d => d.label = l <;> rfl

/-- A label that is new at some place is declared there first. -/
theorem find?_of_not_repeats {taken : List String} {ds : List Declaration} {p : Declaration × Nat}
    (hp : p ∈ ds.zipIdx) (h : ¬ Repeats taken ds p) :
    ds.find? (fun d => d.label = p.1.label) = some p.1 := by
  rw [Repeats, not_or] at h
  obtain ⟨hlt, hget⟩ := List.getElem?_eq_some_iff.1 (List.mem_zipIdx_iff_getElem?.1 hp)
  refine List.find?_eq_some_iff_getElem.2 ⟨by simp, p.2, hlt, hget, fun j hj => ?_⟩
  have hearlier : ds[j] ∈ ds.take p.2 := List.mem_take_iff_getElem.2 ⟨j, by omega, rfl⟩
  have hne : ds[j].label ≠ p.1.label := fun he => h.2 ⟨_, hearlier, he⟩
  simpa using hne

/-- Only repeated declarations can clash. -/
theorem filterMap_clash?_repeated (known : Known) (ds : List Declaration) :
    (repeated known.names ds).filterMap (clash? (keptPath known ds)) =
      ds.filterMap (clash? (keptPath known ds)) := by
  have hplaces : ∀ f : Declaration → Option Clash,
      ds.filterMap f = ds.zipIdx.filterMap fun p => f p.1 := by
    intro f
    conv_lhs => rw [← List.zipIdx_map_fst 0 ds, List.filterMap_map]
    rfl
  rw [hplaces, repeated, List.filterMap_map, List.filterMap_filter]
  refine List.filterMap_congr fun p hp => ?_
  by_cases hrepeats : Repeats known.names ds p
  · simp [hrepeats]
  · -- a declaration with a new label has the path that its label keeps
    have hkept : keptPath known ds p.1.label = some p.1.path := by
      rw [keptPath, if_neg fun hknown => hrepeats (.inl hknown), find?_of_not_repeats hp hrepeats]
      rfl
    simp [hrepeats, clash?, hkept]

/-- When a source can be scanned, the declarations with new labels are kept, whether there is a journal or
not. A journal is told of each of the others whose label has another path, in order. When the source
cannot be scanned, that is the failure, and the journal is told nothing. -/
theorem resolveSource_keeps_first (root : Path) (known : Known) (label : Option String)
    (importer : Option Path) (source : String) :
    (∀ cause, scan root source = .error cause → ∀ journal,
      resolveSource root known label importer journal source = ⟨.error ⟨cause, label, importer⟩, []⟩) ∧
    ∀ ds, scan root source = .ok ds →
      (∀ journal, (resolveSource root known label importer journal source).result =
        .ok (fresh known.names ds)) ∧
      ((fresh known.names ds).map Declaration.label).Nodup ∧
      (resolveSource root known label importer true source).entries =
        ((repeated known.names ds).filterMap (clash? (keptPath known ds))).map (Clash.entry importer) ∧
      (resolveSource root known label importer false source).entries = [] := by
  constructor
  · intro cause hscan journal
    simp only [resolveSource, hscan]
  · intro ds hscan
    have hfst : (resolve known.entries ds).1 = fresh known.names ds := by
      rw [resolve_fst_eq, Known.keys_entries]
    have hsnd : (resolve known.entries ds).2 =
        (repeated known.names ds).filterMap (clash? (keptPath known ds)) := by
      rw [resolve_snd_eq, pathIn_eq_keptPath, filterMap_clash?_repeated]
    have hnodup := nodup_label_fresh known.entries ds
    rw [Known.keys_entries] at hnodup
    refine ⟨fun journal => ?_, hnodup, ?_, ?_⟩
    · simp only [resolveSource, hscan, hfst]
    · simp only [resolveSource, hscan, hsnd, if_true]
    · simp only [resolveSource, hscan, Bool.false_eq_true, if_false]

end Bundler.Declaration
