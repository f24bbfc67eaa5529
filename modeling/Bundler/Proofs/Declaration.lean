import Bundler.Source
import Bundler.Proofs.Keyed
import Bundler.Proofs.Text.Blank
import Mathlib.Data.List.Forall2

/-!
# Bundler.Proofs.Declaration

Which labels a source declares, and which of them are new.

* `map_label_scan`: a scan that succeeds finds the label of every declaring line.
* `not_isBlank_of_mem_label`: a declared label is a single word.
* `scanLines_map_locate`: the root that a source is read from decides about the paths alone.
* `scan_eq_error_iff`: a scan fails at the first malformed line.
* `map_pair_resolve`: the declarations that are kept are the first ones of the unknown labels.
* `resolve_snd_eq`: the clashes are those with the first path of a label.
-/

namespace Bundler.Declaration

def pair (d : Declaration) : String × Path :=
  (d.label, d.path)

/-! ## Scanning -/

theorem lineLabel?_of_ofWords_none {line : List Char} (h : ofWords (Text.words line) = none) :
    Source.lineLabel? line = none := by
  unfold Source.lineLabel?
  unfold ofWords at h
  split
  · rename_i w label last more hw
    rw [hw] at h
    simp only [ite_eq_right_iff] at h ⊢
    intro hk
    have hnone := h hk
    split at hnone <;> cases hnone
  · rfl

theorem lineLabel?_of_ofWords_ok {line label specifier : List Char}
    (h : ofWords (Text.words line) = some (.ok (label, specifier))) :
    Source.lineLabel? line = some (String.ofList label) := by
  unfold ofWords at h
  split at h
  · cases h
  · rename_i w ws hw
    split at h
    · rename_i hk
      split at h
      · rename_i label' last more
        split at h
        · cases h
          simp [Source.lineLabel?, hw, hk]
        · cases h
      · cases h
    · cases h

theorem map_label_scanLines {root : Path} {lines : List (List Char)} :
    ∀ {number : Nat} {ds : List Declaration}, scanLines root number lines = .ok ds →
      ds.map label = lines.filterMap Source.lineLabel? := by
  induction lines with
  | nil =>
    intro number ds h
    cases h
    rfl
  | cons line rest ih =>
    intro number ds h
    simp only [scanLines] at h
    split at h
    · rename_i hw
      rw [List.filterMap_cons_none (lineLabel?_of_ofWords_none hw), ih h]
    · cases h
    · rename_i label specifier hw
      split at h
      · cases h
      · rename_i ds' hrest
        cases h
        rw [List.filterMap_cons_some (lineLabel?_of_ofWords_ok hw), List.map_cons, ih hrest]

theorem map_label_scan {root : Path} {source : String} {ds : List Declaration}
    (h : scan root source = .ok ds) : ds.map label = Source.labelsOf source :=
  map_label_scanLines h

theorem path_of_mem_scanLines {root : Path} {lines : List (List Char)} :
    ∀ {number : Nat} {ds : List Declaration}, scanLines root number lines = .ok ds →
      ∀ d ∈ ds, d.path = root.locate d.specifier := by
  induction lines with
  | nil =>
    intro number ds h
    cases h
    simp
  | cons line rest ih =>
    intro number ds h
    simp only [scanLines] at h
    split at h
    · exact ih h
    · cases h
    · split at h
      · cases h
      · rename_i hrest
        cases h
        exact List.forall_mem_cons.2 ⟨rfl, ih hrest⟩

theorem scanLines_map_locate (root root' : Path) (lines : List (List Char)) :
    ∀ number : Nat, scanLines root' number lines =
      (scanLines root number lines).map
        (List.map fun d => { d with path := root'.locate d.specifier }) := by
  induction lines with
  | nil => exact fun _ => rfl
  | cons line rest ih =>
    intro number
    simp only [scanLines]
    split
    · exact ih _
    · rfl
    · rw [ih]
      cases scanLines root (number + 1) rest <;> rfl

theorem not_isBlank_of_mem_label {root : Path} {source : String} {ds : List Declaration}
    (h : scan root source = .ok ds) {d : Declaration} (hd : d ∈ ds) {c : Char}
    (hc : c ∈ d.label.toList) : Text.isBlank c = false := by
  have hlabel : d.label ∈ Source.labelsOf source := by
    rw [← map_label_scan h]
    exact List.mem_map_of_mem hd
  obtain ⟨line, _, hline⟩ := List.mem_filterMap.1 hlabel
  unfold Source.lineLabel? at hline
  split at hline
  · rename_i w word last more hwords
    split at hline
    · have hword : word ∈ Text.words line := by simp [hwords]
      rw [← Option.some.inj hline, String.toList_ofList] at hc
      exact Text.not_isBlank_of_mem_words hword hc
    · cases hline
  · cases hline

/-! ## Malformed lines -/

/-- A line that begins with the keyword and has no label, or no text in quotation marks in its last
word. -/
def Malformed (line : List Char) : Prop :=
  (Text.words line).head? = some keyword ∧
    ((Text.words line).length < 3 ∨ (enclosed? ((Text.words line).getLastD [])).getD [] = [])

instance (line : List Char) : Decidable (Malformed line) :=
  inferInstanceAs (Decidable (_ ∧ _))

theorem ofWords_eq_error_iff {line : List Char} :
    ofWords (Text.words line) = some (.error ()) ↔ Malformed line := by
  unfold Malformed
  rcases Text.words line with _ | ⟨w, _ | ⟨label, _ | ⟨last, more⟩⟩⟩
  · simp [ofWords]
  · simp [ofWords]
  · simp [ofWords]
  · by_cases hw : w = keyword
    · have hlast : (w :: label :: last :: more).getLastD [] = (last :: more).getLastD last := by
        simp only [List.getLastD_cons]
      rw [hlast]
      simp only [ofWords, if_pos hw]
      rcases enclosed? ((last :: more).getLastD last) with _ | _ | ⟨c, cs⟩ <;> simp [hw]
    · simp [ofWords, hw]

/-- The fault of the first malformed line, by its text and number. -/
def malformedFrom? (number : Nat) (lines : List (List Char)) : Option Failure.Cause :=
  (lines.zipIdx number).findSome? fun p =>
    if Malformed p.1 then some (.malformedImport (String.ofList p.1) p.2) else none

theorem scanLines_eq_error_iff {root : Path} {lines : List (List Char)} {cause : Failure.Cause} :
    ∀ {number : Nat}, scanLines root number lines = .error cause ↔
      malformedFrom? number lines = some cause := by
  induction lines with
  | nil => simp [scanLines, malformedFrom?]
  | cons line rest ih =>
    intro number
    have hrest := @ih (number + 1)
    unfold malformedFrom? at hrest ⊢
    rw [List.zipIdx_cons, List.findSome?_cons]
    simp only [scanLines]
    split
    · rename_i hnone
      have hline : ¬ Malformed line := by
        rw [← ofWords_eq_error_iff, hnone]
        simp
      rw [if_neg hline]
      exact hrest
    · rename_i herror
      rw [if_pos (ofWords_eq_error_iff.1 herror)]
      simp
    · rename_i label specifier hok
      have hline : ¬ Malformed line := by
        rw [← ofWords_eq_error_iff, hok]
        simp
      rw [if_neg hline]
      split
      · rename_i hscan
        rw [hscan] at hrest
        exact hrest
      · rename_i hscan
        rw [hscan] at hrest
        simpa using hrest

def fault? (source : List Char) : Option Failure.Cause :=
  malformedFrom? 1 (Text.lines source)

theorem scan_eq_error_iff {root : Path} {source : String} {cause : Failure.Cause} :
    scan root source = .error cause ↔ fault? source.toList = some cause :=
  scanLines_eq_error_iff

/-! ## New labels -/

theorem resolve_fst_of_lookup {known : List (String × Option Path)} {d : Declaration}
    {kept : Option Path} (h : known.lookup d.label = some kept) (ds : List Declaration) :
    (resolve known (d :: ds)).1 = (resolve known ds).1 := by
  simp only [resolve, h]
  split
  · rfl
  · split <;> rfl

theorem resolve_sublist (known : List (String × Option Path)) (ds : List Declaration) :
    (resolve known ds).1.Sublist ds := by
  induction ds generalizing known with
  | nil => exact List.Sublist.slnil
  | cons d ds ih =>
    cases hd : known.lookup d.label with
    | none =>
      simp only [resolve, hd]
      exact (ih _).cons_cons d
    | some kept =>
      rw [resolve_fst_of_lookup hd]
      exact (ih known).cons d

/-- Declarations with the same labels are kept or dropped alike. -/
theorem forall₂_resolve {R : Declaration → Declaration → Prop}
    (hlabel : ∀ d d', R d d' → d.label = d'.label) {ds ds' : List Declaration}
    (h : List.Forall₂ R ds ds') {known known' : List (String × Option Path)}
    (hknown : ∀ l, l ∈ Keyed.keys known ↔ l ∈ Keyed.keys known') :
    List.Forall₂ R (resolve known ds).1 (resolve known' ds').1 := by
  induction h generalizing known known' with
  | nil => exact .nil
  | @cons d d' ds ds' hd _ ih =>
    cases hlookup : known.lookup d.label with
    | none =>
      have hlookup' : known'.lookup d'.label = none := by
        rw [Keyed.lookup_eq_none, ← hlabel d d' hd, ← hknown]
        exact (Keyed.lookup_eq_none _ _).1 hlookup
      simp only [resolve, hlookup, hlookup']
      -- the labels in use grow by the same one
      refine .cons hd (ih fun l => ?_)
      simp only [Keyed.keys, List.map_cons, List.mem_cons, hlabel d d' hd]
      exact or_congr Iff.rfl (hknown l)
    | some kept =>
      obtain ⟨kept', hlookup'⟩ : ∃ kept', known'.lookup d'.label = some kept' := by
        rw [← Option.ne_none_iff_exists', ne_eq, Keyed.lookup_eq_none, ← hlabel d d' hd, ← hknown,
          ← Keyed.lookup_eq_none, hlookup]
        exact Option.some_ne_none kept
      rw [resolve_fst_of_lookup hlookup, resolve_fst_of_lookup hlookup']
      exact ih hknown

/-- The declarations that are kept have the labels that are not known, each as it is declared
first. -/
theorem map_pair_resolve (known : List (String × Option Path)) (ds : List Declaration) :
    (resolve known ds).1.map pair =
      (Keyed.firsts (ds.map pair)).filter fun p => !(Keyed.keys known).contains p.1 := by
  induction ds generalizing known with
  | nil => rfl
  | cons d ds ih =>
    cases hd : known.lookup d.label with
    | none =>
      have hnew : d.label ∉ Keyed.keys known := (Keyed.lookup_eq_none _ _).1 hd
      have hkeep : (!(Keyed.keys known).contains d.pair.1) = true := by simpa [pair] using hnew
      simp only [resolve, hd, List.map_cons, ih, Keyed.firsts, List.filter_cons, hkeep, ite_true,
        List.filter_filter]
      congr 1
      refine List.filter_congr fun p _ => ?_
      by_cases hp : p.1 = d.label <;> simp [pair, hp]
    | some kept =>
      have hold : d.label ∈ Keyed.keys known := by
        by_contra hnew
        rw [(Keyed.lookup_eq_none _ _).2 hnew] at hd
        cases hd
      have hdrop : (!(Keyed.keys known).contains d.pair.1) = false := by simpa [pair] using hold
      simp only [resolve_fst_of_lookup hd, ih, List.map_cons, Keyed.firsts, List.filter_cons, hdrop,
        Bool.false_eq_true, ite_false, List.filter_filter]
      refine List.filter_congr fun p _ => ?_
      by_cases hp : p.1 = d.label
      · simp [hp, hold]
      · simp [pair, hp]

/-- The clash of a declaration with the path that its label has, if that is another one. -/
def clash? (find : String → Option Path) (d : Declaration) : Option Clash :=
  match find d.label with
  | none => none
  | some kept => if kept = d.path then none else some ⟨d.label, kept, d.path⟩

def asKnown (d : Declaration) : String × Option Path :=
  (d.label, some d.path)

/-- The path that a label has in a list of labels in use, if it has one. -/
def pathIn (entries : List (String × Option Path)) (l : String) : Option Path :=
  (entries.lookup l).join

/-- A declaration clashes with the first path of its label, among those that are known and those that are
declared with it. -/
theorem resolve_snd_eq (known : List (String × Option Path)) (ds : List Declaration) :
    (resolve known ds).2 = ds.filterMap (clash? (pathIn (known ++ ds.map asKnown))) := by
  induction ds generalizing known with
  | nil => rfl
  | cons d ds ih =>
    cases hd : known.lookup d.label with
    | none =>
      have hself : (known ++ (d :: ds).map asKnown).lookup d.label = some (some d.path) := by
        rw [List.lookup_append, hd, List.map_cons, asKnown, List.lookup_cons_self]
        rfl
      -- the label is new, so it does not matter whether it is looked up before or after the known ones
      have hsame : pathIn (known ++ (d :: ds).map asKnown) = pathIn (d.asKnown :: known ++ ds.map asKnown) := by
        funext l
        unfold pathIn
        by_cases hl : l = d.label
        · rw [hl, hself, asKnown, List.cons_append, List.lookup_cons_self]
        · have hne : (l == d.label) = false := by simp [hl]
          rw [List.map_cons, List.cons_append, List.lookup_append, asKnown, List.lookup_cons, hne,
            List.lookup_cons, hne, List.lookup_append]
      have hnone : clash? (pathIn (known ++ (d :: ds).map asKnown)) d = none := by
        simp only [clash?, pathIn, hself, Option.join_some, if_true]
      rw [List.filterMap_cons_none hnone, hsame, ← ih]
      simp only [resolve, hd]
      rfl
    | some kept =>
      have hsame : pathIn (known ++ (d :: ds).map asKnown) = pathIn (known ++ ds.map asKnown) := by
        funext l
        unfold pathIn
        rw [List.map_cons, List.lookup_append, List.lookup_append, asKnown, List.lookup_cons]
        by_cases hl : l = d.label
        · rw [hl, hd]
          rfl
        · have hne : (l == d.label) = false := by simp [hl]
          rw [hne]
      have hself : pathIn (known ++ ds.map asKnown) d.label = kept := by
        rw [pathIn, List.lookup_append, hd]
        rfl
      rw [hsame]
      simp only [resolve, hd]
      cases kept with
      | none =>
        have hnone : clash? (pathIn (known ++ ds.map asKnown)) d = none := by simp only [clash?, hself]
        rw [List.filterMap_cons_none hnone, ← ih]
      | some p =>
        by_cases hpath : p = d.path
        · have hnone : clash? (pathIn (known ++ ds.map asKnown)) d = none := by
            simp only [clash?, hself, if_pos hpath]
          simp only [if_pos hpath]
          rw [List.filterMap_cons_none hnone, ← ih]
        · have hsome : clash? (pathIn (known ++ ds.map asKnown)) d = some ⟨d.label, p, d.path⟩ := by
            simp only [clash?, hself, if_neg hpath]
          simp only [if_neg hpath]
          rw [List.filterMap_cons_some hsome, ← ih]

/-- When every known label has a path, clashes are with the first path of a label. -/
theorem resolve_snd (known : List (String × Path)) (ds : List Declaration) :
    (resolve (known.map fun p => (p.1, some p.2)) ds).2 =
      ds.filterMap (clash? fun l => (known ++ ds.map pair).lookup l) := by
  rw [resolve_snd_eq]
  congr 2
  funext l
  have hentries : known.map (fun p => (p.1, some p.2)) ++ ds.map asKnown =
      (known ++ ds.map pair).map fun p => (p.1, some p.2) := by
    rw [List.map_append, List.map_map]
    rfl
  rw [pathIn, hentries, Keyed.lookup_map_snd]
  cases (known ++ ds.map pair).lookup l <;> rfl

end Bundler.Declaration
