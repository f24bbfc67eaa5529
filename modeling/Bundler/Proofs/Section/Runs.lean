import Bundler.Proofs.Section
import Mathlib.Data.List.SplitBy

/-!
# Bundler.Proofs.Section.Runs

What shrinking does to the blank characters of a text. They come in maximal runs, and every run is
shortened for itself: line feeds at its front go one by one, and the rest of it goes when it has two or
more characters.

* `runs s`: the maximal runs of a text, of blank characters and of others by turns.
* `residue r`: what is left of a run of blank characters.
* `shrinkFrom_blanks`: one run and what follows it.
* `Sparse s`: no line feed, and no two blank characters side by side.
* `shrink_runs`: shrinking takes the residue of every run of blank characters, and its results are sparse.
-/

namespace Bundler.Section

/-! ## Runs -/

/-- The maximal runs of a text: of blank characters and of others, by turns. -/
def runs (s : List Char) : List (List Char) :=
  s.splitBy fun a b => Text.isBlank a == Text.isBlank b

def Uniform (r : List Char) : Prop :=
  (∀ c ∈ r, Text.isBlank c = true) ∨ ∀ c ∈ r, Text.isBlank c = false

theorem uniform_of_isChain {r : List Char}
    (h : r.IsChain fun a b => (Text.isBlank a == Text.isBlank b) = true) : Uniform r := by
  induction r with
  | nil => exact .inl (by simp)
  | cons c r ih =>
    cases r with
    | nil => cases hc : Text.isBlank c <;> simp [Uniform, hc]
    | cons d r =>
      obtain ⟨hcd, htail⟩ := List.isChain_cons_cons.1 h
      have hsame : Text.isBlank c = Text.isBlank d := by simpa using hcd
      rcases ih htail with hall | hall
      · exact .inl (List.forall_mem_cons.2 ⟨hsame.trans (hall d List.mem_cons_self), hall⟩)
      · exact .inr (List.forall_mem_cons.2 ⟨hsame.trans (hall d List.mem_cons_self), hall⟩)

theorem uniform_of_mem_runs {s r : List Char} (h : r ∈ runs s) : Uniform r :=
  uniform_of_isChain (List.isChain_of_mem_splitBy h)

theorem Uniform.all_eq {r : List Char} (h : Uniform r) {c : Char} (hc : c ∈ r) :
    r.all Text.isBlank = Text.isBlank c := by
  rcases h with hall | hall
  · rw [hall c hc, List.all_eq_true]
    exact hall
  · rw [hall c hc, List.all_eq_false]
    exact ⟨c, hc, by simp [hall c hc]⟩

/-- Neighbouring runs are of different sorts, so none of them could be longer. -/
theorem isChain_runs (s : List Char) :
    (runs s).IsChain fun r r' => r.all Text.isBlank ≠ r'.all Text.isBlank := by
  refine (List.isChain_getLast_head_splitBy _ s).imp_of_mem_imp fun r r' hr hr' => ?_
  rintro ⟨hne, hne', hends⟩
  rw [(uniform_of_mem_runs hr).all_eq (List.getLast_mem hne),
    (uniform_of_mem_runs hr').all_eq (List.head_mem hne')]
  simpa using hends

/-! ## Shrinking a run -/

/-- What is left of a run of blank characters: the last one, if it is no line feed and all before it are
line feeds, and otherwise nothing. -/
def residue (r : List Char) : List Char :=
  match r.getLast? with
  | some c => if c != '\n' && r.dropLast.all (· == '\n') then [c] else []
  | none => []

theorem residue_lineFeed_cons (r : List Char) : residue ('\n' :: r) = residue r := by
  cases r with
  | nil => rfl
  | cons c r => simp [residue]

theorem residue_cons_of_ne {c : Char} (hc : c ≠ '\n') (d : Char) (r : List Char) :
    residue (c :: d :: r) = [] := by
  unfold residue
  split
  · simp [hc]
  · rfl

theorem shrinkFrom_others {r : List Char} (hr : ∀ c ∈ r, Text.isBlank c = false) (t : List Char) :
    shrinkFrom false (r ++ t) = r ++ shrinkFrom false t := by
  induction r with
  | nil => rfl
  | cons c r ih =>
    rw [List.forall_mem_cons] at hr
    rw [List.cons_append, shrinkFrom, hr.1, ih hr.2]
    rfl

theorem shrinkFrom_of_not_startsBlank {t : List Char} (ht : startsBlank t = false) (dropping : Bool) :
    shrinkFrom dropping t = shrinkFrom false t := by
  cases t with
  | nil => simp only [shrinkFrom]
  | cons c t =>
    have hc : Text.isBlank c = false := ht
    simp only [shrinkFrom, hc, Bool.not_false, if_true]

/-- Once a run is being dropped, the rest of it goes too. -/
theorem shrinkFrom_dropping {r t : List Char} (hr : ∀ c ∈ r, Text.isBlank c = true)
    (ht : startsBlank t = false) : shrinkFrom true (r ++ t) = shrinkFrom false t := by
  induction r with
  | nil => exact shrinkFrom_of_not_startsBlank ht true
  | cons c r ih =>
    rw [List.forall_mem_cons] at hr
    rw [List.cons_append, shrinkFrom, hr.1, ih hr.2]
    rfl

theorem shrinkFrom_blanks {r t : List Char} (hr : ∀ c ∈ r, Text.isBlank c = true)
    (ht : startsBlank t = false) : shrinkFrom false (r ++ t) = residue r ++ shrinkFrom false t := by
  induction r with
  | nil => rfl
  | cons c r ih =>
    rw [List.forall_mem_cons] at hr
    obtain ⟨hc, hr⟩ := hr
    by_cases hfeed : c = '\n'
    · subst hfeed
      rw [residue_lineFeed_cons, ← ih hr, List.cons_append, shrinkFrom, hc]
      rfl
    · -- the run ends here, or two characters of it are left and go together
      cases r with
      | nil => simp [shrinkFrom, hc, hfeed, ht, residue]
      | cons d r =>
        have hd : startsBlank (d :: r ++ t) = true := hr d List.mem_cons_self
        rw [residue_cons_of_ne hfeed, List.nil_append, ← shrinkFrom_dropping hr ht, List.cons_append]
        simp only [shrinkFrom, hc, hfeed, hd, Bool.not_true, Bool.false_eq_true, if_false, if_true]

theorem startsBlank_append {r : List Char} (hr : r ≠ []) (huniform : Uniform r) (t : List Char) :
    startsBlank (r ++ t) = r.all Text.isBlank := by
  cases r with
  | nil => exact absurd rfl hr
  | cons c r => exact (huniform.all_eq List.mem_cons_self).symm

/-- Runs that follow each other by turns are shortened one by one. -/
theorem shrinkFrom_flatten {rs : List (List Char)} (hrs : ∀ r ∈ rs, r ≠ [] ∧ Uniform r)
    (hchain : rs.IsChain fun r r' => r.all Text.isBlank ≠ r'.all Text.isBlank) :
    shrinkFrom false rs.flatten =
      rs.flatMap fun r => if r.all Text.isBlank then residue r else r := by
  induction rs with
  | nil => rfl
  | cons r rs ih =>
    rw [List.forall_mem_cons] at hrs
    obtain ⟨⟨_, huniform⟩, hrs⟩ := hrs
    rw [List.isChain_cons] at hchain
    rw [List.flatten_cons, List.flatMap_cons, ← ih hrs hchain.2]
    rcases huniform with hblank | hother
    · have hall : r.all Text.isBlank = true := List.all_eq_true.2 hblank
      have hnext : startsBlank rs.flatten = false := by
        cases rs with
        | nil => rfl
        | cons r' rs =>
          obtain ⟨hne', huniform'⟩ := hrs r' List.mem_cons_self
          have hother := hchain.1 r' rfl
          rw [List.flatten_cons, startsBlank_append hne' huniform']
          simpa [hall] using hother.symm
      rw [if_pos hall, shrinkFrom_blanks hblank hnext]
    · rw [shrinkFrom_others hother]
      cases r with
      | nil => rfl
      | cons c r => simp [hother c List.mem_cons_self]

/-! ## Sparse texts -/

structure Sparse (s : List Char) : Prop where
  lineFeed_notMem : '\n' ∉ s
  isChain : s.IsChain fun a b => ¬ (Text.isBlank a = true ∧ Text.isBlank b = true)

theorem startsBlank_shrinkFrom {s : List Char} (hs : startsBlank s = false) (dropping : Bool) :
    startsBlank (shrinkFrom dropping s) = false := by
  rw [shrinkFrom_of_not_startsBlank hs]
  cases s with
  | nil => rfl
  | cons c s =>
    have hc : Text.isBlank c = false := hs
    simp only [shrinkFrom, hc, Bool.not_false, if_true]
    exact hc

theorem isChain_shrinkFrom (dropping : Bool) (s : List Char) :
    (shrinkFrom dropping s).IsChain fun a b =>
      ¬ (Text.isBlank a = true ∧ Text.isBlank b = true) := by
  induction s generalizing dropping with
  | nil => simp [shrinkFrom]
  | cons c s ih =>
    rw [shrinkFrom]
    split
    · rename_i hc
      refine List.isChain_cons.2 ⟨fun d _ => ?_, ih false⟩
      simp only [Bool.not_eq_eq_eq_not, Bool.not_true] at hc
      simp [hc]
    · split
      · exact ih true
      · split
        · exact ih false
        · split
          · exact ih true
          · -- the character that stays is the last blank one before others
            rename_i hnext
            have hfront := startsBlank_shrinkFrom (Bool.eq_false_iff.2 hnext) false
            refine List.isChain_cons.2 ⟨fun d hd => ?_, ih false⟩
            obtain ⟨rest, hrest⟩ := List.head?_eq_some_iff.1 hd
            rw [hrest] at hfront
            have hd' : Text.isBlank d = false := hfront
            simp [hd']

theorem sparse_shrink (s : List Char) : Sparse (shrink s) :=
  ⟨lineFeed_notMem_shrinkFrom false s, isChain_shrinkFrom false s⟩

theorem Sparse.shrink_eq {s : List Char} (h : Sparse s) : shrink s = s := by
  obtain ⟨hfeed, hchain⟩ := h
  rw [shrink]
  induction s with
  | nil => rfl
  | cons c s ih =>
    rw [List.mem_cons, not_or] at hfeed
    rw [List.isChain_cons] at hchain
    rw [shrinkFrom, ih hfeed.2 hchain.2]
    by_cases hc : Text.isBlank c = true
    · have hnext : startsBlank s = false := by
        cases s with
        | nil => rfl
        | cons d s => simpa [startsBlank, hc] using hchain.1 d rfl
      simp [hc, Ne.symm hfeed.1, hnext]
    · simp [hc]

/-- A text consists of maximal runs of blank characters and of others. Shrinking puts for each run of
blank characters its last one, if that is no line feed and all before it are line feeds, and otherwise
nothing; the other characters stay as they are. So the result has no line feed and no two blank
characters side by side, and shrinking it again changes nothing. -/
theorem shrink_runs (s : List Char) :
    ((runs s).flatten = s ∧ (∀ r ∈ runs s, r ≠ [] ∧ Uniform r) ∧
      (runs s).IsChain fun r r' => r.all Text.isBlank ≠ r'.all Text.isBlank) ∧
    shrink s = ((runs s).flatMap fun r => if r.all Text.isBlank then residue r else r) ∧
    Sparse (shrink s) ∧ shrink (shrink s) = shrink s := by
  have hruns : ∀ r ∈ runs s, r ≠ [] ∧ Uniform r := fun r hr =>
    ⟨List.ne_nil_of_mem_splitBy hr, uniform_of_mem_runs hr⟩
  have hflatten : (runs s).flatten = s := List.flatten_splitBy _ s
  refine ⟨⟨hflatten, hruns, isChain_runs s⟩, ?_, sparse_shrink s, (sparse_shrink s).shrink_eq⟩
  rw [← shrinkFrom_flatten hruns (isChain_runs s), hflatten, shrink]

/-- A space after a line feed stays, and one before it goes. -/
example : shrink "a\n b \nc d".toList = "a bc d".toList := by decide

end Bundler.Section
