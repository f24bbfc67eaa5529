import Bundler.Proofs.Declaration
import Bundler.Proofs.Text.Cut

/-!
# Bundler.Proofs.Declaration.Grammar

The grammar of declaring lines, said without reading them from left to right.

* `Encloses w t`: `t` stands between the first two quotation marks of `w`.
* `Declares line label specifier`: a line is well formed and says this.
* `scanLines_eq_ok_iff`: a scan gives one declaration for each declaring line.
* `scan_accepts_grammar`: a scan succeeds exactly on well-formed sources, and fails at the first line that
  is not well formed.
-/

namespace Bundler.Declaration

/-! ## Quotation marks -/

/-- The first two quotation marks of a word have a text between them. -/
def Encloses (w t : List Char) : Prop :=
  ∃ before mark mark' after, w = before ++ mark :: (t ++ mark' :: after) ∧
    isQuoteMark mark = true ∧ isQuoteMark mark' = true ∧
    (∀ c ∈ before, isQuoteMark c = false) ∧ ∀ c ∈ t, isQuoteMark c = false

theorem dropWhile_quote_eq_cons_iff {s rest : List Char} {mark : Char} :
    s.dropWhile (fun c => !isQuoteMark c) = mark :: rest ↔ isQuoteMark mark = true ∧
      ∃ before, s = before ++ mark :: rest ∧ ∀ c ∈ before, isQuoteMark c = false := by
  simp [Text.dropWhile_eq_cons_iff]

theorem takeWhile_quote {s : List Char} {mark : Char} (hs : ∀ c ∈ s, isQuoteMark c = false)
    (hmark : isQuoteMark mark = true) (rest : List Char) :
    (s ++ mark :: rest).takeWhile (fun c => !isQuoteMark c) = s :=
  Text.takeWhile_append_cons (by simpa using hs) (by simpa using hmark) rest

theorem enclosed?_eq_some_iff {w t : List Char} : enclosed? w = some t ↔ Encloses w t := by
  constructor
  · intro h
    unfold enclosed? at h
    split at h
    · cases h
    · rename_i mark rest hfirst
      split at h
      · cases h
      · rename_i mark' after hsecond
        obtain ⟨hmark, before, rfl, hbefore⟩ := dropWhile_quote_eq_cons_iff.1 hfirst
        obtain ⟨hmark', t', rfl, ht'⟩ := dropWhile_quote_eq_cons_iff.1 hsecond
        rw [takeWhile_quote ht' hmark', Option.some.injEq] at h
        subst h
        exact ⟨before, mark, mark', after, rfl, hmark, hmark', hbefore, ht'⟩
  · rintro ⟨before, mark, mark', after, rfl, hmark, hmark', hbefore, ht⟩
    have hdrop : ∀ {s mark rest}, (∀ c ∈ s, isQuoteMark c = false) → isQuoteMark mark = true →
        (s ++ mark :: rest).dropWhile (fun c => !isQuoteMark c) = mark :: rest :=
      fun hs hmark => dropWhile_quote_eq_cons_iff.2 ⟨hmark, _, rfl, hs⟩
    simp only [enclosed?, hdrop hbefore hmark, hdrop ht hmark', takeWhile_quote ht hmark']

/-! ## Lines -/

/-- The first word of a line is the keyword. -/
def Declaring (line : List Char) : Prop :=
  ∃ ws, Text.WordsOf line (keyword :: ws)

theorem declaring_iff {line : List Char} :
    Declaring line ↔ (Text.words line).head? = some keyword := by
  simp only [Declaring, Text.wordsOf_iff, List.head?_eq_some_iff]

instance (line : List Char) : Decidable (Declaring line) :=
  decidable_of_iff _ declaring_iff.symm

/-- The words of a line are the keyword, a label and at least one more, and the last one encloses a
specifier, which is not empty. -/
def Declares (line label specifier : List Char) : Prop :=
  ∃ between last, Text.WordsOf line (keyword :: label :: (between ++ [last])) ∧
    Encloses last specifier ∧ specifier ≠ []

theorem Declares.declaring {line label specifier : List Char} (h : Declares line label specifier) :
    Declaring line := by
  obtain ⟨between, last, hwords, _⟩ := h
  exact ⟨_, hwords⟩

theorem ofWords_eq_none_iff {line : List Char} :
    ofWords (Text.words line) = none ↔ ¬ Declaring line := by
  rw [declaring_iff]
  rcases Text.words line with _ | ⟨w, _ | ⟨label, _ | ⟨last, more⟩⟩⟩
  · simp [ofWords]
  · simp [ofWords]
  · simp [ofWords]
  · simp only [ofWords, List.head?_cons, Option.some.injEq, ite_eq_right_iff]
    refine forall_congr' fun _ => ?_
    split <;> simp

theorem ofWords_eq_ok_iff {line label specifier : List Char} :
    ofWords (Text.words line) = some (.ok (label, specifier)) ↔ Declares line label specifier := by
  simp only [Declares, Text.wordsOf_iff, ← enclosed?_eq_some_iff]
  constructor
  · intro h
    rcases hwords : Text.words line with _ | ⟨w, _ | ⟨l, _ | ⟨last, more⟩⟩⟩ <;>
      rw [hwords] at h <;> simp only [ofWords] at h
    · cases h
    · split at h <;> cases h
    · split at h <;> cases h
    · split at h
      · rename_i hw
        split at h
        · rename_i c s hs
          cases h
          refine ⟨(last :: more).dropLast, (last :: more).getLastD last, ?_, hs, List.cons_ne_nil c s⟩
          have hlast : (last :: more).getLastD last = (last :: more).getLast (List.cons_ne_nil _ _) := by
            rw [List.getLastD_cons, List.getLast_eq_getLastD]
          rw [hlast, List.dropLast_concat_getLast, hw]
        · cases h
      · cases h
  · rintro ⟨between, last, hwords, hlast, hne⟩
    obtain ⟨c, s, rfl⟩ := List.exists_cons_of_ne_nil hne
    rw [hwords]
    cases between with
    | nil => simp [ofWords, hlast]
    | cons w between =>
      have hend : (w :: (between ++ [last])).getLastD w = last := by
        rw [← List.cons_append, List.getLastD_concat]
      simp only [ofWords, List.cons_append, if_true, hend, hlast]

/-- A line that begins with the keyword declares something. -/
def WellFormed (line : List Char) : Prop :=
  Declaring line → ∃ label specifier, Declares line label specifier

theorem malformed_iff {line : List Char} : Malformed line ↔ ¬ WellFormed line := by
  have hdeclaring : Declaring line ↔ ofWords (Text.words line) ≠ none := by
    rw [ne_eq, ofWords_eq_none_iff, not_not]
  simp only [← ofWords_eq_error_iff, WellFormed, ← ofWords_eq_ok_iff, hdeclaring]
  rcases ofWords (Text.words line) with _ | _ | ⟨label, specifier⟩ <;> simp

/-! ## Scans -/

/-- A declaration says what its line does, and where that lies. -/
structure ReadFrom (root : Path) (line : List Char × Nat) (d : Declaration) : Prop where
  declares : Declares line.1 d.label.toList d.specifier.toList
  path : d.path = root.locate d.specifier
  number : d.line = line.2

theorem readFrom_iff {root : Path} {line label specifier : List Char} {number : Nat}
    (h : Declares line label specifier) {d : Declaration} :
    ReadFrom root (line, number) d ↔
      d = ⟨String.ofList label, root.locate (String.ofList specifier), String.ofList specifier, number⟩ := by
  constructor
  · rintro ⟨hd, hpath, hnumber⟩
    have heq := ofWords_eq_ok_iff.2 hd
    rw [ofWords_eq_ok_iff.2 h] at heq
    simp only [Option.some.injEq, Except.ok.injEq, Prod.mk.injEq] at heq
    cases d
    simp_all
  · rintro rfl
    exact ⟨by simpa using h, rfl, rfl⟩

/-- A scan that succeeds gives one declaration for each declaring line, in order. -/
theorem scanLines_eq_ok_iff {root : Path} {lines : List (List Char)} :
    ∀ {number : Nat} {ds : List Declaration}, scanLines root number lines = .ok ds ↔
      List.Forall₂ (ReadFrom root) ((lines.zipIdx number).filter fun p => Declaring p.1) ds := by
  induction lines with
  | nil => simp [scanLines, eq_comm]
  | cons line rest ih =>
    intro number ds
    simp only [scanLines, List.zipIdx_cons]
    split
    · rename_i hnone
      have hline : ¬ Declaring line := ofWords_eq_none_iff.1 hnone
      rw [List.filter_cons_of_neg (by simpa using hline)]
      exact ih
    · rename_i herror
      have hmalformed := malformed_iff.1 (ofWords_eq_error_iff.1 herror)
      rw [WellFormed, Classical.not_imp] at hmalformed
      rw [List.filter_cons_of_pos (by simpa using hmalformed.1)]
      constructor
      · intro h
        cases h
      · intro h
        obtain ⟨d, _, hread, _⟩ := List.forall₂_cons_left_iff.1 h
        exact absurd ⟨_, _, hread.declares⟩ hmalformed.2
    · rename_i label specifier hok
      have hline := ofWords_eq_ok_iff.1 hok
      rw [List.filter_cons_of_pos (by simpa using hline.declaring), List.forall₂_cons_left_iff]
      simp only [readFrom_iff hline, ← ih]
      cases scanLines root (number + 1) rest with
      | error cause => simp
      | ok ds' => simp [eq_comm]

theorem malformedFrom?_of_wellFormed {line : List Char} (h : WellFormed line) (number : Nat)
    (rest : List (List Char)) :
    malformedFrom? number (line :: rest) = malformedFrom? (number + 1) rest := by
  simp [malformedFrom?, malformed_iff, h]

theorem malformedFrom?_of_not_wellFormed {line : List Char} (h : ¬ WellFormed line) (number : Nat)
    (rest : List (List Char)) :
    malformedFrom? number (line :: rest) = some (.malformedImport (String.ofList line) number) := by
  simp [malformedFrom?, malformed_iff, h]

theorem malformedFrom?_eq_none_iff {lines : List (List Char)} :
    ∀ {number : Nat}, malformedFrom? number lines = none ↔ ∀ line ∈ lines, WellFormed line := by
  induction lines with
  | nil => simp [malformedFrom?]
  | cons first rest ih =>
    intro number
    rw [List.forall_mem_cons, ← @ih (number + 1)]
    by_cases hfirst : WellFormed first
    · simp [malformedFrom?_of_wellFormed hfirst, hfirst]
    · simp [malformedFrom?_of_not_wellFormed hfirst, hfirst]

/-- The first line that is not well formed, with its number. -/
theorem malformedFrom?_eq_some_iff {lines : List (List Char)} {cause : Failure.Cause} :
    ∀ {number : Nat}, malformedFrom? number lines = some cause ↔
      ∃ before line after, lines = before ++ line :: after ∧ (∀ l ∈ before, WellFormed l) ∧
        ¬ WellFormed line ∧
        cause = .malformedImport (String.ofList line) (before.length + number : Nat) := by
  induction lines with
  | nil => simp [malformedFrom?]
  | cons first rest ih =>
    intro number
    by_cases hfirst : WellFormed first
    · rw [malformedFrom?_of_wellFormed hfirst, ih]
      constructor
      · rintro ⟨before, line, after, rfl, hbefore, hline, rfl⟩
        refine ⟨first :: before, line, after, rfl, List.forall_mem_cons.2 ⟨hfirst, hbefore⟩, hline, ?_⟩
        rw [List.length_cons, Nat.add_right_comm, Nat.add_assoc]
      · rintro ⟨before, line, after, hlines, hbefore, hline, rfl⟩
        cases before with
        | nil => cases hlines; exact absurd hfirst hline
        | cons l before =>
          cases hlines
          refine ⟨before, line, after, rfl, (List.forall_mem_cons.1 hbefore).2, hline, ?_⟩
          rw [List.length_cons, Nat.add_right_comm, Nat.add_assoc]
    · rw [malformedFrom?_of_not_wellFormed hfirst]
      constructor
      · intro h
        cases h
        exact ⟨[], first, rest, rfl, by simp, hfirst, by simp⟩
      · rintro ⟨before, line, after, hlines, hbefore, hline, rfl⟩
        cases before with
        | nil => cases hlines; simp
        | cons l before =>
          cases hlines
          exact absurd (hbefore first List.mem_cons_self) hfirst

/-- A source has one list of lines. It is scanned successfully exactly when all of them are well formed,
and then the declarations are those of the declaring lines, one for each and in order. Otherwise the
first line that is not well formed is the cause of failure, with its number. -/
theorem scan_accepts_grammar (root : Path) (source : String) :
    ∃ lines, (∀ ls, Text.LinesOf source.toList ls ↔ ls = lines) ∧
      ((∃ ds, scan root source = .ok ds) ↔ ∀ line ∈ lines, WellFormed line) ∧
      (∀ ds, scan root source = .ok ds ↔
        List.Forall₂ (ReadFrom root) ((lines.zipIdx 1).filter fun p => Declaring p.1) ds) ∧
      ∀ cause, scan root source = .error cause ↔
        ∃ before line after, lines = before ++ line :: after ∧ (∀ l ∈ before, WellFormed l) ∧
          ¬ WellFormed line ∧
          cause = .malformedImport (String.ofList line) (before.length + 1 : Nat) := by
  refine ⟨Text.lines source.toList, fun ls => Text.linesOf_iff.trans eq_comm, ?_,
    fun ds => scanLines_eq_ok_iff, fun cause => scan_eq_error_iff.trans malformedFrom?_eq_some_iff⟩
  rw [← malformedFrom?_eq_none_iff, ← fault?, Option.eq_none_iff_forall_ne_some]
  simp only [ne_eq, ← @scan_eq_error_iff root]
  cases scan root source <;> simp

end Bundler.Declaration
