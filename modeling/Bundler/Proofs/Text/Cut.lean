import Bundler.Proofs.Text.Blank
import Bundler.Proofs.Text.Lines

/-!
# Bundler.Proofs.Text.Cut

Lines and words said without recursion: a text is its lines with a boundary after each, and it is its
words with gaps around them.

* `LinesOf s ls`: `s` consists of the lines `ls`, cut at every boundary.
* `WordsOf s ws`: `s` consists of the words `ws`, cut at every blank character.
* `linesOf_iff`, `wordsOf_iff`: there is one way to cut a text, and it is the one that is computed.
-/

namespace Bundler.Text

/-! ## Lines -/

/-- The lines of a text. Only the last one may lack a boundary, and then it is not empty. -/
inductive LinesOf : List Char → List (List Char) → Prop where
  | nil : LinesOf [] []
  | last {line : List Char} : line ≠ [] → (∀ c ∈ line, isLineEnd c = false) → LinesOf line [line]
  | cons {line boundary rest : List Char} {ls : List (List Char)} :
      (∀ c ∈ line, isLineEnd c = false) → Boundary rest boundary → LinesOf rest ls →
      LinesOf (line ++ (boundary ++ rest)) (line :: ls)

theorem lines_of_forall {line : List Char} (hne : line ≠ [])
    (hline : ∀ c ∈ line, isLineEnd c = false) : lines line = [line] := by
  induction line with
  | nil => exact absurd rfl hne
  | cons c line ih =>
    rw [List.forall_mem_cons] at hline
    rw [lines_cons_char hline.1]
    cases line with
    | nil => rfl
    | cons d line => rw [ih (List.cons_ne_nil d line) hline.2]; rfl

theorem LinesOf.cons_char {c : Char} {s : List Char} {ls : List (List Char)} (h : LinesOf s ls)
    (hc : isLineEnd c = false) : LinesOf (c :: s) ((c :: ls.headD []) :: ls.tail) := by
  cases h with
  | nil => exact .last (List.cons_ne_nil c []) (List.forall_mem_singleton.2 hc)
  | last hne hline => exact .last (List.cons_ne_nil _ _) (List.forall_mem_cons.2 ⟨hc, hline⟩)
  | cons hline hboundary hrest => exact .cons (List.forall_mem_cons.2 ⟨hc, hline⟩) hboundary hrest

theorem linesOf_lines (s : List Char) : LinesOf s (lines s) := by
  induction s using lines.induct with
  | case1 => exact .nil
  | case2 s ih =>
    rw [lines]
    exact @LinesOf.cons [] _ _ _ (by simp) .pair ih
  | case3 c s hpair hc ih =>
    have hboundary : Boundary s [c] := by
      refine .single hc fun hreturn hfeed => ?_
      obtain ⟨t, rfl⟩ := List.head?_eq_some_iff.1 hfeed
      exact hpair t hreturn rfl
    have hlines := lines_boundary hboundary
    rw [List.singleton_append] at hlines
    rw [hlines]
    exact @LinesOf.cons [] _ _ _ (by simp) hboundary ih
  | case4 c s hpair hc hlast ih =>
    rw [Bool.not_eq_true] at hc
    rw [lines_cons_char hc]
    exact ih.cons_char hc
  | case5 c s hpair hc l ls hlines ih =>
    rw [Bool.not_eq_true] at hc
    rw [lines_cons_char hc]
    exact ih.cons_char hc

theorem linesOf_iff {s : List Char} {ls : List (List Char)} : LinesOf s ls ↔ lines s = ls := by
  constructor
  · intro h
    induction h with
    | nil => rfl
    | last hne hline => exact lines_of_forall hne hline
    | cons hline hboundary _ ih => rw [lines_append_boundary hline hboundary, ih]
  · rintro rfl
    exact linesOf_lines s

/-! ## Words -/

/-- The words of a text: not empty, without blank characters, and with gaps between them. -/
inductive WordsOf : List Char → List (List Char) → Prop where
  | nil {gap : List Char} : (∀ c ∈ gap, isBlank c = true) → WordsOf gap []
  | cons {gap word rest : List Char} {ws : List (List Char)} :
      (∀ c ∈ gap, isBlank c = true) → word ≠ [] → (∀ c ∈ word, isBlank c = false) →
      (∀ c ∈ rest.head?, isBlank c = true) → WordsOf rest ws →
      WordsOf (gap ++ (word ++ rest)) (word :: ws)

theorem words_append_blank {c : Char} (hc : isBlank c = true) (s t : List Char) :
    words (s ++ c :: t) = words s ++ words t := by
  rw [words, fields_append_separator hc, List.filter_append]
  rfl

theorem words_cons_blank {c : Char} (hc : isBlank c = true) (s : List Char) :
    words (c :: s) = words s :=
  words_append_blank hc [] s

theorem words_append_of_gap {gap : List Char} (hgap : ∀ c ∈ gap, isBlank c = true) (s : List Char) :
    words (gap ++ s) = words s := by
  induction gap with
  | nil => rfl
  | cons c gap ih =>
    rw [List.forall_mem_cons] at hgap
    rw [List.cons_append, words_cons_blank hgap.1, ih hgap.2]

theorem words_of_forall {word : List Char} (hne : word ≠ [])
    (hword : ∀ c ∈ word, isBlank c = false) : words word = [word] := by
  have hfields : fields isBlank word = [word] := by
    induction word with
    | nil => exact absurd rfl hne
    | cons c word ih =>
      rw [List.forall_mem_cons] at hword
      cases word with
      | nil => simp [fields, hword.1]
      | cons d word => rw [fields, ih (List.cons_ne_nil d word) hword.2]; simp [hword.1]
  simp [words, hfields, hne]

theorem words_append_of_head? {word rest : List Char} (hne : word ≠ [])
    (hword : ∀ c ∈ word, isBlank c = false) (hrest : ∀ c ∈ rest.head?, isBlank c = true) :
    words (word ++ rest) = word :: words rest := by
  cases rest with
  | nil => rw [List.append_nil, words_of_forall hne hword]; rfl
  | cons c rest =>
    have hc : isBlank c = true := hrest c rfl
    rw [words_append_blank hc, words_cons_blank hc, words_of_forall hne hword]
    rfl

theorem wordsOf_words (s : List Char) : WordsOf s (words s) := by
  -- what is left behind the first gap and the first word is shorter
  induction hn : s.length using Nat.strongRecOn generalizing s with
  | ind n ih =>
    obtain ⟨gap, t, rfl, hgap, hhead⟩ : ∃ gap t, s = gap ++ t ∧ (∀ c ∈ gap, isBlank c = true) ∧
        ∀ c ∈ t.head?, isBlank c = false :=
      ⟨_, _, List.takeWhile_append_dropWhile.symm, fun _ => List.mem_takeWhile_imp,
        not_of_mem_head?_dropWhile⟩
    rw [words_append_of_gap hgap]
    cases t with
    | nil =>
      rw [List.append_nil]
      exact .nil hgap
    | cons c t =>
      obtain ⟨word, rest, ht, hword, hrest⟩ : ∃ word rest, c :: t = word ++ rest ∧
          (∀ c ∈ word, isBlank c = false) ∧ ∀ c ∈ rest.head?, isBlank c = true := by
        refine ⟨_, _, (List.takeWhile_append_dropWhile (p := fun c => !isBlank c)).symm, ?_, ?_⟩
        · intro x hx
          simpa using List.mem_takeWhile_imp hx
        · intro x hx
          simpa using not_of_mem_head?_dropWhile x hx
      have hne : word ≠ [] := by
        rintro rfl
        rw [List.nil_append] at ht
        subst ht
        have := hrest c rfl
        rw [hhead c rfl] at this
        cases this
      rw [ht, words_append_of_head? hne hword hrest]
      have hpos := List.length_pos_iff.2 hne
      refine .cons hgap hne hword hrest (ih rest.length ?_ rest rfl)
      rw [ht] at hn
      simp only [List.length_append] at hn
      omega

theorem wordsOf_iff {s : List Char} {ws : List (List Char)} : WordsOf s ws ↔ words s = ws := by
  constructor
  · intro h
    induction h with
    | nil hgap =>
      have := words_append_of_gap hgap []
      rwa [List.append_nil] at this
    | cons hgap hne hword hrest _ ih =>
      rw [words_append_of_gap hgap, words_append_of_head? hne hword hrest, ih]
  · rintro rfl
    exact wordsOf_words s

end Bundler.Text
