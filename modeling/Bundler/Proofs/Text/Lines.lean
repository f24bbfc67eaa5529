import Bundler.Text.Blank
import Bundler.Text.Lines
import Mathlib.Tactic.Common

/-!
# Bundler.Proofs.Text.Lines

What text added at the end does to the words and lines of a text.

* `words_append`: only the last word can change.
* `lines_append_boundary`: what comes before a boundary is the first line.
* `lines_append_line`: a line that is added either stands alone or completes the last line.
* `lines_append_lineFeed`: after a line feed it stands alone.
* `unifyNewlines_append`: added text without carriage returns stays as it is.
-/

namespace Bundler.Text

/-! ## Words -/

theorem fields_append {p : Char → Bool} {t : List Char} {w : List Char} {ws : List (List Char)}
    (ht : fields p t = w :: ws) :
    ∀ {s : List Char} {init : List (List Char)} {last : List Char}, fields p s = init ++ [last] →
      fields p (s ++ t) = init ++ (last ++ w) :: ws := by
  intro s
  induction s with
  | nil =>
    intro init last hs
    have hs : [] ++ [[]] = init ++ [last] := hs
    obtain ⟨rfl, hlast⟩ := List.append_inj' hs rfl
    cases hlast
    exact ht
  | cons c s ih =>
    intro init last hs
    simp only [fields, List.cons_append] at hs ⊢
    split at hs
    · -- a separator: the pieces of `s` come after an empty one
      rename_i hc
      cases init with
      | nil => exact absurd (List.cons.inj hs).2 (fields_ne_nil p s)
      | cons v vs =>
        obtain ⟨rfl, hrest⟩ := List.cons.inj hs
        rw [if_pos hc, ih hrest]
        rfl
    · rename_i hc
      rw [if_neg hc]
      cases hf : fields p s with
      | nil => exact absurd hf (fields_ne_nil p s)
      | cons v vs =>
        rw [hf] at hs
        cases init with
        | nil =>
          obtain ⟨rfl, rfl⟩ := List.cons.inj hs
          have hf : fields p s = [] ++ [v] := hf
          rw [ih hf]
          rfl
        | cons v' init =>
          obtain ⟨rfl, rfl⟩ := List.cons.inj hs
          have hf : fields p s = (v :: init) ++ [last] := hf
          rw [ih hf]
          rfl

/-- A separator cuts a text into two with pieces of their own. -/
theorem fields_append_separator {p : Char → Bool} {c : Char} (hc : p c = true) (s t : List Char) :
    fields p (s ++ c :: t) = fields p s ++ fields p t := by
  obtain ⟨init, last, hs⟩ : ∃ init last, fields p s = init ++ [last] :=
    ⟨_, _, (List.dropLast_concat_getLast (fields_ne_nil p s)).symm⟩
  have ht : fields p (c :: t) = [] :: fields p t := by simp [fields, hc]
  rw [fields_append ht hs, hs, List.append_nil, List.append_cons]

/-- Text at the end adds words, and may add to the last word before it. -/
theorem words_append (s t : List Char) :
    (∃ more, words (s ++ t) = words s ++ more) ∨
      ∃ ws w w' more, words s = ws ++ [w] ∧ words (s ++ t) = ws ++ w' :: more := by
  obtain ⟨init, last, hs⟩ : ∃ init last, fields isBlank s = init ++ [last] :=
    ⟨_, _, (List.dropLast_concat_getLast (fields_ne_nil isBlank s)).symm⟩
  obtain ⟨w, ws, ht⟩ := List.exists_cons_of_ne_nil (fields_ne_nil isBlank t)
  have hst := fields_append ht hs
  cases last with
  | nil =>
    refine .inl ⟨(w :: ws).filter fun v => !v.isEmpty, ?_⟩
    simp [words, hst, hs]
  | cons c last =>
    refine .inr ⟨init.filter fun v => !v.isEmpty, c :: last, c :: last ++ w,
      ws.filter fun v => !v.isEmpty, ?_, ?_⟩
    · simp [words, hs]
    · simp [words, hst]

/-! ## Lines -/

theorem lines_cons_end {c : Char} {s : List Char} (hc : isLineEnd c = true) (hcr : c ≠ '\r') :
    lines (c :: s) = [] :: lines s := by
  rw [lines, if_pos hc]
  intro _ h
  exact absurd h hcr

theorem lines_cons_char {c : Char} {s : List Char} (hc : isLineEnd c = false) :
    lines (c :: s) = (c :: (lines s).headD []) :: (lines s).tail := by
  have hcr : c ≠ '\r' := by
    rintro rfl
    cases hc
  rw [lines]
  · rw [hc]
    cases lines s <;> rfl
  · intro _ h
    exact absurd h hcr

theorem lines_cons_ne_nil (c : Char) (s : List Char) : lines (c :: s) ≠ [] := by
  unfold lines
  split
  · rename_i h
    cases h
  · simp
  · split
    · simp
    · split <;> simp

/-- A boundary with the text `rest` behind it. A carriage return takes a line feed along. -/
inductive Boundary (rest : List Char) : List Char → Prop where
  | pair : Boundary rest ['\r', '\n']
  | single {c : Char} : isLineEnd c = true → (c = '\r' → rest.head? ≠ some '\n') → Boundary rest [c]

theorem lines_boundary {boundary rest : List Char} (h : Boundary rest boundary) :
    lines (boundary ++ rest) = [] :: lines rest := by
  cases h with
  | pair => simp [lines]
  | @single c hc hcr =>
    rw [List.singleton_append, lines, if_pos hc]
    intro s hreturn hrest
    exact hcr hreturn (by rw [hrest]; rfl)

/-- What comes before a boundary is the first line. -/
theorem lines_append_boundary {line boundary rest : List Char}
    (hline : ∀ c ∈ line, isLineEnd c = false) (h : Boundary rest boundary) :
    lines (line ++ (boundary ++ rest)) = line :: lines rest := by
  induction line with
  | nil => exact lines_boundary h
  | cons c line ih =>
    rw [List.forall_mem_cons] at hline
    rw [List.cons_append, lines_cons_char hline.1, ih hline.2]
    rfl

theorem lines_line {body : List Char} (hbody : ∀ c ∈ body, isLineEnd c = false) :
    lines (body ++ ['\n']) = [body] := by
  have hfeed : Boundary [] ['\n'] := .single (by decide) (by simp)
  exact lines_append_boundary hbody hfeed

/-- A line feed ends the last line, so that more text stands on lines of its own. -/
theorem lines_append_lineFeed {s : List Char} (hs : '\r' ∉ s) (t : List Char) :
    lines (s ++ '\n' :: t) = lines (s ++ ['\n']) ++ lines t := by
  induction s with
  | nil => rfl
  | cons c s ih =>
    rw [List.mem_cons, not_or] at hs
    have ih := ih hs.2
    simp only [List.cons_append]
    cases hc : isLineEnd c with
    | true =>
      have hcr : c ≠ '\r' := fun h => hs.1 h.symm
      rw [lines_cons_end hc hcr, lines_cons_end hc hcr, ih, List.cons_append]
    | false =>
      rw [lines_cons_char hc, lines_cons_char hc, ih]
      cases hl : lines (s ++ ['\n']) with
      | nil =>
        obtain ⟨d, s', hd⟩ := List.exists_cons_of_ne_nil (List.append_ne_nil_of_right_ne_nil s
          (List.cons_ne_nil '\n' []))
        rw [hd] at hl
        exact absurd hl (lines_cons_ne_nil d s')
      | cons l ls => rfl

/-- A line at the end either stands alone or completes the last line before it. -/
theorem lines_append_line {s body : List Char} (hs : '\r' ∉ s)
    (hbody : ∀ c ∈ body, isLineEnd c = false) :
    lines (s ++ (body ++ ['\n'])) = lines s ++ [body] ∨
      ∃ init last, lines s = init ++ [last] ∧
        lines (s ++ (body ++ ['\n'])) = init ++ [last ++ body] := by
  induction s with
  | nil => exact .inl (lines_line hbody)
  | cons c s ih =>
    rw [List.mem_cons, not_or] at hs
    have ih := ih hs.2
    rw [List.cons_append]
    cases hc : isLineEnd c with
    | true =>
      have hcr : c ≠ '\r' := fun h => hs.1 h.symm
      rw [lines_cons_end hc hcr, lines_cons_end hc hcr]
      rcases ih with ih | ⟨init, last, hl, ih⟩
      · exact .inl (by rw [ih, List.cons_append])
      · exact .inr ⟨[] :: init, last, by rw [hl, List.cons_append], by rw [ih, List.cons_append]⟩
    | false =>
      rw [lines_cons_char hc, lines_cons_char hc]
      cases s with
      | nil =>
        rw [List.nil_append, lines_line hbody]
        exact .inr ⟨[], [c], rfl, rfl⟩
      | cons d s =>
        -- the line that `c` begins goes on with the first line of the rest
        rcases ih with ih | ⟨init, last, hl, ih⟩
        · obtain ⟨l, ls, hl⟩ := List.exists_cons_of_ne_nil (lines_cons_ne_nil d s)
          rw [ih, hl]
          exact .inl rfl
        · rw [ih, hl]
          cases init with
          | nil => exact .inr ⟨[], c :: last, rfl, rfl⟩
          | cons l init => exact .inr ⟨(c :: l) :: init, last, rfl, rfl⟩

/-! ## Line feeds -/

theorem notMem_unifyNewlines (s : List Char) : '\r' ∉ unifyNewlines s := by
  induction s using unifyNewlines.induct with
  | case1 => simp [unifyNewlines]
  | case2 s ih => simpa [unifyNewlines] using ih
  | case3 s _ ih => simpa [unifyNewlines] using ih
  | case4 c s _ hcr ih =>
    rw [unifyNewlines]
    · rw [List.mem_cons, not_or]
      exact ⟨fun h => hcr h.symm, ih⟩
    · assumption
    · exact hcr

theorem unifyNewlines_of_notMem {t : List Char} (ht : '\r' ∉ t) : unifyNewlines t = t := by
  induction t with
  | nil => rfl
  | cons c t ih =>
    rw [List.mem_cons, not_or] at ht
    have hcr : c ≠ '\r' := fun h => ht.1 h.symm
    rw [unifyNewlines, ih ht.2]
    · intro _ h
      exact absurd h hcr
    · exact hcr

/-- Text without carriage returns is added as it is, unless a line feed at its front belongs to a
carriage return before it. -/
theorem unifyNewlines_append {t : List Char} (ht : '\r' ∉ t) (hhead : ∀ t', t ≠ '\n' :: t')
    (s : List Char) : unifyNewlines (s ++ t) = unifyNewlines s ++ t := by
  induction s using unifyNewlines.induct with
  | case1 => exact unifyNewlines_of_notMem ht
  | case2 s ih => simp only [List.cons_append, unifyNewlines, ih]
  | case3 s hs ih =>
    have hst : ∀ u, s ++ t ≠ '\n' :: u := by
      intro u hu
      cases s with
      | nil => exact hhead u hu
      | cons d s =>
        cases hu
        exact hs s rfl
    rw [List.cons_append, unifyNewlines, unifyNewlines, ih, List.cons_append]
    · exact hs
    · exact hst
  | case4 c s _ hcr ih =>
    rw [List.cons_append, unifyNewlines, unifyNewlines, ih, List.cons_append]
    · intro _ h
      exact absurd h hcr
    · exact hcr
    · intro _ h
      exact absurd h hcr
    · exact hcr

end Bundler.Text
