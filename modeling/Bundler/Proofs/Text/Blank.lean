import Bundler.Text.Blank
import Mathlib.Data.List.TakeWhile
import Mathlib.Tactic.Common

/-!
# Bundler.Proofs.Text.Blank

Blank characters and what is left when they are taken away.

* `not_isBlank_of_mem_words`: no word holds a blank character.
* `dropWhile_eq_cons_iff`: where what is left begins.
* `trim_eq_self`, `trim_trim`: nothing is taken from a text that begins and ends with other characters,
  as what is left of a text does.
-/

namespace Bundler.Text

/-! ## Words -/

theorem not_of_mem_fields {p : Char → Bool} {s : List Char} :
    ∀ w ∈ fields p s, ∀ c ∈ w, p c = false := by
  induction s with
  | nil => simp [fields]
  | cons x s ih =>
    intro w hw c hc
    simp only [fields] at hw
    split at hw
    · rcases List.mem_cons.1 hw with rfl | hw
      · cases hc
      · exact ih w hw c hc
    · rename_i hx
      split at hw
      · simp_all
      · rename_i v vs hf
        rw [hf] at ih
        rcases List.mem_cons.1 hw with rfl | hw
        · rcases List.mem_cons.1 hc with rfl | hc
          · simpa using hx
          · exact ih v List.mem_cons_self c hc
        · exact ih w (List.mem_cons_of_mem _ hw) c hc

theorem not_isBlank_of_mem_words {s w : List Char} (hw : w ∈ words s) {c : Char} (hc : c ∈ w) :
    isBlank c = false :=
  not_of_mem_fields w (List.mem_filter.1 hw).1 c hc

/-! ## Trimming -/

variable {p : Char → Bool} {s : List Char}

theorem dropWhile_eq_self (h : ∀ c ∈ s.head?, p c = false) : s.dropWhile p = s := by
  cases s with
  | nil => rfl
  | cons c s => simp [h c rfl]

theorem not_of_mem_head?_dropWhile : ∀ c ∈ (s.dropWhile p).head?, p c = false := by
  induction s with
  | nil => simp
  | cons x s ih =>
    cases hx : p x with
    | true => simpa [hx] using ih
    | false => simp [hx]

/-- What is left begins at the first character that is not to be dropped. -/
theorem dropWhile_eq_cons_iff {c : Char} {rest : List Char} :
    s.dropWhile p = c :: rest ↔
      p c = false ∧ ∃ before, s = before ++ c :: rest ∧ ∀ x ∈ before, p x = true := by
  constructor
  · intro h
    refine ⟨not_of_mem_head?_dropWhile c (by rw [h]; rfl), s.takeWhile p, ?_,
      fun x hx => List.mem_takeWhile_imp hx⟩
    rw [← h, List.takeWhile_append_dropWhile]
  · rintro ⟨hc, before, rfl, hbefore⟩
    rw [List.dropWhile_append_of_pos hbefore, List.dropWhile_cons_of_neg (by simp [hc])]

theorem takeWhile_append_cons {c : Char} (hs : ∀ x ∈ s, p x = true) (hc : p c = false)
    (rest : List Char) : (s ++ c :: rest).takeWhile p = s := by
  rw [List.takeWhile_append_of_pos hs, List.takeWhile_cons_of_neg (by simp [hc]), List.append_nil]

theorem trim_eq_self (hhead : ∀ c ∈ s.head?, p c = false) (hlast : ∀ c ∈ s.getLast?, p c = false) :
    trim p s = s := by
  rw [← List.head?_reverse] at hlast
  rw [trim, dropWhile_eq_self hhead, dropWhile_eq_self hlast, List.reverse_reverse]

/-- What is left of a text begins as its first part that is not taken away. -/
theorem trim_isPrefix : trim p s <+: s.dropWhile p := by
  have hsuffix := List.dropWhile_suffix p (l := (s.dropWhile p).reverse)
  rwa [← List.reverse_prefix, List.reverse_reverse] at hsuffix

theorem not_of_mem_head?_trim : ∀ c ∈ (trim p s).head?, p c = false := by
  intro c hc
  obtain ⟨rest, hrest⟩ := trim_isPrefix (p := p) (s := s)
  refine not_of_mem_head?_dropWhile (s := s) c ?_
  rw [← hrest, List.head?_append, Option.mem_def.1 hc]
  rfl

theorem not_of_mem_getLast?_trim : ∀ c ∈ (trim p s).getLast?, p c = false := by
  rw [← List.head?_reverse, trim, List.reverse_reverse]
  exact not_of_mem_head?_dropWhile

theorem trim_trim (p : Char → Bool) (s : List Char) : trim p (trim p s) = trim p s :=
  trim_eq_self not_of_mem_head?_trim not_of_mem_getLast?_trim

end Bundler.Text
