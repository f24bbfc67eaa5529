import Bundler.Toml.Str
import Mathlib.Tactic.Common

/-!
# Bundler.Proofs.Toml.Str

Strings that are written and read again. Every character can be written, and reading undoes each escape.

* `basicString_escaped`: the body of a written string is read back, and what comes after its closing
  mark is left.
* `isPlain_stringText`: a written string has no control characters, so it stays on its
  line.
-/

namespace Bundler.Toml

/-! ## Escapes -/

theorem readHex?_append {k acc n : Nat} {ds : List Char} (rest : List Char)
    (h : readHex? acc k ds = some (n, [])) : readHex? acc k (ds ++ rest) = some (n, rest) := by
  induction k generalizing acc ds with
  | zero =>
    simp only [readHex?, Option.some.injEq, Prod.mk.injEq] at h
    obtain ⟨rfl, rfl⟩ := h
    rfl
  | succ k ih =>
    cases ds with
    | nil => simp [readHex?] at h
    | cons c ds =>
      simp only [readHex?, List.cons_append] at h ⊢
      cases hc : hexValue? c with
      | none => simp [hc] at h
      | some d =>
        simp only [hc] at h ⊢
        exact ih h

theorem readHex?_hexDigits : ∀ n < 0x80, readHex? 0 4 (Text.hexDigits 4 n) = some (n, []) := by
  decide

theorem lt_of_isControl {c : Char} (h : isControl c = true) : c.toNat < 0x80 := by
  simp only [isControl, Bool.or_eq_true, Bool.and_eq_true, decide_eq_true_eq, beq_iff_eq] at h
  omega

theorem readEscape_code {c : Char} (h : isControl c = true) (rest : List Char) :
    readEscape ('u' :: (Text.hexDigits 4 c.toNat ++ rest)) = .ok (c, rest) := by
  have hlt := lt_of_isControl h
  have hscalar : isScalar c.toNat = true := by
    simp only [isScalar, Bool.or_eq_true, decide_eq_true_eq]
    omega
  simp only [readEscape, if_true, readCode, readHex?_append rest (readHex?_hexDigits _ hlt), hscalar,
    Char.ofNat_toNat]

theorem readEscape_letter {p : Char × Char} (h : p ∈ letterEscapes) (rest : List Char) :
    readEscape (p.1 :: rest) = .ok (p.2, rest) := by
  revert p
  simp [letterEscapes, readEscape, List.lookup_cons]

/-- A character that is written as itself is neither a mark nor a backslash. -/
theorem ne_of_find?_eq_none {c : Char} (h : (letterEscapes.find? fun p => p.2 == c) = none) :
    c ≠ '"' ∧ c ≠ '\\' := by
  simp only [letterEscapes, List.find?_eq_none, List.forall_mem_cons, beq_iff_eq] at h
  exact ⟨fun hc => h.2.2.2.2.2.1 hc.symm, fun hc => h.2.2.2.2.2.2.1 hc.symm⟩

/-! ## Strings -/

theorem basicFrom_escapedChar (fuel : Nat) (c : Char) (rest : List Char) :
    basicFrom false (fuel + 1) (escapedChar c ++ rest) =
      basicFrom.consFrom c (basicFrom false fuel rest) := by
  unfold escapedChar
  split
  · rename_i letter x hfind
    have hx := List.find?_some hfind
    have hletter := readEscape_letter (List.mem_of_find?_eq_some hfind) rest
    rw [beq_iff_eq] at hx
    simp only at hx hletter
    subst hx
    simp [basicFrom, hletter]
  · rename_i hfind
    obtain ⟨hmark, hslash⟩ := ne_of_find?_eq_none hfind
    split
    · rename_i hcontrol
      simp [basicFrom, readEscape_code hcontrol]
    · rename_i hcontrol
      simp [basicFrom, hmark, hslash, hcontrol]

theorem basicFrom_escaped {fuel : Nat} {s : List Char} (h : s.length < fuel) (rest : List Char) :
    basicFrom false fuel (s.flatMap escapedChar ++ '"' :: rest) = .ok (s, rest) := by
  induction s generalizing fuel with
  | nil =>
    obtain ⟨fuel, rfl⟩ := Nat.exists_eq_succ_of_ne_zero (Nat.ne_of_gt h)
    simp [basicFrom]
  | cons c s ih =>
    obtain ⟨fuel, rfl⟩ := Nat.exists_eq_succ_of_ne_zero (Nat.ne_of_gt (Nat.zero_lt_of_lt h))
    rw [List.flatMap_cons, List.append_assoc, basicFrom_escapedChar,
      ih (Nat.lt_of_succ_lt_succ h)]
    rfl

theorem escapedChar_ne_nil (c : Char) : escapedChar c ≠ [] := by
  unfold escapedChar
  split
  · simp
  · split <;> simp

theorem length_le_length_escaped (s : List Char) : s.length ≤ (s.flatMap escapedChar).length := by
  induction s with
  | nil => simp
  | cons c s ih =>
    have hc := List.length_pos_iff.2 (escapedChar_ne_nil c)
    rw [List.flatMap_cons, List.length_append, List.length_cons]
    omega

theorem basicString_escaped (s rest : List Char) :
    basicString (s.flatMap escapedChar ++ '"' :: rest) = .ok (s, rest) := by
  refine basicFrom_escaped ?_ rest
  have := length_le_length_escaped s
  rw [List.length_append]
  omega

/-- The body of a written string never begins with a mark. -/
theorem head?_escaped_ne (s : List Char) : (s.flatMap escapedChar).head? ≠ some '"' := by
  cases s with
  | nil => simp
  | cons c s =>
    rw [List.flatMap_cons]
    unfold escapedChar
    split
    · simp
    · rename_i hfind
      split
      · simp
      · simpa using (ne_of_find?_eq_none hfind).1

/-! ## Control characters -/

/-- A text without control characters. -/
def isPlain (s : List Char) : Bool :=
  s.all fun c => !isControl c

theorem isPlain_iff {s : List Char} : isPlain s = true ↔ ∀ c ∈ s, isControl c = false := by
  simp [isPlain]

theorem isPlain_append {s t : List Char} :
    isPlain (s ++ t) = true ↔ isPlain s = true ∧ isPlain t = true := by
  simp only [isPlain, List.all_append, Bool.and_eq_true]

theorem isPlain_hexDigits : ∀ n < 0x80, isPlain (Text.hexDigits 4 n) = true := by
  decide

theorem not_isControl_of_mem_escapedChar {c x : Char} (h : x ∈ escapedChar c) : isControl x = false := by
  unfold escapedChar at h
  split at h
  · rename_i letter y hfind
    have hletters : isPlain (letterEscapes.map Prod.fst) = true := by decide
    rcases List.mem_cons.1 h with rfl | h
    · rfl
    · rw [List.mem_singleton.1 h]
      exact isPlain_iff.1 hletters letter
        (List.mem_map.2 ⟨_, List.mem_of_find?_eq_some hfind, rfl⟩)
  · split at h
    · rename_i hcontrol
      rcases List.mem_cons.1 h with rfl | h
      · rfl
      · rcases List.mem_cons.1 h with rfl | h
        · rfl
        · exact isPlain_iff.1 (isPlain_hexDigits _ (lt_of_isControl hcontrol)) x h
    · rename_i hcontrol
      rw [List.mem_singleton.1 h]
      exact Bool.eq_false_iff.2 hcontrol

theorem isPlain_stringText (s : String) : isPlain (stringText s).toList = true := by
  rw [isPlain_iff]
  intro x h
  rw [stringText, String.toList_ofList, List.mem_cons, List.mem_append, List.mem_flatMap,
    List.mem_singleton] at h
  rcases h with rfl | ⟨c, _, hx⟩ | rfl
  · rfl
  · exact not_isControl_of_mem_escapedChar hx
  · rfl

end Bundler.Toml
