import Bundler.Proofs.Section.Tags
import Bundler.Proofs.Text.Blank

/-!
# Bundler.Proofs.Section.Braces

What a script contributes, said of its raw body. The braces are looked for after the blank characters
have gone; it comes to the same to cut first.

* `Braced s t`: `t` stands strictly between the first opening brace and the last closing brace of `s`.
* `objectBody_eq_ok_iff`: what is cut out stands between these braces.
* `objectBody_squeeze`: blank characters can be removed before or after.
* `extract_script_spec`: when a script can be taken, what is taken, and what is wrong otherwise.
-/

namespace Bundler.Section

def Braced (s t : List Char) : Prop :=
  ∃ before after, s = before ++ '{' :: (t ++ '}' :: after) ∧ '{' ∉ before ∧ '}' ∉ after

/-- What is left from the first opening brace on. -/
theorem dropWhile_ne_eq_cons_iff {c x : Char} {s rest : List Char} :
    s.dropWhile (· != c) = x :: rest ↔ x = c ∧ ∃ before, s = before ++ c :: rest ∧ c ∉ before := by
  rw [Text.dropWhile_eq_cons_iff]
  constructor
  · rintro ⟨hx, before, rfl, hbefore⟩
    obtain rfl : x = c := by simpa using hx
    refine ⟨rfl, before, rfl, fun hmem => ?_⟩
    simpa using hbefore x hmem
  · rintro ⟨rfl, before, rfl, hbefore⟩
    refine ⟨by simp, before, rfl, fun y hy => bne_iff_ne.2 ?_⟩
    rintro rfl
    exact hbefore hy

theorem objectBody_eq_ok_iff {s t : List Char} : objectBody s = .ok t ↔ Braced s t := by
  constructor
  · intro h
    unfold objectBody at h
    split at h
    · cases h
    · rename_i c rest hopen
      split at h
      · cases h
      · rename_i c' inner hclose
        cases h
        obtain ⟨rfl, before, rfl, hbefore⟩ := dropWhile_ne_eq_cons_iff.1 hopen
        obtain ⟨rfl, after, hrest, hafter⟩ := dropWhile_ne_eq_cons_iff.1 hclose
        -- the text behind the opening brace is read backwards
        refine ⟨before, after.reverse, ?_, hbefore, fun hmem => hafter (List.mem_reverse.1 hmem)⟩
        rw [← List.reverse_reverse rest, hrest]
        simp
  · rintro ⟨before, after, rfl, hbefore, hafter⟩
    have hclose : (t ++ '}' :: after).reverse.dropWhile (· != '}') = '}' :: t.reverse := by
      rw [dropWhile_ne_eq_cons_iff]
      exact ⟨rfl, after.reverse, by simp, fun hmem => hafter (List.mem_reverse.1 hmem)⟩
    rw [objectBody, dropWhile_ne_append hbefore]
    simp only [hclose, List.reverse_reverse]

theorem squeeze_append (s t : List Char) : squeeze (s ++ t) = squeeze s ++ squeeze t :=
  List.filter_append s t

theorem squeeze_cons {c : Char} (hc : Text.isBlank c = false) (s : List Char) :
    squeeze (c :: s) = c :: squeeze s :=
  List.filter_cons_of_pos (by simp [hc])

theorem Braced.squeeze {s t : List Char} (h : Braced s t) :
    Braced (Section.squeeze s) (Section.squeeze t) := by
  obtain ⟨before, after, rfl, hbefore, hafter⟩ := h
  refine ⟨Section.squeeze before, Section.squeeze after, ?_,
    fun hmem => hbefore (List.mem_of_mem_filter hmem), fun hmem => hafter (List.mem_of_mem_filter hmem)⟩
  rw [squeeze_append, squeeze_cons (by decide), squeeze_append, squeeze_cons (by decide)]

/-- It does not matter whether blank characters go before or after the braces are looked for. -/
theorem objectBody_squeeze (s : List Char) :
    objectBody (squeeze s) = (objectBody s).map squeeze := by
  cases h : objectBody s with
  | ok t => exact objectBody_eq_ok_iff.2 (objectBody_eq_ok_iff.1 h).squeeze
  | error cause =>
    rw [Except.map, objectBody_eq_error_iff, braceFault?_squeeze, ← objectBody_eq_error_iff]
    exact h

/-- An opening brace has a closing one behind it. -/
def HasBraces (s : List Char) : Prop :=
  ∃ before after, s = before ++ '{' :: after ∧ '}' ∈ after

theorem braceFault?_eq_none_iff {s : List Char} : braceFault? s = none ↔ HasBraces s := by
  have hfault : braceFault? s = none ↔ '}' ∈ s.dropWhile (· != '{') := by
    unfold braceFault?
    split
    · rename_i hopen
      simp [dropWhile_ne_eq_nil_iff.2 hopen]
    · simp
  rw [hfault]
  constructor
  · intro hclose
    obtain ⟨c, rest, hdrop⟩ := List.exists_cons_of_ne_nil (List.ne_nil_of_mem hclose)
    rw [hdrop] at hclose
    obtain ⟨rfl, before, rfl, _⟩ := dropWhile_ne_eq_cons_iff.1 hdrop
    exact ⟨before, rest, rfl, by simpa using hclose⟩
  · rintro ⟨before, after, rfl, hclose⟩
    -- an earlier opening brace leaves more behind it
    rw [List.dropWhile_append]
    split <;> simp [hclose]

/-- What is wrong with the braces of a script. -/
def braceDetail (s : List Char) : String :=
  if '{' ∈ s then "closing brace precedes opening brace" else "no opening brace"

theorem objectBody_fails_iff {s : List Char} {cause : Failure.Cause} :
    objectBody s = .error cause ↔ ¬ HasBraces s ∧ cause = .malformedSection "script" (braceDetail s) := by
  rw [objectBody_eq_error_iff, ← braceFault?_eq_none_iff]
  unfold braceFault? braceDetail
  by_cases hopen : '{' ∈ s
  · by_cases hclose : '}' ∈ s.dropWhile (· != '{') <;> simp [hopen, hclose, eq_comm]
  · simp [hopen, eq_comm]

theorem exists_objectBody_iff {s : List Char} : (∃ t, objectBody s = .ok t) ↔ HasBraces s := by
  cases h : objectBody s with
  | ok t =>
    refine iff_of_true ⟨t, rfl⟩ ?_
    by_contra hno
    rw [objectBody_fails_iff.2 ⟨hno, rfl⟩] at h
    cases h
  | error cause =>
    refine iff_of_false ?_ (objectBody_fails_iff.1 h).1
    rintro ⟨t, ht⟩
    cases ht

/-- A script is missing exactly when the source has no tag for it. Otherwise it is taken exactly when
its body has an opening brace with a closing one behind it, and what is taken is the text between the
first opening brace and the last closing one, without blank characters. A body without an opening brace
is told from one whose braces come in the wrong order. -/
theorem extract_script_spec (source : List Char) :
    (extract .script source = .error (.missingSection "script") ↔
      ∀ i tag, ¬ TagAt "script".toList source i tag) ∧
    ((∃ i tag, TagAt "script".toList source i tag) →
      ∃ body, bodyOf "script" source = .ok body ∧
        ((∃ s, extract .script source = .ok s) ↔ HasBraces body) ∧
        (∀ s, extract .script source = .ok s ↔ ∃ inner, Braced body inner ∧ s = squeeze inner) ∧
        ∀ cause, extract .script source = .error cause ↔
          ¬ HasBraces body ∧ cause = .malformedSection "script" (braceDetail body)) := by
  cases hbody : body? "script".toList source with
  | none =>
    have hno := body?_eq_none_iff.1 hbody
    refine ⟨iff_of_true ?_ hno, fun ⟨i, tag, htag⟩ => absurd htag (hno i tag)⟩
    rw [extract, name, hbody]
  | some body =>
    have hextract : extract .script source = (objectBody body).map squeeze := by
      rw [← objectBody_squeeze, extract, name, hbody]
      rfl
    have herror : ∀ cause, extract .script source = .error cause ↔ objectBody body = .error cause := by
      intro cause
      rw [hextract]
      cases objectBody body <;> simp [Except.map]
    refine ⟨iff_of_false ?_ ?_, fun _ => ⟨body, ?_, ?_, fun s => ?_, fun cause => ?_⟩⟩
    · rw [herror, objectBody_fails_iff]
      simp
    · rw [← body?_eq_none_iff, hbody]
      simp
    · rw [bodyOf, hbody]
    · rw [hextract, ← exists_objectBody_iff]
      cases objectBody body <;> simp [Except.map]
    · simp only [hextract, ← objectBody_eq_ok_iff]
      cases objectBody body <;> simp [Except.map, eq_comm]
    · rw [herror, objectBody_fails_iff]

end Bundler.Section
