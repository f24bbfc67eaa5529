import Bundler.Section
import Mathlib.Data.List.TakeWhile
import Mathlib.Tactic.Common

/-!
# Bundler.Proofs.Section

What is left of a section, and when a section cannot be taken.

* `lineFeed_notMem_extract?`: no section keeps a line feed.
* `fault? optional k source`: what is wrong with one section, said of its raw body.
* `Sections.extract_eq_error_iff`: an extraction fails with the first fault.
-/

namespace Bundler

namespace Section

/-! ## Line feeds -/

theorem lineFeed_notMem_shrinkFrom (dropping : Bool) (s : List Char) :
    '\n' ∉ shrinkFrom dropping s := by
  induction s generalizing dropping with
  | nil => simp [shrinkFrom]
  | cons c s ih =>
    simp only [shrinkFrom]
    split
    · rename_i hc
      have hne : '\n' ≠ c := by
        rintro rfl
        simp [show Text.isBlank '\n' = true by decide] at hc
      simp [hne, ih]
    · split
      · exact ih true
      · split
        · exact ih false
        · rename_i hne
          split
          · exact ih true
          · simp [Ne.symm hne, ih]

theorem not_isBlank_of_mem_squeeze {s : List Char} {c : Char} (h : c ∈ squeeze s) :
    Text.isBlank c = false := by
  simpa using (List.mem_filter.1 h).2

theorem lineFeed_notMem_squeeze (s : List Char) : '\n' ∉ squeeze s := by
  intro h
  have hblank := not_isBlank_of_mem_squeeze h
  simp [show Text.isBlank '\n' = true by decide] at hblank

theorem objectBody_subset {s t : List Char} (h : objectBody s = .ok t) : t ⊆ s := by
  unfold objectBody at h
  split at h
  · cases h
  · rename_i c rest hopen
    split at h
    · cases h
    · rename_i c' inner hclose
      cases h
      intro x hx
      have hrest : x ∈ rest.reverse := by
        refine (List.dropWhile_sublist (· != '}')).subset ?_
        rw [hclose]
        exact List.mem_cons_of_mem _ (List.mem_reverse.1 hx)
      refine (List.dropWhile_sublist (· != '{')).subset ?_
      rw [hopen]
      exact List.mem_cons_of_mem _ (List.mem_reverse.1 hrest)

theorem lineFeed_notMem_reduce {k : Section} {body s : List Char} (h : k.reduce body = .ok s) :
    '\n' ∉ s := by
  cases k with
  | template =>
    cases h
    exact lineFeed_notMem_shrinkFrom false body
  | script => exact fun hmem => lineFeed_notMem_squeeze body (objectBody_subset h hmem)
  | style =>
    cases h
    exact lineFeed_notMem_squeeze body

theorem lineFeed_notMem_extract? {optional : List Section} {k : Section} {source s : List Char}
    (h : k.extract? optional source = .ok (some s)) : '\n' ∉ s := by
  unfold extract? at h
  split at h
  · split at h <;> cases h
  · split at h
    · rename_i hreduce
      cases h
      exact lineFeed_notMem_reduce hreduce
    · cases h

/-! ## Faults -/

/-- What is wrong with the braces of a script: none opens, or none closes after the first that
opens. -/
def braceFault? (body : List Char) : Option String :=
  if '{' ∉ body then some "no opening brace"
  else if '}' ∉ body.dropWhile (· != '{') then some "closing brace precedes opening brace"
  else none

/-- What is wrong with a section of a source. A tag may be missing from an optional section only, and
the body of a script must have its braces. -/
def fault? (optional : List Section) (k : Section) (source : List Char) : Option Failure.Cause :=
  match body? k.name.toList source with
  | none => if k ∈ optional then none else some (.missingSection k.name)
  | some body => if k = .script then (braceFault? body).map (.malformedSection k.name) else none

theorem dropWhile_filter_of_pos {p : Char → Bool} {c : Char} (hc : p c = true) (s : List Char) :
    (s.filter p).dropWhile (· != c) = (s.dropWhile (· != c)).filter p := by
  induction s with
  | nil => rfl
  | cons x s ih =>
    by_cases hx : x = c
    · subst hx
      simp [hc]
    · by_cases hp : p x = true
      · simp [hp, hx, ih]
      · simp [hp, hx, ih]

theorem dropWhile_ne_eq_nil_iff {c : Char} {s : List Char} : s.dropWhile (· != c) = [] ↔ c ∉ s := by
  rw [List.dropWhile_eq_nil_iff]
  constructor
  · intro h hc
    simpa using h c hc
  · intro h x hx
    have hne : x ≠ c := fun he => h (he ▸ hx)
    simpa using hne

theorem objectBody_eq_error_iff {s : List Char} {cause : Failure.Cause} :
    objectBody s = .error cause ↔ (braceFault? s).map (.malformedSection "script") = some cause := by
  unfold objectBody braceFault?
  split
  · rename_i hopen
    rw [dropWhile_ne_eq_nil_iff] at hopen
    simp [hopen]
  · rename_i c rest hopen
    have hmem : '{' ∈ s := by
      by_contra h
      rw [dropWhile_ne_eq_nil_iff.2 h] at hopen
      cases hopen
    have hc : c = '{' := by
      have := List.head?_dropWhile_not (· != '{') s
      rw [hopen] at this
      simpa using this
    subst hc
    have hclose : '}' ∉ rest ↔ rest.reverse.dropWhile (· != '}') = [] := by
      rw [dropWhile_ne_eq_nil_iff, List.mem_reverse]
    rw [hopen]
    split
    · rename_i hnone
      simp [hmem, hclose.2 hnone]
    · rename_i c' inner hsome
      have hin : '}' ∈ rest := by
        by_contra h
        rw [hclose.1 h] at hsome
        cases hsome
      simp [hmem, hin]

/-- Blank characters hide no brace. -/
theorem braceFault?_squeeze (body : List Char) : braceFault? (squeeze body) = braceFault? body := by
  have hkeep : ∀ {c : Char} {s : List Char}, Text.isBlank c = false → (c ∈ squeeze s ↔ c ∈ s) := by
    intro c s hc
    simp [squeeze, hc]
  have hopen : Text.isBlank '{' = false := by decide
  have hclose : Text.isBlank '}' = false := by decide
  have hdrop : (squeeze body).dropWhile (· != '{') = squeeze (body.dropWhile (· != '{')) :=
    dropWhile_filter_of_pos (by simp [hopen]) body
  simp only [braceFault?, hdrop, hkeep hopen, hkeep hclose]

theorem extract?_eq_error_iff {optional : List Section} {k : Section} {source : List Char}
    {cause : Failure.Cause} :
    k.extract? optional source = .error cause ↔ k.fault? optional source = some cause := by
  unfold extract? fault?
  cases body? k.name.toList source with
  | none => by_cases h : k ∈ optional <;> simp [h]
  | some body =>
    cases k with
    | template => simp [reduce]
    | style => simp [reduce]
    | script =>
      simp only [reduce, ite_true]
      rw [← braceFault?_squeeze, show name .script = "script" from rfl, ← objectBody_eq_error_iff]
      split
      · rename_i h
        simp [h]
      · rename_i h
        simp [h]

theorem fault?_eq_match (optional : List Section) (k : Section) (source : List Char) :
    k.fault? optional source =
      match k.extract? optional source with
      | .error cause => some cause
      | .ok _ => none := by
  cases h : k.extract? optional source with
  | error cause => exact extract?_eq_error_iff.1 h
  | ok s =>
    cases hf : k.fault? optional source with
    | none => rfl
    | some cause =>
      rw [extract?_eq_error_iff.2 hf] at h
      cases h

end Section

namespace Sections

theorem extract_eq_ok_iff {optional : List Section} {source : String} {s : Sections} :
    extract optional source = .ok s ↔
      ∃ template script style, Section.template.extract? optional source.toList = .ok template ∧
        Section.script.extract? optional source.toList = .ok script ∧
        Section.style.extract? optional source.toList = .ok style ∧
        s = ⟨template.map String.ofList, script.map String.ofList, style.map String.ofList⟩ := by
  unfold extract
  cases Section.template.extract? optional source.toList <;>
    cases Section.script.extract? optional source.toList <;>
    cases Section.style.extract? optional source.toList <;> simp [eq_comm]

/-- An extraction fails with the fault of the first section that has one. -/
theorem extract_eq_error_iff {optional : List Section} {source : String} {cause : Failure.Cause} :
    extract optional source = .error cause ↔
      Section.all.findSome? (fun k => k.fault? optional source.toList) = some cause := by
  unfold extract
  simp only [Section.all, List.findSome?_cons, Section.fault?_eq_match]
  cases Section.template.extract? optional source.toList <;>
    cases Section.script.extract? optional source.toList <;>
    cases Section.style.extract? optional source.toList <;> simp

theorem lineFeed_notMem_template {optional : List Section} {source : String} {s : Sections}
    (h : extract optional source = .ok s) : '\n' ∉ (s.template.getD "").toList := by
  obtain ⟨template, script, style, ht, -, -, rfl⟩ := extract_eq_ok_iff.1 h
  cases template with
  | none => simp
  | some t => simpa using Section.lineFeed_notMem_extract? ht

theorem lineFeed_notMem_script {optional : List Section} {source : String} {s : Sections}
    (h : extract optional source = .ok s) : '\n' ∉ (s.script.getD "").toList := by
  obtain ⟨template, script, style, -, hs, -, rfl⟩ := extract_eq_ok_iff.1 h
  cases script with
  | none => simp
  | some t => simpa using Section.lineFeed_notMem_extract? hs

end Sections

end Bundler
