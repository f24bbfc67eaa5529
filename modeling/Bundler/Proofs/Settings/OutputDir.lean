import Bundler.Project
import Bundler.Proofs.Path

/-!
# Bundler.Proofs.Settings.OutputDir

Where the output directory of accepted settings lies. The check reads a backslash as a slash; the path
itself is read with slashes only. The two readings agree on names without a backslash. On others a
double dot may take away more in the path than in the check: of `a\b/../..` the check sees two names
before two double dots, the path one.

* `Settings.Accepted`: settings that have been made from a table and changed by assignments.
* `Settings.isBelow_outputDir_iff`: when the output directory stays below every root.
* `Settings.outputDir_leaves_root`: accepted settings whose output directory does not.
-/

namespace Bundler

namespace Settings

/-- Settings that have passed the checks: made from a table, then changed by assignments. -/
inductive Accepted : Settings → Prop where
  | made {t : Table} {s : Settings} : ofTable t = .ok s → Accepted s
  | assigned {s s' : Settings} {name : String} {v : Value} :
      Accepted s → s.assign name v = .ok s' → Accepted s'

def StaysInside (name : String) : Prop :=
  hasOwnBase name = false ∧ leavesBase name = false

theorem staysInside_of_checkOutputDir {v : Value} {name : String}
    (h : checkOutputDir v = .ok name) : StaysInside name := by
  unfold checkOutputDir at h
  split at h
  · cases h
  · rename_i s hs
    split at h
    · cases h
    · rename_i hbase
      split at h
      · cases h
      · rename_i hleaves
        cases h
        exact ⟨Bool.eq_false_iff.2 hbase, Bool.eq_false_iff.2 hleaves⟩

theorem eq_ok_of_within {α : Type} {step : Fault.Place} {c : Checked α} {a : α}
    (h : c.within step = .ok a) : c = .ok a := by
  cases c with
  | error fs => cases h
  | ok b => exact h

theorem staysInside_default : StaysInside ({} : Settings).outputDir :=
  ⟨by decide +kernel, by decide +kernel⟩

theorem staysInside_of_ofTable {t : Table} {s : Settings} (h : ofTable t = .ok s) :
    StaysInside s.outputDir := by
  simp only [ofTable] at h
  split at h
  · rename_i hdir _ _ _ _
    cases h
    unfold Checked.field at hdir
    split at hdir
    · cases hdir
      exact staysInside_default
    · exact staysInside_of_checkOutputDir (eq_ok_of_within hdir)
  · cases h

/-- An assignment checks the output directory or leaves it as it is. -/
theorem assign_outputDir {s s' : Settings} {name : String} {v : Value}
    (h : s.assign name v = .ok s') :
    s'.outputDir = s.outputDir ∨ checkOutputDir v = .ok s'.outputDir := by
  have hmap : ∀ {α : Type} {c : Checked α} {step : Fault.Place} {f : α → Settings},
      (c.within step).map f = .ok s' → ∃ a, c = .ok a ∧ f a = s' := by
    intro α c step f hc
    cases c with
    | error fs => cases hc
    | ok a => exact ⟨a, rfl, Except.ok.inj hc⟩
  unfold assign at h
  split at h
  · obtain ⟨a, _, rfl⟩ := hmap h
    exact .inl rfl
  · obtain ⟨a, _, rfl⟩ := hmap h
    exact .inl rfl
  · obtain ⟨a, ha, rfl⟩ := hmap h
    exact .inr ha
  · obtain ⟨a, _, rfl⟩ := hmap h
    exact .inl rfl
  · obtain ⟨a, _, rfl⟩ := hmap h
    exact .inl rfl
  · obtain ⟨a, _, rfl⟩ := hmap h
    exact .inl rfl
  · obtain ⟨a, _, rfl⟩ := hmap h
    exact .inl rfl
  · cases h

theorem Accepted.staysInside {s : Settings} (h : s.Accepted) : StaysInside s.outputDir := by
  induction h with
  | made ht => exact staysInside_of_ofTable ht
  | assigned _ ha ih =>
    rcases assign_outputDir ha with heq | hcheck
    · rw [heq]
      exact ih
    · exact staysInside_of_checkOutputDir hcheck

theorem StaysInside.isAbsolute {name : String} (h : StaysInside name) :
    (Path.ofString name).isAbsolute = false := by
  have hbase := h.1
  simp only [hasOwnBase, Bool.or_eq_false_iff] at hbase
  exact hbase.1.2

/-- Without a backslash the check reads the name as the path does. -/
theorem leavesBase_eq_leadsOut {name : String} (h : '\\' ∉ name.toList) :
    leavesBase name = (Path.ofString name).leadsOut := by
  have hmap : (name.toList.map fun c => if c = '\\' then '/' else c) = name.toList := by
    refine (List.map_congr_left fun c hc => ?_).trans (List.map_id _)
    have hne : c ≠ '\\' := fun he => h (he ▸ hc)
    rw [if_neg hne, id]
  unfold leavesBase
  rw [hmap, String.ofList_toList]
  rfl

/-- The output directory of accepted settings lies below every root, or is the root, exactly when its
name, read with slashes only, does not lead out. Of a name without a backslash this always holds. -/
theorem isBelow_outputDir_iff {s : Settings} (hs : s.Accepted) :
    ((∀ root : Path, root.isAbsolute = true → root.normalize = root →
        (Project.atRoot root s).outputDir.normalize.isBelow root = true) ↔
      (Path.ofString s.outputDir).leadsOut = false) ∧
    ('\\' ∉ s.outputDir.toList → (Path.ofString s.outputDir).leadsOut = false) := by
  have hinside := hs.staysInside
  refine ⟨⟨fun hbelow => ?_, fun hout root habs hnormal => ?_⟩, fun hslash => ?_⟩
  · cases hout : (Path.ofString s.outputDir).leadsOut with
    | false => rfl
    | true =>
      obtain ⟨root, habs, hnormal, hnot⟩ := Path.exists_not_isBelow hinside.isAbsolute hout
      have hin := hbelow root habs hnormal
      exact absurd (hin.symm.trans hnot) (by decide)
  · exact Path.isBelow_of_not_leadsOut hinside.isAbsolute hout habs hnormal
  · rw [← leavesBase_eq_leadsOut hslash]
    exact hinside.2

def withOutputDir (name : String) : Option Settings :=
  (ofTable [("output_dir", .str name)]).toOption

theorem accepted_of_withOutputDir (name : String) {s : Settings} (h : withOutputDir name = some s) :
    s.Accepted := by
  unfold withOutputDir at h
  cases htable : ofTable [("output_dir", .str name)] with
  | error fs =>
    rw [htable] at h
    cases h
  | ok s' =>
    rw [htable] at h
    cases h
    exact .made htable

theorem isBelow_outputDir_iff_sample :
    ∃ s : Settings, s.Accepted ∧ s.outputDir = "dist\\js/../out" ∧
      (∀ root : Path, root.isAbsolute = true → root.normalize = root →
        (Project.atRoot root s).outputDir.normalize.isBelow root = true) := by
  have haccepted : Accepted { outputDir := "dist\\js/../out" } :=
    accepted_of_withOutputDir "dist\\js/../out" (by decide +kernel)
  exact ⟨_, haccepted, rfl, (isBelow_outputDir_iff haccepted).1.2 (by decide +kernel)⟩

/-- A name that is accepted and leads out: the check reads `a/b/../../x`, which is `x`, but the path
has one name before two double dots. -/
theorem outputDir_leaves_root :
    ∃ s : Settings, s.Accepted ∧ s.outputDir = "a\\b/../../x" ∧
      (Project.atRoot (.ofParts ["p"]) s).outputDir.normalize = .ofParts ["x"] ∧
      (Project.atRoot (.ofParts ["p"]) s).outputDir.normalize.isBelow (.ofParts ["p"]) = false := by
  have haccepted : Accepted { outputDir := "a\\b/../../x" } :=
    accepted_of_withOutputDir "a\\b/../../x" (by decide +kernel)
  exact ⟨_, haccepted, rfl, by decide +kernel, by decide +kernel⟩

end Settings

end Bundler
