import Bundler.Disk.Change
import Bundler.Proofs.Keyed

/-!
# Bundler.Proofs.Disk.Walk

What a path name leads to is what lies there.

* `walk_sound`: an entry that is found lies at its location, and a free name is free.
* `readBytes_eq_ok`: bytes that are read are those of a file.
* `openFile_eq_ok`: a file that is opened was there, or is new and empty.
-/

namespace Bundler

namespace Disk

/-! ## Entries -/

theorem mem_entries_of_get? {d : Disk} {l : Location} {e : Entry} (h : d.get? l = some e)
    (he : e ≠ .directory) : (l, e) ∈ d.entries := by
  unfold get? at h
  split at h
  · cases h
    exact absurd rfl he
  · rw [List.lookup_eq_some_iff] at h
    obtain ⟨before, after, hentries, _⟩ := h
    rw [hentries]
    simp

theorem get?_set {d : Disk} {l : Location} (hl : l ≠ []) (e : Entry) (l' : Location) :
    (d.set l e).get? l' = if l' = l then some e else d.get? l' := by
  by_cases h : l' = l
  · subst h
    rw [if_pos rfl, get?, if_neg hl]
    exact Keyed.lookup_put_self l' e d.entries
  · rw [if_neg h, get?, get?]
    by_cases hroot : l' = []
    · rw [if_pos hroot, if_pos hroot]
    · rw [if_neg hroot, if_neg hroot]
      exact Keyed.lookup_put_of_ne h e d.entries

theorem ne_nil_of_get?_file {d : Disk} {l : Location} {bytes : List UInt8}
    (h : d.get? l = some (.file bytes)) : l ≠ [] := by
  rintro rfl
  cases h

end Disk

/-! ## Walking -/

/-- What is said of a spot holds on the disk. Of a directory that has been removed while it is the
current one nothing is said. -/
def Spot.Sound (d : Disk) : Spot → Prop
  | .found l e => d.get? l = some e ∨ e = .directory
  | .vacant parent name => d.get? (parent ++ [name]) = none

namespace Disk

variable {d : Disk} {final : Final}

theorem walkParts_sound {follow : Location → List String → Except SystemError Spot}
    (hfollow : ∀ l parts spot, follow l parts = .ok spot → spot.Sound d) :
    ∀ {parts : List String} {l : Location} {spot : Spot},
      walkParts d final follow l parts = .ok spot → spot.Sound d := by
  intro parts
  induction parts with
  | nil =>
    intro l spot h
    simp only [walkParts] at h
    split at h
    · rename_i e he
      cases h
      exact .inl he
    · cases h
  | cons name rest ih =>
    intro l spot h
    simp only [walkParts] at h
    split at h
    · cases h
    · split at h
      · exact ih h
      · split at h
        · exact ih h
        · split at h
          · cases h
          · split at h
            · cases h
            · split at h
              · rename_i hnone
                split at h
                · cases h
                  exact hnone
                · cases h
              · rename_i target hlink
                split at h
                · cases h
                  exact .inl hlink
                · exact hfollow _ _ _ h
              · exact ih h
    · cases h

theorem walkFrom_sound :
    ∀ {links : Nat} {l : Location} {parts : List String} {spot : Spot},
      walkFrom d final links l parts = .ok spot → spot.Sound d := by
  intro links
  induction links with
  | zero =>
    intro l parts spot h
    refine walkParts_sound (fun l parts spot h => ?_) h
    cases h
  | succ links ih =>
    intro l parts spot h
    exact walkParts_sound (fun l parts spot h => ih h) h

theorem walkFromCwd_sound :
    ∀ {parts lost : List String} {spot : Spot},
      walkFromCwd d final lost parts = .ok spot → spot.Sound d := by
  intro parts
  induction parts with
  | nil =>
    intro lost spot h
    cases lost with
    | nil =>
      simp only [walkFromCwd] at h
      exact walkFrom_sound h
    | cons x lost =>
      simp only [walkFromCwd] at h
      cases h
      exact .inr rfl
  | cons part rest ih =>
    intro lost spot h
    cases lost with
    | nil =>
      simp only [walkFromCwd] at h
      exact walkFrom_sound h
    | cons x lost =>
      simp only [walkFromCwd] at h
      split at h
      · exact ih h
      · cases h

/-- What a path name leads to is there. -/
theorem walk_sound {p : Path} {spot : Spot} (h : d.walk final p = .ok spot) : spot.Sound d := by
  unfold walk at h
  split at h
  · cases h
  · split at h
    · cases h
    · simp only at h
      split at h
      · rename_i spot' hreached
        cases h
        split at hreached
        · exact walkFrom_sound hreached
        · exact walkFromCwd_sound hreached
      · cases h

/-! ## Files -/

theorem readBytes_eq_ok {p : Path} {bytes : List UInt8} (h : d.readBytes p = .ok bytes) :
    ∃ l, d.get? l = some (.file bytes) := by
  unfold readBytes at h
  split at h
  · cases h
  · rename_i l bytes' hstat
    cases h
    unfold stat at hstat
    split at hstat
    · cases hstat
    · rename_i hwalk
      cases hstat
      rcases walk_sound hwalk with hget | hdir
      · exact ⟨l, hget⟩
      · cases hdir
    · cases hstat
  · cases h

/-- A file that is opened was there with its bytes, or is new. -/
theorem openFile_eq_ok {p : Path} {l : Location} {old : List UInt8} {d' : Disk}
    (h : openFile p d = .ok (l, old) d') :
    (d.get? l = some (.file old) ∧ d' = d) ∨
      (d.get? l = none ∧ l ≠ [] ∧ old = [] ∧ d' = d.set l (.file [])) := by
  unfold openFile at h
  split at h
  · cases h
  · rename_i hwalk
    cases h
    rcases walk_sound hwalk with hget | hdir
    · exact .inl ⟨hget, rfl⟩
    · cases hdir
  · cases h
  · rename_i parent name hwalk
    cases h
    exact .inr ⟨walk_sound hwalk, by simp, rfl, rfl⟩

theorem openFile_eq_error {p : Path} {e : FileError} {d' : Disk} (h : openFile p d = .error e d') :
    d' = d := by
  unfold openFile at h
  split at h <;> cases h <;> rfl

end Disk

end Bundler
