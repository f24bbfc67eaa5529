import Bundler.Proofs.Disk.Passage

/-!
# Bundler.Proofs.Disk.Change

What making and removing directories does to the entries of a disk.

* `get?_clearBelow`, `get?_erase`: what is left at a location.
* `KeepsOutside`: nothing has gone, except at or below one location.
* `removeTree_cases`: a tree that is removed by an absolute path goes from one place only.
* `ensureDirectory_cases`: a directory is made at a free name, or was there before.
* `KeptOnWay.makeDirectoriesFrom`: what making one directory keeps, making all of them keeps.
* `makeDirectories_adds`: making directories takes nothing away.
-/

namespace Bundler.Disk

variable {d : Disk} {l : Location} {p : Path}

/-- The disk that a task leaves behind, also when it fails. -/
def after {ε α : Type} : EStateM.Result ε Disk α → Disk
  | .ok _ d => d
  | .error _ d => d

/-! ## Removing -/

theorem isInside_iff {base : Location} : isInside base l = true ↔ ∃ names, names ≠ [] ∧ l = base ++ names := by
  rw [isInside, Bool.and_eq_true, List.isPrefixOf_iff_prefix, bne_iff_ne]
  constructor
  · rintro ⟨⟨names, rfl⟩, hlength⟩
    refine ⟨names, ?_, rfl⟩
    rintro rfl
    exact hlength (by rw [List.append_nil])
  · rintro ⟨names, hnames, rfl⟩
    refine ⟨List.prefix_append _ _, fun hlength => hnames ?_⟩
    rw [List.length_append, Nat.add_eq_left] at hlength
    exact List.length_eq_zero_iff.1 hlength

theorem get?_clearBelow (d : Disk) (base l : Location) :
    (d.clearBelow base).get? l = if isInside base l then none else d.get? l := by
  by_cases hroot : l = []
  · subst hroot
    have hinside : ¬ isInside base [] = true := by
      rw [isInside_iff]
      rintro ⟨names, hnames, h⟩
      exact hnames (List.append_eq_nil_iff.1 h.symm).2
    rw [if_neg hinside]
    rfl
  · rw [get?, get?, if_neg hroot, if_neg hroot, clearBelow]
    simp only
    split
    · rename_i hinside
      rw [Keyed.lookup_eq_none, Keyed.mem_keys_filter fun l => !isInside base l]
      simp [hinside]
    · rename_i hinside
      exact Keyed.lookup_filter_of_pos (fun l => !isInside base l) (by simp [hinside]) d.entries

theorem get?_erase {base : Location} (hbase : base ≠ []) (l : Location) :
    (d.erase base).get? l = if l = base then none else d.get? l := by
  by_cases hroot : l = []
  · subst hroot
    rw [if_neg hbase.symm]
    rfl
  · rw [get?, get?, if_neg hroot, if_neg hroot, erase, Keyed.erase]
    simp only
    split
    · rename_i heq
      subst heq
      rw [Keyed.lookup_eq_none, Keyed.mem_keys_filter fun m => !(m == l)]
      simp
    · rename_i hne
      exact Keyed.lookup_filter_of_pos (fun m => !(m == base)) (by simpa using hne) d.entries

theorem extends_clearBelow (d : Disk) (base : Location) : Extends (d.clearBelow base) d := by
  intro l e h
  rw [get?_clearBelow] at h
  split at h
  · cases h
  · exact h

/-- A disk still has all the entries of another one that do not lie at a location or below it. -/
def KeepsOutside (base : Location) (d d' : Disk) : Prop :=
  ∀ l e, d.get? l = some e → ¬ base <+: l → d'.get? l = some e

theorem keepsOutside_clearBelow (d : Disk) (base : Location) :
    KeepsOutside base d (d.clearBelow base) := by
  intro l e he hl
  rw [get?_clearBelow, if_neg]
  · exact he
  · rw [isInside_iff]
    rintro ⟨names, _, rfl⟩
    exact hl (List.prefix_append _ _)

theorem keepsOutside_erase (d : Disk) (base : Location) : KeepsOutside base d (d.erase base) := by
  intro l e he hl
  have hbase : base ≠ [] := by
    rintro rfl
    exact hl List.nil_prefix
  rw [get?_erase hbase, if_neg]
  · exact he
  · rintro rfl
    exact hl (List.prefix_refl _)

theorem KeepsOutside.trans {base : Location} {d₁ d₂ d₃ : Disk} (h : KeepsOutside base d₁ d₂)
    (h' : KeepsOutside base d₂ d₃) : KeepsOutside base d₁ d₃ :=
  fun l e he hl => h' l e (h l e he hl) hl

theorem Extends.keepsOutside {d d' : Disk} (h : Extends d d') (base : Location) :
    KeepsOutside base d d' :=
  fun l e he _ => h l e he

theorem removeDirectory_cases (p : Path) (d : Disk) :
    (∃ e, removeDirectory p d = .error e d) ∨
      ∃ l, d.stat .itself p = .ok (l, .directory) ∧ p.parts ≠ [] ∧ p.parts.getLast? ≠ some ".." ∧
        removeDirectory p d = .ok () (d.erase l) := by
  unfold removeDirectory
  split
  · exact .inl ⟨_, rfl⟩
  · rename_i l hstat
    split
    · exact .inl ⟨_, rfl⟩
    · rename_i hparts
      split
      · exact .inl ⟨_, rfl⟩
      · rename_i hlast
        rw [Bool.or_eq_true, not_or, beq_iff_eq] at hlast
        exact .inr ⟨l, hstat, hparts, hlast.1, rfl⟩
  · exact .inl ⟨_, rfl⟩

/-- What becomes of a tree that is to be removed by an absolute path. Its name leads to the same place
before and after the contents have gone. -/
inductive Removal (p : Path) (d : Disk) : EStateM.Result FileError Disk Unit → Prop where
  | refused (e : FileError) : (∀ l, d.stat .itself p ≠ .ok (l, .directory)) → Removal p d (.error e d)
  | emptied {l : Location} (e : FileError) : d.stat .itself p = .ok (l, .directory) →
      Removal p d (.error e (d.clearBelow l))
  | removed {l : Location} : d.stat .itself p = .ok (l, .directory) →
      (d.clearBelow l).stat .itself p = .ok (l, .directory) → p.parts ≠ [] →
      p.parts.getLast? ≠ some ".." → Removal p d (.ok () ((d.clearBelow l).erase l))

theorem removeTree_cases (habs : p.isAbsolute = true) (d : Disk) : Removal p d (removeTree p d) := by
  unfold removeTree
  split
  · rename_i hstat
    exact .refused _ fun l h => by simp [h] at hstat
  · rename_i l hstat
    rcases removeDirectory_cases p (d.clearBelow l) with ⟨e, h⟩ | ⟨l', hstat', hparts, hlast, h⟩
    · rw [h]
      exact .emptied e hstat
    · obtain ⟨_, _, _, _, hleads⟩ := leads_of_stat habs hstat fun _ _ => by simp
      obtain ⟨_, _, _, _, hleads'⟩ := leads_of_stat habs hstat' fun _ _ => by simp
      have heq : l' = l := ((hleads'.mono (extends_clearBelow d l)).deterministic hleads).2
      subst heq
      rw [h]
      exact .removed hstat hstat' hparts hlast
  · rename_i hstat
    have hlink : ∀ l, d.stat .itself p ≠ .ok (l, .directory) := fun l h => by simp [h] at hstat
    split
    · exact .refused _ hlink
    · exact .refused _ hlink
  · rename_i hstat
    exact .refused _ fun l h => by simp [h] at hstat

/-! ## Making -/

theorem ne_nil_of_get?_none (h : d.get? l = none) : l ≠ [] := by
  rintro rfl
  cases h

theorem extends_set (h : d.get? l = none) (e : Entry) : Extends d (d.set l e) := by
  intro l' e' he'
  rw [get?_set (ne_nil_of_get?_none h), if_neg]
  · exact he'
  · rintro rfl
    rw [h] at he'
    cases he'

/-- Everything that making one directory can come to. -/
inductive Making (p : Path) (d : Disk) : EStateM.Result FileError Disk Unit → Prop where
  | made {l : Location} {name : String} : d.walk .itself p = .ok (.vacant l name) →
      Making p d (.ok () (d.set (l ++ [name]) .directory))
  | present : d.isDirectory p = .ok true → Making p d (.ok () d)
  | refused (e : FileError) :
      (∀ text, e = .system .notFound text → d.walk .itself p = .error (.system .notFound text)) →
      Making p d (.error e d)

theorem isDirectory_ne_notFound {text : Option String} :
    d.isDirectory p ≠ .error (.system .notFound text) := by
  intro h
  unfold isDirectory lookup at h
  split at h
  · cases h
  · split at h
    · cases h
    · rename_i habsent
      cases h
      exact absurd rfl habsent

theorem ensureDirectory_cases (p : Path) (d : Disk) : Making p d (ensureDirectory p d) := by
  have hfailed : ∀ e, d.isDirectory p = .error e → Making p d (.error e d) := by
    refine fun e hdir => .refused e fun text htext => ?_
    rw [htext] at hdir
    exact absurd hdir isDirectory_ne_notFound
  unfold ensureDirectory makeDirectory
  cases hwalk : d.walk .itself p with
  | ok spot =>
    cases spot with
    | vacant l name => exact .made hwalk
    | found l e =>
      simp only [reduceCtorEq, if_false]
      split
      · rename_i hdir
        exact .present hdir
      · exact .refused _ fun text => by simp
      · rename_i e' hdir
        exact hfailed e' hdir
  | error e =>
    cases e with
    | system code path =>
      simp only
      split
      · rename_i hcode
        subst hcode
        refine .refused _ fun text htext => ?_
        rw [hwalk, htext]
      · -- after any other error the path may name a directory all the same
        rename_i hcode
        split
        · rename_i hdir
          exact .present hdir
        · exact .refused _ fun text => by simp [hcode]
        · rename_i e' hdir
          exact hfailed e' hdir
    | _ => exact .refused _ fun text => by simp

/-- A directory whose parent is missing is made after its parent. -/
theorem makeDirectoriesFrom_succ (fuel : Nat) (p : Path) (d : Disk) :
    makeDirectoriesFrom (fuel + 1) p d = ensureDirectory p d ∨
      (∃ text, d.walk .itself p = .error (.system .notFound text)) ∧
        ((∃ e d₁, makeDirectoriesFrom fuel p.parent d = .error e d₁ ∧
            makeDirectoriesFrom (fuel + 1) p d = .error e d₁) ∨
          ∃ d₁, makeDirectoriesFrom fuel p.parent d = .ok () d₁ ∧
            makeDirectoriesFrom (fuel + 1) p d = ensureDirectory p d₁) := by
  have hmaking := ensureDirectory_cases p d
  simp only [makeDirectoriesFrom]
  cases hr : ensureDirectory p d with
  | ok u d₁ => exact .inl rfl
  | error e d₁ =>
    rw [hr] at hmaking
    cases hmaking with
    | refused _ hwalk =>
      split
      · rename_i heq
        cases heq
      · rename_i path _ heq
        cases heq
        split
        · exact .inl rfl
        · refine .inr ⟨⟨path, hwalk path rfl⟩, ?_⟩
          cases hparent : makeDirectoriesFrom fuel p.parent d with
          | ok _ d₁ => exact .inr ⟨d₁, rfl, rfl⟩
          | error e d₁ => exact .inl ⟨e, d₁, rfl, rfl⟩
      · rename_i heq
        cases heq
        exact .inl rfl

/-- A property of disks that is kept when a directory is made at a free name on the way to a path. -/
def KeptOnWay (p : Path) (P : Disk → Prop) : Prop :=
  ∀ (q : Path) (d : Disk) (l : Location) (name : String), q.anchor = p.anchor → q.parts <+: p.parts →
    P d → d.walk .itself q = .ok (.vacant l name) → P (d.set (l ++ [name]) .directory)

theorem KeptOnWay.parent {P : Disk → Prop} (h : KeptOnWay p P) : KeptOnWay p.parent P :=
  fun q d l name hanchor hparts => h q d l name hanchor (hparts.trans (List.dropLast_prefix _))

theorem KeptOnWay.ensureDirectory {P : Disk → Prop} (h : KeptOnWay p P) (hd : P d) :
    P (after (Disk.ensureDirectory p d)) := by
  have hmaking := ensureDirectory_cases p d
  generalize Disk.ensureDirectory p d = r at hmaking
  cases hmaking with
  | made hwalk => exact h p d _ _ rfl (List.prefix_refl _) hd hwalk
  | present _ => exact hd
  | refused _ _ => exact hd

/-- What is kept on the way to a path is kept when the path is made. If this succeeds, it ends with the
directory at the path itself. -/
theorem KeptOnWay.makeDirectoriesFrom {P : Disk → Prop} (h : KeptOnWay p P) (fuel : Nat) (hd : P d) :
    P (after (Disk.makeDirectoriesFrom fuel p d)) ∧
      ∀ d', Disk.makeDirectoriesFrom fuel p d = .ok () d' →
        ∃ d₀, P d₀ ∧ Disk.ensureDirectory p d₀ = .ok () d' := by
  induction fuel generalizing p d with
  | zero => exact ⟨h.ensureDirectory hd, fun d' hmade => ⟨d, hd, hmade⟩⟩
  | succ fuel ih =>
    rcases makeDirectoriesFrom_succ fuel p d with heq | ⟨_, hparent⟩
    · rw [heq]
      exact ⟨h.ensureDirectory hd, fun d' hmade => ⟨d, hd, hmade⟩⟩
    · have habove := (ih h.parent hd).1
      rcases hparent with ⟨e, d₁, hfailed, heq⟩ | ⟨d₁, hmade, heq⟩
      · rw [hfailed] at habove
        rw [heq]
        exact ⟨habove, fun d' hmade => by cases hmade⟩
      · rw [hmade] at habove
        rw [heq]
        exact ⟨h.ensureDirectory habove, fun d' hmade => ⟨d₁, habove, hmade⟩⟩

/-- Making directories only adds directories. -/
theorem makeDirectories_adds (p : Path) (d : Disk) :
    Extends d (after (makeDirectories p d)) ∧
      ∀ l e, (after (makeDirectories p d)).get? l = some e → d.get? l = some e ∨ e = .directory := by
  have hkept : KeptOnWay p fun d' => Extends d d' ∧
      ∀ l e, d'.get? l = some e → d.get? l = some e ∨ e = .directory := by
    rintro q d' l name _ _ ⟨hext, hnew⟩ hwalk
    have hfree : d'.get? (l ++ [name]) = none := walk_sound hwalk
    refine ⟨hext.trans (extends_set hfree _), fun l' e he => ?_⟩
    rw [get?_set (by simp)] at he
    split at he
    · cases he
      exact .inr rfl
    · exact hnew l' e he
  exact (hkept.makeDirectoriesFrom _ ⟨.refl d, fun l e he => .inl he⟩).1

end Bundler.Disk
