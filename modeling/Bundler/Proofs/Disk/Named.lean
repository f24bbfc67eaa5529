import Bundler.Proofs.Disk.Change

/-!
# Bundler.Proofs.Disk.Named

The file that a path name leads to while a disk grows. The path may be relative, and the current
directory may have been removed.

* `start? d p`: where a path name is followed from, and the names to be followed.
* `fileAt? d p`: the location of the file that a path names.
* `fileAt?_eq_some_iff`: it is the one that the names lead to.
* `bytesAt d l`: the bytes at a location, none when there is no file.
* `readBytes_eq_ok_iff`: reading a path gives the bytes of the file that it names.
* `AddsTo p bytes d d'`: the file that `p` names has got `bytes` at its end, and no other file has changed.
* `AddsTo.trans`: what is added one after the other is added to the same file.
* `addsTo_makeDirectories`, `addsTo_appendFile`: what making directories and appending add.
-/

namespace Bundler.Disk

variable {d d' : Disk} {p : Path} {l : Location} {final : Final}

/-! ## Where a path starts -/

/-- The names that are left when the way up from a removed directory has been followed. -/
def climb? : (lost : List String) → List String → Option (List String)
  | [], parts => some parts
  | _ :: _, [] => none
  | x :: lost, part :: rest => if part = ".." then climb? (x :: lost).dropLast rest else none

/-- Where a path name is followed from, with the names to be followed. There is nothing to follow from a
removed directory. -/
def start? (d : Disk) (p : Path) : Option (Location × List String) :=
  if p.isAbsolute then some ([], p.parts) else (climb? d.lost p.parts).map fun parts => (d.cwd, parts)

theorem walkFromCwd_of_climb? {parts : List String} :
    ∀ {lost rest : List String}, climb? lost parts = some rest →
      walkFromCwd d final lost parts = walkFrom d final maxLinks d.cwd rest := by
  induction parts with
  | nil =>
    intro lost rest h
    cases lost with
    | nil => cases h; rfl
    | cons x lost => cases h
  | cons part parts ih =>
    intro lost rest h
    cases lost with
    | nil => cases h; rfl
    | cons x lost =>
      simp only [climb?] at h
      split at h
      · rename_i hup
        simp only [walkFromCwd, if_pos hup]
        exact ih h
      · cases h

/-- In a removed directory there are no files. -/
theorem eq_directory_of_walkFromCwd {parts : List String} :
    ∀ {lost : List String} {spot : Spot}, climb? lost parts = none →
      walkFromCwd d final lost parts = .ok spot → ∃ l, spot = .found l .directory := by
  induction parts with
  | nil =>
    intro lost spot h hwalk
    cases lost with
    | nil => cases h
    | cons x lost => cases hwalk; exact ⟨_, rfl⟩
  | cons part parts ih =>
    intro lost spot h hwalk
    cases lost with
    | nil => cases h
    | cons x lost =>
      simp only [climb?] at h
      simp only [walkFromCwd] at hwalk
      split at hwalk
      · rename_i hup
        rw [if_pos hup] at h
        exact ih h hwalk
      · cases hwalk

theorem walk_of_start? {base : Location} {parts : List String} (hfits : Fits p)
    (h : d.start? p = some (base, parts)) :
    d.walk final p =
      match walkFrom d final maxLinks base parts with
      | .ok spot => .ok spot
      | .error code => .error (.system code p.text) := by
  by_cases habs : p.isAbsolute = true
  · rw [start?, if_pos habs] at h
    cases h
    exact walk_eq habs hfits
  · rw [start?, if_neg habs] at h
    obtain ⟨rest, hrest, heq⟩ := Option.map_eq_some_iff.1 h
    cases heq
    cases hfrom : walkFrom d final maxLinks d.cwd parts with
    | ok spot =>
      simp only [walk, hfits.1, habs, Nat.not_le.2 hfits.2, Bool.false_eq_true, if_false,
        walkFromCwd_of_climb? hrest, hfrom]
    | error code =>
      simp only [walk, hfits.1, habs, Nat.not_le.2 hfits.2, Bool.false_eq_true, if_false,
        walkFromCwd_of_climb? hrest, hfrom]

/-- What a path name leads to, other than a directory, is found by following names. -/
theorem start?_of_walk {spot : Spot} (h : d.walk final p = .ok spot)
    (hspot : ∀ l, spot ≠ .found l .directory) :
    Fits p ∧ ∃ base parts, d.start? p = some (base, parts) ∧
      walkFrom d final maxLinks base parts = .ok spot := by
  have hfits : Fits p := by
    by_contra hfits
    rcases walk_of_not_fits hfits with herror | herror <;> rw [h] at herror <;> cases herror
  refine ⟨hfits, ?_⟩
  cases hstart : d.start? p with
  | some start =>
    obtain ⟨base, parts⟩ := start
    refine ⟨base, parts, rfl, ?_⟩
    rw [walk_of_start? hfits hstart] at h
    split at h
    · rename_i hwalk
      cases h
      exact hwalk
    · cases h
  | none =>
    have habs : ¬ p.isAbsolute = true := by
      intro habs
      rw [start?, if_pos habs] at hstart
      cases hstart
    rw [start?, if_neg habs, Option.map_eq_none_iff] at hstart
    simp only [walk, hfits.1, habs, Nat.not_le.2 hfits.2, Bool.false_eq_true, if_false] at h
    split at h
    · rename_i spot' hwalk
      cases h
      obtain ⟨l, hl⟩ := eq_directory_of_walkFromCwd hstart hwalk
      exact absurd hl (hspot l)
    · cases h

/-! ## Named files -/

/-- The location of the file that a path names. -/
def fileAt? (d : Disk) (p : Path) : Option Location :=
  match d.stat .followed p with
  | .ok (l, .file _) => some l
  | _ => none

def bytesAt (d : Disk) (l : Location) : List UInt8 :=
  match d.get? l with
  | some (.file bytes) => bytes
  | _ => []

theorem fileAt?_eq_some_iff : d.fileAt? p = some l ↔
    Fits p ∧ ∃ base parts n bytes, d.start? p = some (base, parts) ∧ n ≤ maxLinks ∧
      Leads d base parts n l ∧ d.get? l = some (.file bytes) := by
  constructor
  · intro h
    unfold fileAt? at h
    split at h
    · rename_i bytes hstat
      cases h
      obtain ⟨hfits, base, parts, hstart, hwalk⟩ := start?_of_walk (walk_of_stat hstat) (by simp)
      obtain ⟨n, hn, hleads, hget⟩ := leads_of_walkFrom hwalk (by simp)
      exact ⟨hfits, base, parts, n, bytes, hstart, hn, hleads, hget⟩
    · cases h
  · rintro ⟨hfits, base, parts, n, bytes, hstart, hn, hleads, hget⟩
    have hend : GoesOn .followed [] := trivial
    have hwalk := hleads.walkFrom_append hn hend
    rw [List.append_nil, walkFrom_nil hget] at hwalk
    rw [fileAt?, stat, walk_of_start? hfits hstart, hwalk]

theorem get?_of_fileAt? (h : d.fileAt? p = some l) : d.get? l = some (.file (d.bytesAt l)) := by
  obtain ⟨_, _, _, _, bytes, _, _, _, hget⟩ := fileAt?_eq_some_iff.1 h
  rw [bytesAt, hget]

theorem readBytes_eq_ok_iff {bytes : List UInt8} :
    d.readBytes p = .ok bytes ↔ ∃ l, d.fileAt? p = some l ∧ d.bytesAt l = bytes := by
  unfold readBytes fileAt?
  cases hstat : d.stat .followed p with
  | error e => simp
  | ok found =>
    obtain ⟨l, e⟩ := found
    cases e with
    | directory => simp
    | link target => simp
    | file content =>
      have hget : d.get? l = some (.file content) := by
        rcases walk_sound (walk_of_stat hstat) with hget | hdir
        · exact hget
        · cases hdir
      simp [bytesAt, hget]

/-- A disk that has grown from another one in the same current directory. -/
structure GrowsHere (d d' : Disk) : Prop where
  grows : Grows d d'
  cwd : d'.cwd = d.cwd
  lost : d'.lost = d.lost

theorem GrowsHere.refl (d : Disk) : GrowsHere d d :=
  ⟨(Extends.refl d).grows, rfl, rfl⟩

theorem GrowsHere.trans {d'' : Disk} (h : GrowsHere d d') (h' : GrowsHere d' d'') : GrowsHere d d'' := by
  refine ⟨fun l e he => ?_, h'.cwd.trans h.cwd, h'.lost.trans h.lost⟩
  rcases h.grows l e he with hsame | ⟨old, new, rfl, hnew⟩
  · exact h'.grows l e hsame
  · obtain ⟨newer, hnewer⟩ := h'.grows.file hnew
    exact .inr ⟨old, newer, rfl, hnewer⟩

theorem GrowsHere.start?_eq (h : GrowsHere d d') (p : Path) : d'.start? p = d.start? p := by
  rw [start?, start?, h.cwd, h.lost]

/-- A path that names a file goes on naming it. -/
theorem GrowsHere.fileAt? (h : GrowsHere d d') (hfile : d.fileAt? p = some l) :
    d'.fileAt? p = some l := by
  obtain ⟨hfits, base, parts, n, bytes, hstart, hn, hleads, hget⟩ := fileAt?_eq_some_iff.1 hfile
  obtain ⟨new, hnew⟩ := h.grows.file hget
  exact fileAt?_eq_some_iff.2 ⟨hfits, base, parts, n, new, (h.start?_eq p).trans hstart, hn,
    hleads.grow h.grows, hnew⟩

/-! ## Adding to a file -/

/-- The file that a path names has got bytes at its end, if there are any, and no other file has
changed. -/
structure AddsTo (p : Path) (bytes : List UInt8) (d d' : Disk) : Prop where
  grows : GrowsHere d d'
  bytesAt : ∀ l, d'.bytesAt l = d.bytesAt l ++ if d'.fileAt? p = some l then bytes else []
  named : bytes ≠ [] → ∃ l, d'.fileAt? p = some l

theorem AddsTo.refl (p : Path) (d : Disk) : AddsTo p [] d d :=
  ⟨.refl d, fun l => by simp, fun h => absurd rfl h⟩

/-- What is added to the file that a path names is added to one and the same file. -/
theorem AddsTo.trans {d'' : Disk} {xs ys : List UInt8} (h : AddsTo p xs d d') (h' : AddsTo p ys d' d'') :
    AddsTo p (xs ++ ys) d d'' := by
  refine ⟨h.grows.trans h'.grows, fun l => ?_, fun hne => ?_⟩
  · rw [h'.bytesAt, h.bytesAt, List.append_assoc]
    congr 1
    by_cases hl : d''.fileAt? p = some l
    · rw [if_pos hl, if_pos hl]
      by_cases hl' : d'.fileAt? p = some l
      · rw [if_pos hl']
      · -- nothing has been added before: it would be in another file that the path still names
        have hxs : xs = [] := by
          by_contra hne
          obtain ⟨m, hm⟩ := h.named hne
          have hm' := h'.grows.fileAt? hm
          rw [hl] at hm'
          cases hm'
          exact hl' hm
        rw [if_neg hl', hxs]
    · have hl' : d'.fileAt? p ≠ some l := fun hfile => hl (h'.grows.fileAt? hfile)
      rw [if_neg hl, if_neg hl', if_neg hl, List.append_nil]
  · by_cases hxs : xs = []
    · exact h'.named (by simpa [hxs] using hne)
    · obtain ⟨l, hl⟩ := h.named hxs
      exact ⟨l, h'.grows.fileAt? hl⟩

theorem addsTo_makeDirectories (p q : Path) (d : Disk) : AddsTo q [] d (after (makeDirectories p d)) := by
  have hplace : KeptOnWay p fun d' => d'.cwd = d.cwd ∧ d'.lost = d.lost :=
    fun _ _ _ _ _ _ hkept _ => hkept
  obtain ⟨hcwd, hlost⟩ := (hplace.makeDirectoriesFrom (p.parts.length + 1) ⟨rfl, rfl⟩).1
  obtain ⟨hext, hnew⟩ := makeDirectories_adds p d
  refine ⟨⟨hext.grows, hcwd, hlost⟩, fun l => ?_, fun h => absurd rfl h⟩
  rw [ite_self, List.append_nil, bytesAt, bytesAt]
  cases hget : d.get? l with
  | some e => rw [hext l e hget]
  | none =>
    cases hget' : (after (makeDirectories p d)).get? l with
    | none => rfl
    | some e =>
      rcases hnew l e hget' with hold | rfl
      · rw [hget] at hold
        cases hold
      · rfl

/-- What has been done to a disk whose file at one location, new or old, has got bytes at its end. -/
structure Appended (l : Location) (bytes : List UInt8) (d d' : Disk) : Prop where
  here : d'.get? l = some (.file (d.bytesAt l ++ bytes))
  elsewhere : ∀ m, m ≠ l → d'.get? m = d.get? m
  kind : ∀ e, d.get? l = some e → ∃ old, e = .file old
  cwd : d'.cwd = d.cwd
  lost : d'.lost = d.lost

theorem Appended.growsHere {bytes : List UInt8} (h : Appended l bytes d d') : GrowsHere d d' := by
  refine ⟨fun m e he => ?_, h.cwd, h.lost⟩
  by_cases hm : m = l
  · subst hm
    obtain ⟨old, rfl⟩ := h.kind e he
    exact .inr ⟨old, _, rfl, h.here⟩
  · exact .inl ((h.elsewhere m hm).trans he)

theorem Appended.addsTo {bytes : List UInt8} (h : Appended l bytes d d') (hfile : d'.fileAt? p = some l) :
    AddsTo p bytes d d' := by
  refine ⟨h.growsHere, fun m => ?_, fun _ => ⟨l, hfile⟩⟩
  rw [hfile]
  by_cases hm : m = l
  · subst hm
    rw [if_pos rfl, bytesAt, h.here]
  · rw [if_neg fun heq => hm (Option.some.inj heq).symm, List.append_nil, bytesAt, h.elsewhere m hm,
      bytesAt]

theorem appendFile_eq_error_iff {bytes : List UInt8} {e : FileError} :
    appendFile p bytes d = .error e d' ↔ openFile p d = .error e d' := by
  unfold appendFile
  cases openFile p d <;> simp

/-- An append adds its bytes to the file that the path names afterwards. -/
theorem addsTo_appendFile {bytes : List UInt8} (h : appendFile p bytes d = .ok () d') :
    AddsTo p bytes d d' ∧ ∃ l, d'.fileAt? p = some l := by
  unfold appendFile openFile at h
  cases hwalk : d.walk .created p with
  | error e =>
    rw [hwalk] at h
    cases h
  | ok spot =>
    rw [hwalk] at h
    cases spot with
    | found l e =>
      cases e with
      | directory => cases h
      | link target => cases h
      | file old =>
        obtain ⟨hfits, base, parts, hstart, hfrom⟩ := start?_of_walk hwalk (by simp)
        obtain ⟨n, hn, hleads, hget⟩ := leads_of_walkFrom hfrom (by simp)
        have hfile : d.fileAt? p = some l :=
          fileAt?_eq_some_iff.2 ⟨hfits, base, parts, n, old, hstart, hn, hleads, hget⟩
        have happended : Appended l bytes d d' := by
          cases h
          refine ⟨?_, fun m hm => ?_, fun e he => ⟨old, ?_⟩, rfl, rfl⟩
          · rw [get?_set (ne_nil_of_get?_file hget), if_pos rfl, bytesAt, hget]
          · rw [get?_set (ne_nil_of_get?_file hget), if_neg hm]
          · rw [hget] at he
            exact (Option.some.inj he).symm
        have hfile' := happended.growsHere.fileAt? hfile
        exact ⟨happended.addsTo hfile', l, hfile'⟩
    | vacant parent name =>
      obtain ⟨hfits, base, parts, hstart, hfrom⟩ := start?_of_walk hwalk (by simp)
      obtain ⟨_, _, hfree, hleads⟩ := vacant_of_walkFrom hfrom
      have hne := ne_nil_of_get?_none hfree
      have happended : Appended (parent ++ [name]) bytes d d' := by
        cases h
        refine ⟨?_, fun m hm => ?_, fun e he => ?_, rfl, rfl⟩
        · rw [get?_set hne, if_pos rfl, bytesAt, hfree]
        · rw [get?_set hne, if_neg hm, get?_set hne, if_neg hm]
        · rw [hfree] at he
          cases he
      -- the name was free, so that nothing at all has been taken away
      have hext : Extends d d' := by
        intro m e he
        rw [happended.elsewhere m, he]
        rintro rfl
        rw [hfree] at he
        cases he
      obtain ⟨n, hn, hleads⟩ := hleads d' _ hext happended.here (by simp)
      have hfile : d'.fileAt? p = some (parent ++ [name]) :=
        fileAt?_eq_some_iff.2 ⟨hfits, base, parts, n, _, (happended.growsHere.start?_eq p).trans hstart,
          hn, hleads, happended.here⟩
      exact ⟨happended.addsTo hfile, _, hfile⟩

end Bundler.Disk
