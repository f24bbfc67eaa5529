import Bundler.Project
import Bundler.Proofs.Disk.Change
import Bundler.Proofs.Disk.Resolve

/-!
# Bundler.Proofs.Project.Reset

What a reset of the output directory can take away. The guard compares resolved paths while the removal
follows the path itself, so the two have to name the same place.

* `resetOutput_cases`: everything that a reset can come to.
* `resetOutput_removes`: a reset takes away only what lies at or below the resolved output directory.
* `resetOutput_keeps_outside`: all the rest stays, the root of the project included.
* `resetOutput_empties_root`: not so when a link on the way is too deep to be named.
-/

namespace Bundler

open Disk

namespace DiskTask

variable {α β : Type} {g : α → DiskTask β} {d : Disk}

theorem ask_bind (f : Disk → Except FileError α) :
    (ask f >>= g) d =
      match f d with
      | .ok a => g a d
      | .error e => .error (.file e) d := by
  simp only [bind, EStateM.bind, ask]
  cases f d <;> rfl

theorem change_bind (m : DiskM α) :
    (change m >>= g) d =
      match m d with
      | .ok a d => g a d
      | .error e d => .error (.file e) d := by
  simp only [bind, EStateM.bind, change]
  cases m d <;> rfl

end DiskTask

namespace Project

/-- Makes the output directory and the directories above it. -/
def remake (p : Project) : DiskTask Path := do
  DiskTask.change (makeDirectories p.outputDir)
  return p.outputDir

/-- Everything that a reset can come to. -/
inductive Reset (p : Project) (d : Disk) : EStateM.Result Error Disk Path → Prop where
  | unresolved {e : FileError} : d.resolve p.outputDir = .error e → Reset p d (.error (.file e) d)
  | rootless {output : Path} {e : FileError} : d.resolve p.outputDir = .ok output →
      d.resolve p.root = .error e → Reset p d (.error (.file e) d)
  | guarded {output root : Path} : d.resolve p.outputDir = .ok output → d.resolve p.root = .ok root →
      root.isBelow output = true → Reset p d (.error (.holdsRoot output) d)
  | refused {output root : Path} {e : Error} : (∀ f, e ≠ .failure f) →
      d.resolve p.outputDir = .ok output → d.resolve p.root = .ok root →
      root.isBelow output = false → d.isDirectory p.outputDir ≠ .ok true → Reset p d (.error e d)
  | absent {output root : Path} : d.resolve p.outputDir = .ok output → d.resolve p.root = .ok root →
      root.isBelow output = false → d.isPresent p.outputDir = .ok false → Reset p d (p.remake d)
  | unremoved {output root : Path} {e : FileError} {d' : Disk} : d.resolve p.outputDir = .ok output →
      d.resolve p.root = .ok root → root.isBelow output = false →
      removeTree p.outputDir d = .error e d' → Reset p d (.error (.file e) d')
  | removed {output root : Path} {d' : Disk} : d.resolve p.outputDir = .ok output →
      d.resolve p.root = .ok root → root.isBelow output = false →
      removeTree p.outputDir d = .ok () d' → Reset p d (p.remake d')

theorem resetOutput_cases (p : Project) (d : Disk) : Reset p d (p.resetOutput d) := by
  rw [resetOutput, DiskTask.ask_bind]
  cases houtput : d.resolve p.outputDir with
  | error e => exact .unresolved houtput
  | ok output =>
    simp only
    rw [DiskTask.ask_bind]
    cases hroot : d.resolve p.root with
    | error e => exact .rootless houtput hroot
    | ok root =>
      simp only
      by_cases hbelow : root.isBelow output = true
      · rw [if_pos hbelow]
        exact .guarded houtput hroot hbelow
      · rw [if_neg hbelow, DiskTask.ask_bind]
        rw [Bool.not_eq_true] at hbelow
        cases hpresent : d.isPresent p.outputDir with
        | error e =>
          refine .refused nofun houtput hroot hbelow fun hdir => ?_
          unfold isPresent at hpresent
          unfold isDirectory at hdir
          cases hlookup : d.lookup p.outputDir <;> rw [hlookup] at hpresent hdir
          · cases hdir
          · cases hpresent
        | ok present =>
          cases present with
          | false => exact .absent houtput hroot hbelow hpresent
          | true =>
            simp only
            rw [if_pos trivial, DiskTask.ask_bind]
            cases hdir : d.isDirectory p.outputDir with
            | error e => exact .refused nofun houtput hroot hbelow (by simp [hdir])
            | ok dir =>
              cases dir with
              | false => exact .refused nofun houtput hroot hbelow (by simp [hdir])
              | true =>
                simp only
                rw [if_neg (by simp), DiskTask.change_bind]
                cases hremove : removeTree p.outputDir d with
                | error e d' => exact .unremoved houtput hroot hbelow hremove
                | ok _ d' => exact .removed houtput hroot hbelow hremove

theorem after_remake (p : Project) (d : Disk) :
    after (p.remake d) = after (makeDirectories p.outputDir d) := by
  rw [remake, DiskTask.change_bind]
  cases makeDirectories p.outputDir d <;> rfl

theorem extends_remake (p : Project) (d : Disk) : Extends d (after (p.remake d)) := by
  rw [after_remake]
  exact (makeDirectories_adds p.outputDir d).1

/-- A reset that is not held back by the guard leaves no file in the output directory. -/
theorem resetOutput_empties {p : Project} {d : Disk} {output root : Path} {l m : Location}
    {bytes : List UInt8} (habs : p.outputDir.isAbsolute = true)
    (houtput : d.resolve p.outputDir = .ok output) (hroot : d.resolve p.root = .ok root)
    (hbelow : root.isBelow output = false) (hl : l ≠ [])
    (hstat : d.stat .itself p.outputDir = .ok (l, .directory)) (hm : isInside l m = true) :
    (after (p.resetOutput d)).get? m ≠ some (.file bytes) := by
  have hlookup : d.lookup p.outputDir = .ok (some .directory) := by
    rw [lookup, stat_followed_of_itself habs hstat]
  have hcleared : (d.clearBelow l).get? m = none := by
    rw [get?_clearBelow, if_pos hm]
  have hremoval := removeTree_cases habs d
  have hreset := resetOutput_cases p d
  generalize p.resetOutput d = r at hreset
  cases hreset with
  | unresolved houtput' => simp [houtput] at houtput'
  | rootless _ hroot' => simp [hroot] at hroot'
  | guarded houtput' hroot' hbelow' =>
    rw [houtput] at houtput'
    rw [hroot] at hroot'
    cases houtput'
    cases hroot'
    simp [hbelow] at hbelow'
  | refused _ _ _ _ hdir =>
    rw [isDirectory, hlookup] at hdir
    exact absurd rfl hdir
  | absent _ _ _ hpresent =>
    rw [isPresent, hlookup] at hpresent
    cases hpresent
  | unremoved _ _ _ hremove =>
    rw [hremove] at hremoval
    cases hremoval with
    | refused _ hnone => exact absurd hstat (hnone _)
    | emptied _ hstat' =>
      rw [hstat] at hstat'
      cases hstat'
      simp [after, hcleared]
  | removed _ _ _ hremove =>
    rw [hremove] at hremoval
    cases hremoval with
    | removed hstat' _ _ _ =>
      rw [hstat] at hstat'
      cases hstat'
      intro hkeep
      rw [after_remake] at hkeep
      rcases (makeDirectories_adds _ _).2 _ _ hkeep with hold | hnew
      · rw [get?_erase hl] at hold
        split at hold
        · cases hold
        · rw [hcleared] at hold
          cases hold
      · cases hnew

/-- A reset takes nothing away, or it takes away what lies at or below the resolved output directory,
which does not hold the resolved root. -/
theorem resetOutput_removes {p : Project} {d : Disk} (habs : p.outputDir.isAbsolute = true)
    (hlinks : d.LinksNamed) :
    Extends d (after (p.resetOutput d)) ∨
      ∃ l root, d.resolve p.outputDir = .ok (.ofParts l) ∧ d.resolve p.root = .ok root ∧
        root.isBelow (.ofParts l) = false ∧ KeepsOutside l d (after (p.resetOutput d)) := by
  have hremoval := removeTree_cases habs d
  have hreset := resetOutput_cases p d
  generalize p.resetOutput d = r at hreset
  cases hreset with
  | unresolved _ => exact .inl (.refl d)
  | rootless _ _ => exact .inl (.refl d)
  | guarded _ _ _ => exact .inl (.refl d)
  | refused _ _ _ _ _ => exact .inl (.refl d)
  | absent _ _ _ _ => exact .inl (extends_remake p d)
  | unremoved houtput hroot hbelow hremove =>
    rw [hremove] at hremoval
    cases hremoval with
    | refused _ _ => exact .inl (.refl d)
    | emptied _ hstat =>
      have hresolve := resolve_of_stat hlinks habs hstat fun _ => by simp
      rw [houtput] at hresolve
      cases hresolve
      exact .inr ⟨_, _, houtput, hroot, hbelow, keepsOutside_clearBelow d _⟩
  | removed houtput hroot hbelow hremove =>
    rw [hremove] at hremoval
    cases hremoval with
    | @removed l hstat _ _ _ =>
      have hresolve := resolve_of_stat hlinks habs hstat fun _ => by simp
      rw [houtput] at hresolve
      cases hresolve
      have hgone := (keepsOutside_clearBelow d l).trans (keepsOutside_erase (d.clearBelow l) l)
      exact .inr ⟨l, _, houtput, hroot, hbelow, hgone.trans ((extends_remake p _).keepsOutside l)⟩

/-- Whether a reset succeeds or not, every entry whose location is not the resolved output directory or
below it stays as it is. When the resolved root is the resolved output directory or lies below it, the
reset is refused and the disk is unchanged, and so it is when the output directory cannot be resolved.
The root of the project stays a directory. -/
theorem resetOutput_keeps_outside {p : Project} {d : Disk} (habs : p.outputDir.isAbsolute = true)
    (hlinks : d.LinksNamed) :
    (∀ e, d.resolve p.outputDir = .error e → p.resetOutput d = .error (.file e) d) ∧
    (∀ output, d.resolve p.outputDir = .ok output →
      KeepsOutside output.parts d (after (p.resetOutput d)) ∧
      ∀ root, d.resolve p.root = .ok root → root.isBelow output = true →
        p.resetOutput d = .error (.holdsRoot output) d ∧ (Error.holdsRoot output).family = .value) ∧
    ∀ l, p.root.isAbsolute = true → d.stat .followed p.root = .ok (l, .directory) →
      (after (p.resetOutput d)).get? l = some .directory := by
  refine ⟨fun e he => ?_, fun output houtput => ⟨?_, fun root hroot hbelow => ⟨?_, rfl⟩⟩,
    fun l hroot hstat => ?_⟩
  · rw [resetOutput, DiskTask.ask_bind, he]
  · rcases resetOutput_removes habs hlinks with hext | ⟨l, root, hl, _, _, hkeeps⟩
    · exact hext.keepsOutside _
    · rw [houtput] at hl
      cases hl
      exact hkeeps
  · rw [resetOutput, DiskTask.ask_bind, houtput]
    simp only
    rw [DiskTask.ask_bind, hroot]
    simp only
    rw [if_pos hbelow]
    rfl
  · obtain ⟨_, hdir, _⟩ := leads_of_stat hroot hstat fun _ _ => by simp
    rcases resetOutput_removes habs hlinks with hext | ⟨output, root, _, hresolve, hbelow, hkeeps⟩
    · exact hext l _ hdir
    · rw [resolve_of_stat hlinks hroot hstat fun _ => by simp] at hresolve
      cases hresolve
      refine hkeeps l _ hdir fun hprefix => ?_
      have habove : (Path.ofParts l).isBelow (.ofParts output) = true := by
        simp [Path.isBelow, Path.ofParts, hprefix]
      rw [habove] at hbelow
      cases hbelow

/-- A disk with a link on the way to the output directory of `linkedProject`. -/
def linkedDisk : Disk :=
  { entries :=
      [(["p"], .directory), (["p", "keep"], .file []), (["p", "out"], .link "gen"),
        (["p", "gen"], .directory), (["p", "gen", "js"], .directory),
        (["p", "gen", "js", "old"], .file [])] }

def linkedProject : Project :=
  atRoot (.ofParts ["p"]) { outputDir := "out/js" }

theorem linksNamed_linkedDisk : linkedDisk.LinksNamed := by
  intro l target h
  have hmem := mem_entries_of_get? h (by simp)
  simp [linkedDisk] at hmem
  obtain ⟨rfl, _⟩ := hmem
  exact ⟨by decide, by decide⟩

theorem resetOutput_keeps_outside_linked :
    linkedProject.outputDir.isAbsolute = true ∧ linkedDisk.LinksNamed ∧
    linkedDisk.resolve linkedProject.outputDir = .ok (.ofParts ["p", "gen", "js"]) ∧
    KeepsOutside ["p", "gen", "js"] linkedDisk (after (linkedProject.resetOutput linkedDisk)) ∧
    linkedDisk.stat .followed linkedProject.root = .ok (["p"], .directory) ∧
    (after (linkedProject.resetOutput linkedDisk)).get? ["p"] = some .directory := by
  have hresolve : linkedDisk.resolve linkedProject.outputDir = .ok (.ofParts ["p", "gen", "js"]) := by
    decide +kernel
  have hstat : linkedDisk.stat .followed linkedProject.root = .ok (["p"], .directory) := by
    decide +kernel
  obtain ⟨_, hkeeps, hroot⟩ :=
    resetOutput_keeps_outside (show linkedProject.outputDir.isAbsolute = true by decide +kernel)
      linksNamed_linkedDisk
  exact ⟨by decide +kernel, linksNamed_linkedDisk, hresolve, (hkeeps _ hresolve).1, hstat,
    hroot _ (by decide +kernel) hstat⟩

/-! ## A link too deep to be named -/

/-- A name of the greatest length. -/
def longName : String :=
  String.ofList (List.replicate maxName 'a')

/-- A directory `p` with sixteen nested directories of the greatest name and, in the last one, a link
`k` to the root of the disk. Another link, `s`, leads to the first one. -/
def deepDisk : Disk :=
  { entries :=
      [("p" :: (List.replicate 16 longName ++ ["k"]), .link "/"), (["p", "s"], .link longName),
        (["p", "keep"], .file [])] ++
      (List.range 17).map fun i => ("p" :: List.replicate i longName, .directory) }

/-- The project at `p`. Its output directory leads through `s` and `k` back to `p`. -/
def deepProject : Project :=
  { atRoot (.ofParts ["p"]) {} with
    outputDir := .ofParts ("p" :: "s" :: (List.replicate 15 longName ++ ["k", "p"])) }

theorem toList_longName : longName.toList = List.replicate maxName 'a' :=
  String.toList_ofList

theorem size_longName : longName.utf8ByteSize = 255 := by decide +kernel

theorem isName_longName : IsName longName where
  ne_empty := by decide +kernel
  ne_dot := by decide +kernel
  ne_dots := by decide +kernel
  size_le := Nat.le_of_eq size_longName

theorem lookup_map_const {α β γ : Type} [BEq β] [LawfulBEq β] {f : α → β} {v : γ} {xs : List α} {x : α}
    (h : x ∈ xs) : (xs.map fun x => (f x, v)).lookup (f x) = some v := by
  induction xs with
  | nil => cases h
  | cons y xs ih =>
    rw [List.map_cons, List.lookup_cons]
    split
    · rfl
    · rename_i hne
      rcases List.mem_cons.1 h with rfl | h
      · simp at hne
      · exact ih h

theorem replicate_ne (i : Nat) {name : String} (hname : name ≠ longName) (rest : List String)
    (h : name ∈ rest) : "p" :: List.replicate i longName ≠ "p" :: rest := by
  intro heq
  rw [List.cons.injEq] at heq
  rw [← heq.2] at h
  exact hname (List.eq_of_mem_replicate h)

theorem deepDisk_get?_chain {i : Nat} (h : i ≤ 16) :
    deepDisk.get? ("p" :: List.replicate i longName) = some .directory := by
  have hk := replicate_ne i (show "k" ≠ longName by decide +kernel)
    (List.replicate 16 longName ++ ["k"]) (by simp)
  have hs := replicate_ne i (show "s" ≠ longName by decide +kernel) ["s"] (by simp)
  have hkeep := replicate_ne i (show "keep" ≠ longName by decide +kernel) ["keep"] (by simp)
  have hchain : ((List.range 17).map fun i =>
      (("p" :: List.replicate i longName, Entry.directory) : Location × Entry)).lookup
        ("p" :: List.replicate i longName) = some .directory :=
    lookup_map_const (f := fun i => "p" :: List.replicate i longName) (List.mem_range.2 (by omega))
  rw [get?, if_neg (by simp), deepDisk, List.lookup_append]
  rw [List.lookup_cons, beq_eq_false_iff_ne.2 hk, List.lookup_cons, beq_eq_false_iff_ne.2 hs,
    List.lookup_cons, beq_eq_false_iff_ne.2 hkeep, List.lookup_nil, Option.none_or, hchain]

theorem deepDisk_get?_k :
    deepDisk.get? ("p" :: (List.replicate 16 longName ++ ["k"])) = some (.link "/") := by
  rw [get?, if_neg (by simp), deepDisk, List.cons_append, List.lookup_cons_self]

theorem deepDisk_get?_s : deepDisk.get? ["p", "s"] = some (.link longName) := by
  rw [get?, if_neg (by simp), deepDisk, List.cons_append, List.lookup_cons,
    beq_eq_false_iff_ne.2 (fun h => by simpa using congrArg List.length h), List.cons_append,
    List.lookup_cons_self]

theorem deepDisk_get?_keep : deepDisk.get? ["p", "keep"] = some (.file []) := by
  rw [get?, if_neg (by simp), deepDisk, List.cons_append, List.lookup_cons,
    beq_eq_false_iff_ne.2 (fun h => by simpa using congrArg List.length h), List.cons_append,
    List.lookup_cons, beq_eq_false_iff_ne.2 (by decide), List.cons_append, List.lookup_cons_self]

theorem leads_chain {i j : Nat} (h : i + j ≤ 16) :
    Leads deepDisk ("p" :: List.replicate i longName) (List.replicate j longName) 0
      ("p" :: List.replicate (i + j) longName) := by
  induction j generalizing i with
  | zero => exact .nil
  | succ j ih =>
    have hnext : "p" :: List.replicate i longName ++ [longName] =
        "p" :: List.replicate (i + 1) longName := by
      rw [List.replicate_succ', List.cons_append]
    have hget := deepDisk_get?_chain (i := i + 1) (by omega)
    rw [List.replicate_succ, show i + (j + 1) = i + 1 + j by omega]
    refine .down (deepDisk_get?_chain (by omega)) isName_longName (hnext ▸ hget) (by simp) ?_
    rw [hnext]
    exact ih (by omega)

theorem hasNull_of_longName (xs ys : List String) (i : Nat)
    (h : (xs ++ ys).any (fun s => s.toList.contains '\x00') = false) :
    (Path.ofParts (xs ++ (List.replicate i longName ++ ys))).hasNull = false := by
  have hname : ∀ j, (List.replicate j longName).any (fun s => s.toList.contains '\x00') = false := by
    intro j
    have hlong : longName.toList.contains '\x00' = false := by
      rw [toList_longName]
      decide +kernel
    rw [List.any_replicate, hlong]
    exact ite_self _
  rw [List.any_append, Bool.or_eq_false_iff] at h
  rw [Path.hasNull, Path.ofParts, List.any_append, List.any_append, h.1, h.2, hname]
  rfl

theorem fits_deepOutput : Fits deepProject.outputDir := by
  refine ⟨hasNull_of_longName ["p", "s"] ["k", "p"] 15 (by decide), ?_⟩
  rw [deepProject, Path.size_text_ofParts]
  simp only [Path.sizeOfParts, Path.sizeOfParts_append, Path.sizeOfParts_replicate, size_longName]
  decide

/-- The link at the end of the chain, and what seems to lie below it, cannot be named. -/
theorem not_fits_deep (rest : List String) :
    ¬ Fits (.ofParts ("p" :: (List.replicate 16 longName ++ "k" :: rest))) := by
  rintro ⟨_, hsize⟩
  rw [Path.size_text_ofParts] at hsize
  simp only [Path.sizeOfParts, Path.sizeOfParts_append, Path.sizeOfParts_replicate, size_longName,
    maxPath] at hsize
  omega

theorem isName_p : IsName "p" := ⟨by decide, by decide, by decide, by decide⟩

theorem isName_k : IsName "k" := ⟨by decide, by decide, by decide, by decide⟩

theorem isName_s : IsName "s" := ⟨by decide, by decide, by decide, by decide⟩

theorem leads_p : Leads deepDisk [] ["p"] 0 ["p"] :=
  .down rfl isName_p (deepDisk_get?_chain (Nat.zero_le _)) (by simp) .nil

theorem targetBase_longName (l : Location) : targetBase longName l = l := by
  rw [targetBase, Path.ofString, toList_longName]
  rfl

theorem targetParts_longName : targetParts longName = List.replicate 1 longName := by
  have hfields : Text.fields (· == '/') (List.replicate maxName 'a') =
      [List.replicate maxName 'a'] := by decide +kernel
  rw [targetParts, toList_longName, hfields]
  rfl

theorem leads_s : Leads deepDisk (targetBase longName ["p"]) (targetParts longName) 0
    ("p" :: List.replicate 1 longName) := by
  rw [targetBase_longName, targetParts_longName]
  exact leads_chain (i := 0) (by omega)

/-- The output directory is the root of the project. -/
theorem lastName_deepOutput : LastName deepDisk deepProject.outputDir [] "p" where
  isAbsolute := rfl
  fits := fits_deepOutput
  leads := by
    have hk : Leads deepDisk ("p" :: List.replicate 16 longName) ["k"] (0 + 1 + 0) [] := by
      have hparts : targetParts "/" = ["", ""] := by decide +kernel
      refine .link (deepDisk_get?_chain (Nat.le_refl 16)) isName_k deepDisk_get?_k ?_ .nil
      rw [hparts]
      exact .stay rfl (.inl rfl) (.stay rfl (.inl rfl) .nil)
    have hchain := leads_append.2 ⟨0, _, _, rfl, leads_chain (i := 1) (j := 15) (by omega), hk⟩
    have hs : Leads deepDisk ["p"] ("s" :: (List.replicate 15 longName ++ ["k"])) _ [] :=
      .link (deepDisk_get?_chain (Nat.zero_le _)) isName_s deepDisk_get?_s leads_s hchain
    have hall := leads_append.2 ⟨0, _, _, rfl, leads_p, hs⟩
    refine ⟨_, _, ?_, ?_, hall⟩
    · simp [deepProject, Path.ofParts]
    · decide
  isDirectory := rfl
  isName := isName_p

theorem rooted_chain {i : Nat} (h : i ≤ 16) :
    Rooted deepDisk ("p" :: List.replicate i longName) := by
  have hleads := leads_append.2 ⟨0, 0, _, rfl, leads_p, leads_chain (i := 0) (j := i) (by omega)⟩
  have hrooted := hleads.rooted .root
  rw [Nat.zero_add] at hrooted
  exact hrooted

theorem resolveFrom_chain {depth i j : Nat} {seen : Seen} {rest : List String} (h : i + j ≤ 16) :
    resolveFrom deepDisk depth seen (.ofParts ("p" :: List.replicate i longName))
        (List.replicate j longName ++ rest) =
      resolveFrom deepDisk depth seen (.ofParts ("p" :: List.replicate (i + j) longName)) rest := by
  induction j generalizing i with
  | zero => rfl
  | succ j ih =>
    have hnext : "p" :: List.replicate i longName ++ [longName] =
        "p" :: List.replicate (i + 1) longName := by
      rw [List.replicate_succ', List.cons_append]
    have hget := deepDisk_get?_chain (i := i + 1) (by omega)
    rw [← hnext] at hget
    have hlink := linkAt?_of_not_link (rooted_chain (by omega)) (deepDisk_get?_chain (by omega))
      isName_longName hget (by simp)
    rw [List.replicate_succ, List.cons_append, resolveFrom_name isName_longName hlink, hnext,
      ih (by omega), show i + 1 + j = i + (j + 1) by omega]

/-- The end of the chain is taken for a plain name, and so is everything after it. -/
theorem resolveFrom_deep (depth : Nat) (seen : Seen) :
    resolveFrom deepDisk depth seen (.ofParts ("p" :: List.replicate 1 longName))
        (List.replicate 15 longName ++ ["k", "p"]) =
      .reached (.ofParts ("p" :: (List.replicate 16 longName ++ ["k", "p"]))) seen := by
  have hk : deepDisk.linkAt? (.ofParts ("p" :: List.replicate 16 longName ++ ["k"])) = none :=
    linkAt?_of_not_fits (not_fits_deep [])
  have hkp : deepDisk.linkAt? (.ofParts ("p" :: List.replicate 16 longName ++ ["k"] ++ ["p"])) = none := by
    rw [List.append_assoc]
    exact linkAt?_of_not_fits (not_fits_deep ["p"])
  rw [resolveFrom_chain (by omega), resolveFrom_name isName_k hk, resolveFrom_name isName_p hkp,
    resolveFrom_nil, List.append_assoc]
  rfl

/-- The first link is replaced by its target, and the second one is passed over. -/
theorem resolve_deepOutput :
    deepDisk.resolve deepProject.outputDir =
      .ok (.ofParts ("p" :: (List.replicate 16 longName ++ ["k", "p"]))) := by
  have hp : deepDisk.linkAt? (.ofParts ([] ++ ["p"])) = none :=
    linkAt?_of_not_link .root rfl isName_p (deepDisk_get?_chain (Nat.zero_le _)) (by simp)
  have hs : deepDisk.linkAt? (.ofParts (["p"] ++ ["s"])) = some longName :=
    linkAt?_of_link (rooted_chain (Nat.zero_le _)) (deepDisk_get?_chain (Nat.zero_le _)) isName_s
      deepDisk_get?_s ⟨by decide, by decide⟩
  have hdepth : 1 ≤ deepDisk.maxDepth deepProject.outputDir :=
    Nat.mul_pos (Nat.succ_pos _) (Nat.succ_pos _)
  obtain ⟨depth, hdepth⟩ := Nat.exists_eq_add_of_le' hdepth
  have htarget : resolveFrom deepDisk depth [(.ofParts (["p"] ++ ["s"]), none)]
      (.ofParts (targetBase longName ["p"])) (targetParts longName) =
        .reached (.ofParts ("p" :: List.replicate 1 longName)) [(.ofParts (["p"] ++ ["s"]), none)] := by
    rw [targetBase_longName, targetParts_longName, ← List.append_nil (List.replicate 1 longName)]
    exact (resolveFrom_chain (i := 0) (by omega)).trans resolveFrom_nil
  have hreached : ∃ seen, resolveFrom deepDisk (deepDisk.maxDepth deepProject.outputDir) []
      (.ofParts []) deepProject.outputDir.parts =
        .reached (.ofParts ("p" :: (List.replicate 16 longName ++ ["k", "p"]))) seen := by
    rw [hdepth]
    exact ⟨_, (resolveFrom_name isName_p hp).trans
      ((resolveFrom_link isName_s hs rfl htarget).trans (resolveFrom_deep _ _))⟩
  obtain ⟨seen, hreached⟩ := hreached
  refine resolve_of_reached rfl fits_deepOutput.1 hreached ?_ fun text =>
    stat_ne_tooManyLinks (not_fits_deep ["p"])
  have hdots : ".." ≠ longName := Ne.symm isName_longName.ne_dots
  simp [hdots]

theorem resolve_deepRoot : deepDisk.resolve deepProject.root = .ok (.ofParts ["p"]) := by
  have hp : deepDisk.linkAt? (.ofParts ([] ++ ["p"])) = none :=
    linkAt?_of_not_link .root rfl isName_p (deepDisk_get?_chain (Nat.zero_le _)) (by simp)
  refine resolve_of_reached rfl (by decide) ((resolveFrom_name isName_p hp).trans resolveFrom_nil)
    (by decide) fun text h => ?_
  rw [leads_p.stat_followed (Nat.zero_le _) (deepDisk_get?_chain (Nat.zero_le _)) rfl
    ⟨by decide, by decide⟩] at h
  cases h

/-- A reset that empties the root of the project. The output directory is the root, but by its
resolved path it lies far below it, since the last link on the way cannot be named. -/
theorem resetOutput_empties_root :
    deepProject.outputDir.isAbsolute = true ∧
    (∃ output, deepDisk.resolve deepProject.outputDir = .ok output ∧
      ¬ output.parts <+: ["p", "keep"]) ∧
    deepDisk.resolve deepProject.root = .ok (.ofParts ["p"]) ∧
    deepDisk.stat .followed deepProject.outputDir = .ok (["p"], .directory) ∧
    deepDisk.get? ["p", "keep"] = some (.file []) ∧
    (after (deepProject.resetOutput deepDisk)).get? ["p", "keep"] ≠ some (.file []) := by
  have hdir : deepDisk.get? ["p"] = some .directory := deepDisk_get?_chain (Nat.zero_le _)
  have hstat : deepDisk.stat .itself deepProject.outputDir = .ok (["p"], .directory) := by
    rw [stat, lastName_deepOutput.walk_itself hdir]
    rfl
  have hlong : ∀ l : Location, l.length ≤ 2 →
      ¬ (Path.ofParts ("p" :: (List.replicate 16 longName ++ ["k", "p"]))).parts <+: l := by
    intro l hl h
    have hlength := h.length_le
    rw [Path.ofParts, List.length_cons, List.length_append, List.length_replicate] at hlength
    simp at hlength
    omega
  have hbelow : (Path.ofParts ["p"]).isBelow
      (.ofParts ("p" :: (List.replicate 16 longName ++ ["k", "p"]))) = false := by
    rw [← Bool.not_eq_true, Path.isBelow, Bool.and_eq_true, List.isPrefixOf_iff_prefix]
    rintro ⟨_, hprefix⟩
    exact hlong _ (by decide) hprefix
  exact ⟨rfl, ⟨_, resolve_deepOutput, hlong _ (by decide)⟩, resolve_deepRoot,
    stat_followed_of_itself rfl hstat, deepDisk_get?_keep,
    resetOutput_empties rfl resolve_deepOutput resolve_deepRoot hbelow (by simp) hstat (by decide)⟩

end Project

end Bundler
