import Bundler.Proofs.Bundle.Lines
import Bundler.Proofs.Discovery.Failure
import Bundler.Proofs.Project.Fresh

/-!
# Bundler.Proofs.Bundle.Refusal

The errors that end a compilation. What the operating system refuses becomes a failure of the build; a
path that holds the character zero is never given to it, and that error ends the build as it is.

* `Disk.RefusedAt`: the errors that an operation at a path can give.
* `Disk.makeDirectories_refused`, `Disk.appendFile_refused`, `Source.read_refused`: they are all that
  reading, making a directory and appending give.
* `Builder.compile_fails_unless_null`: a compilation that ends in anything but a failure has met a path
  with the character zero, and in which places this path can be.
-/

namespace Bundler

theorem Path.hasNull_parent {p : Path} (h : p.hasNull = false) : p.parent.hasNull = false := by
  rw [hasNull, List.any_eq_false] at h ⊢
  intro part hpart
  exact h part ((List.dropLast_subset _) hpart)

namespace Disk

variable {d d' : Disk} {p : Path} {e : FileError} {final : Final}

/-- What an operation at a path fails with. -/
inductive RefusedAt (p : Path) : FileError → Prop where
  | null : p.hasNull = true → RefusedAt p .nullByte
  | system {e : FileError} : p.hasNull = false → e.isSystem = true → RefusedAt p e

theorem RefusedAt.eq_nullByte (h : RefusedAt p e) (he : e.isSystem = false) :
    e = .nullByte ∧ p.hasNull = true := by
  cases h with
  | null hnull => exact ⟨rfl, hnull⟩
  | system _ hsystem => rw [he] at hsystem; cases hsystem

theorem walk_of_hasNull (h : p.hasNull = true) : d.walk final p = .error .nullByte :=
  if_pos h

theorem hasNull_of_walk {spot : Spot} (h : d.walk final p = .ok spot) : p.hasNull = false := by
  rw [Bool.eq_false_iff]
  intro hnull
  rw [walk_of_hasNull hnull] at h
  cases h

theorem walk_refused (h : d.walk final p = .error e) : RefusedAt p e := by
  by_cases hnull : p.hasNull = true
  · rw [walk_of_hasNull hnull] at h
    cases h
    exact .null hnull
  · refine .system (Bool.eq_false_iff.2 hnull) ?_
    rw [walk, if_neg hnull] at h
    split at h
    · cases h
      rfl
    · simp only at h
      split at h <;> cases h
      rfl

theorem stat_refused (h : d.stat final p = .error e) : RefusedAt p e := by
  unfold stat at h
  cases hwalk : d.walk final p with
  | error e' =>
    rw [hwalk] at h
    cases h
    exact walk_refused hwalk
  | ok spot =>
    rw [hwalk] at h
    cases spot with
    | found l x => cases h
    | vacant l name =>
      cases h
      exact .system (hasNull_of_walk hwalk) rfl

theorem readBytes_refused (h : d.readBytes p = .error e) : RefusedAt p e := by
  unfold readBytes at h
  cases hstat : d.stat .followed p with
  | error e' =>
    rw [hstat] at h
    cases h
    exact stat_refused hstat
  | ok found =>
    obtain ⟨l, x⟩ := found
    have hnull := hasNull_of_walk (walk_of_stat hstat)
    rw [hstat] at h
    cases x with
    | file bytes => cases h
    | directory =>
      cases h
      exact .system hnull rfl
    | link target =>
      cases h
      exact .system hnull rfl

/-! ## Making directories and files -/

theorem isDirectory_refused (h : d.isDirectory p = .error e) : RefusedAt p e := by
  unfold isDirectory lookup at h
  cases hstat : d.stat .followed p with
  | ok found =>
    rw [hstat] at h
    cases h
  | error e' =>
    rw [hstat] at h
    by_cases habsent : meansAbsent e' = true
    · simp only [habsent, if_true] at h
      cases h
    · simp only [habsent] at h
      cases h
      exact stat_refused hstat

theorem ensureDirectory_refused (h : ensureDirectory p d = .error e d') : RefusedAt p e := by
  unfold ensureDirectory makeDirectory at h
  cases hwalk : d.walk .itself p with
  | ok spot =>
    have hnull := hasNull_of_walk hwalk
    rw [hwalk] at h
    cases spot with
    | vacant l name => cases h
    | found l x =>
      simp only [reduceCtorEq, if_false] at h
      split at h
      · cases h
      · cases h
        exact .system hnull rfl
      · rename_i hdirectory
        cases h
        exact isDirectory_refused hdirectory
  | error e' =>
    rw [hwalk] at h
    cases walk_refused hwalk with
    | null hnull =>
      cases h
      exact .null hnull
    | system hnull hsystem =>
      refine .system hnull ?_
      split at h
      · cases h
      · split at h
        · cases h
          rfl
        · split at h
          · cases h
          · cases h
            rfl
          · rename_i hdirectory
            cases h
            cases isDirectory_refused hdirectory with
            | null hnull' => rw [hnull] at hnull'; cases hnull'
            | system _ hsystem' => exact hsystem'
      · -- any other error is passed on as it is
        rename_i hother
        cases h
        cases hother
        exact hsystem

theorem makeDirectoriesFrom_refused {fuel : Nat} (h : makeDirectoriesFrom fuel p d = .error e d') :
    RefusedAt p e := by
  induction fuel generalizing p d e d' with
  | zero => exact ensureDirectory_refused h
  | succ fuel ih =>
    rcases makeDirectoriesFrom_succ fuel p d with heq | ⟨⟨text, hwalk⟩, hparent⟩
    · rw [heq] at h
      exact ensureDirectory_refused h
    · -- the directories above are made only for a path without the character zero
      have hnull : p.hasNull = false := by
        cases walk_refused hwalk with
        | system hnull _ => exact hnull
      rcases hparent with ⟨e₁, d₁, hfailed, heq⟩ | ⟨d₁, _, heq⟩
      · rw [heq] at h
        cases h
        cases ih hfailed with
        | null hparent => rw [Path.hasNull_parent hnull] at hparent; cases hparent
        | system _ hsystem => exact .system hnull hsystem
      · rw [heq] at h
        exact ensureDirectory_refused h

theorem makeDirectories_refused (h : makeDirectories p d = .error e d') : RefusedAt p e :=
  makeDirectoriesFrom_refused h

theorem makeDirectories_of_hasNull (h : p.hasNull = true) : makeDirectories p d = .error .nullByte d := by
  simp [makeDirectories, makeDirectoriesFrom, ensureDirectory, makeDirectory, walk_of_hasNull h]

theorem appendFile_refused {bytes : List UInt8} (h : appendFile p bytes d = .error e d') :
    RefusedAt p e := by
  unfold appendFile openFile at h
  cases hwalk : d.walk .created p with
  | error e' =>
    rw [hwalk] at h
    cases h
    exact walk_refused hwalk
  | ok spot =>
    have hnull := hasNull_of_walk hwalk
    rw [hwalk] at h
    cases spot with
    | vacant l name => cases h
    | found l x =>
      cases x with
      | file old => cases h
      | directory =>
        cases h
        exact .system hnull rfl
      | link target =>
        cases h
        exact .system hnull rfl

theorem appendFile_of_hasNull (h : p.hasNull = true) (bytes : List UInt8) :
    appendFile p bytes d = .error .nullByte d := by
  simp [appendFile, openFile, walk_of_hasNull h]

end Disk

namespace Source

variable {d : Disk} {p : Path} {e : FileError}

theorem read_refused (h : read d p = .error (.file e)) : Disk.RefusedAt p e := by
  unfold read Disk.readText at h
  cases hbytes : d.readBytes p with
  | error e' =>
    rw [hbytes] at h
    cases h
    exact Disk.readBytes_refused hbytes
  | ok bytes =>
    rw [hbytes] at h
    cases hdecode : Text.Utf8.decode bytes with
    | ok cs => simp only [hdecode] at h; cases h
    | error f => simp only [hdecode] at h; cases h

theorem read_of_hasNull (h : p.hasNull = true) : read d p = .error (.file .nullByte) := by
  simp [read, Disk.readText, Disk.readBytes, Disk.stat, Disk.walk_of_hasNull h, Except.map]

end Source

namespace Bundle

theorem fragmentsOf_ok {cs : List Component} (h : ∀ c ∈ cs, c.fragment.isSome = true) :
    ∃ fs, fragmentsOf cs = .ok fs := by
  induction cs with
  | nil => exact ⟨[], rfl⟩
  | cons c cs ih =>
    obtain ⟨f, hf⟩ := Option.isSome_iff_exists.1 (h c List.mem_cons_self)
    obtain ⟨fs, hfs⟩ := ih fun c hc => h c (List.mem_cons_of_mem _ hc)
    exact ⟨f :: fs, by simp [fragmentsOf, hf, hfs]⟩

/-- Where the path of a bundle that cannot be written to holds the character zero: in that of its
directory, or in that of its file, after the directory has been made. -/
def MeetsNull (b : Bundle) (d : Disk) : Prop :=
  b.directory.hasNull = true ∨
    b.file.hasNull = true ∧ ∃ d', Disk.makeDirectories b.directory d = .ok () d'

theorem append_eq_error {b : Bundle} {bytes : List UInt8} {d d' : Disk} {e : FileError}
    (h : b.append bytes d = .error e d') :
    e.isSystem = true ∨ e = .nullByte ∧ b.MeetsNull d := by
  cases hmade : Disk.makeDirectories b.directory d with
  | error e₁ d₁ =>
    rw [append_of_unmade hmade] at h
    cases h
    cases Disk.makeDirectories_refused hmade with
    | null hnull => exact .inr ⟨rfl, .inl hnull⟩
    | system _ hsystem => exact .inl hsystem
  | ok _ d₁ =>
    rw [append_of_made hmade] at h
    cases Disk.appendFile_refused h with
    | null hnull => exact .inr ⟨rfl, .inr ⟨hnull, d₁, hmade⟩⟩
    | system _ hsystem => exact .inl hsystem

theorem append_of_meetsNull {b : Bundle} {d : Disk} (h : b.MeetsNull d) (bytes : List UInt8) :
    ∃ d', b.append bytes d = .error .nullByte d' := by
  rcases h with hdirectory | ⟨hfile, d₁, hmade⟩
  · exact ⟨d, append_of_unmade (Disk.makeDirectories_of_hasNull hdirectory) bytes⟩
  · exact ⟨d₁, (append_of_made hmade bytes).trans (Disk.appendFile_of_hasNull hfile bytes)⟩

theorem write_eq_file_iff {b : Bundle} {s : Store} {d : Disk} {e : FileError}
    (hfragments : ∀ c ∈ s.records, c.fragment.isSome = true) :
    (b.write s d).result = .error (.file e) ↔ e = .nullByte ∧ b.MeetsNull d := by
  obtain ⟨fs, hfs⟩ : ∃ fs, fragments s = .ok fs :=
    fragmentsOf_ok fun c hc => hfragments c (List.mem_reverse.1 hc)
  unfold write
  simp only [hfs]
  constructor
  · intro h
    cases happend : b.append (bytesOf fs) d with
    | ok _ d' => simp only [happend] at h; cases h
    | error e' d' =>
      simp only [happend] at h
      split at h
      · cases h
      · rename_i hsystem
        cases h
        exact (append_eq_error happend).resolve_left hsystem
  · rintro ⟨rfl, hnull⟩
    obtain ⟨d', happend⟩ := append_of_meetsNull hnull (bytesOf fs)
    simp only [happend]
    rfl

end Bundle

namespace Builder

open Discovery

variable {b : Builder} {label : Option String} {path outputDir : Option Path} {s : Session}

/-- A parse comes to a component whose path holds the character zero. -/
def MeetsNull (b : Builder) (label : Option String) (path : Option Path) (s : Session) : Prop :=
  ∃ fs c, Found (b.sourceAt label path s) b.settings.optionalSections b.root
      (b.rootComponent label path).pair fs ∧
    (order (b.rootComponent label path).pair fs)[fs.length]? = some c ∧ c.2.hasNull = true

theorem FailsAt.file_eq {fs : List Find} {c : String × Path} {e : FileError}
    (h : b.FailsAt label path s fs c (.file e)) : e = .nullByte ∧ c.2.hasNull = true := by
  have hfailure := h.failure
  cases hread : b.sourceAt label path s fs.length c.2 with
  | ok source =>
    rw [hread, failure?, Option.map_eq_some_iff] at hfailure
    obtain ⟨_, _, hcause⟩ := hfailure
    cases hcause
  | error e' =>
    rw [hread] at hfailure
    cases e' with
    | undecodable f => cases hfailure
    | file e' =>
      simp only [failure?, Source.readFailure] at hfailure
      split at hfailure
      · cases hfailure
      · rename_i hsystem
        cases hfailure
        exact (Source.read_refused hread).eq_nullByte (Bool.eq_false_iff.2 hsystem)

theorem parse_eq_file_iff {e : FileError} :
    (b.parse label path s).result = .error (.file e) ↔ e = .nullByte ∧ b.MeetsNull label path s := by
  rw [parse_eq_error_iff]
  constructor
  · rintro ⟨fs, c, h⟩
    exact ⟨h.file_eq.1, fs, c, h.found, h.next, h.file_eq.2⟩
  · rintro ⟨rfl, fs, c, hfound, hnext, hnull⟩
    refine ⟨fs, c, hfound, hnext, ?_⟩
    rw [sourceAt, readAt]
    exact congrArg (failure? _ c) (Source.read_of_hasNull hnull)

theorem compile_eq_error_iff {e : BuildError} :
    (b.compile label path outputDir s).result = .error e ↔
      (b.parse label path s).result = .error e ∨
        ∃ store, (b.parse label path s).result = .ok store ∧
          ((b.outputBundle outputDir).write store (b.parse label path s).session.disk).result =
            .error e := by
  have hbundle : (b.parse label path s).builder.outputBundle outputDir = b.outputBundle outputDir := rfl
  unfold compile
  rcases hparse : b.parse label path s with ⟨e' | store, b₁, s₁⟩
  · simp
  · rw [hparse] at hbundle
    have hresult := (b₁.build_eq store outputDir s₁).1
    simp only at hbundle
    rw [hbundle] at hresult
    simp only [reduceCtorEq, Except.ok.injEq, exists_eq_left', false_or]
    rw [← hresult]
    rcases b₁.build store outputDir s₁ with ⟨_ | output, b₂, s₂⟩ <;> simp

theorem isSome_fragment_of_parse {store : Store} (h : (b.parse label path s).result = .ok store) :
    ∀ c ∈ store.records, c.fragment.isSome = true := by
  intro c hc
  obtain ⟨t, hruns, _, rfl⟩ := reaches_of_parse h
  rw [hruns.shape.store_records] at hc
  obtain ⟨r, hr, rfl⟩ := List.mem_map.1 hc
  rw [Runs.fragment_eq hruns hr]
  rfl

/-- A compilation ends in a result, in a failure or in the error for the character zero in a path. The
last happens exactly when such a path is that of a component whose turn it is, or, when all components
have been compiled, that of the output directory, or, when this directory could be made, that of the
output file. -/
theorem compile_fails_unless_null (b : Builder) (label : Option String) (path outputDir : Option Path)
    (s : Session) :
    ((∃ r, (b.compile label path outputDir s).result = .ok r) ∨
      (∃ f, (b.compile label path outputDir s).result = .error (.failure f)) ∨
      (b.compile label path outputDir s).result = .error (.file .nullByte)) ∧
    ((b.compile label path outputDir s).result = .error (.file .nullByte) ↔
      b.MeetsNull label path s ∨
        (∃ store, (b.parse label path s).result = .ok store) ∧
          (b.outputBundle outputDir).MeetsNull (b.parse label path s).session.disk) := by
  have hfile : ∀ e, (b.compile label path outputDir s).result = .error (.file e) ↔
      e = .nullByte ∧ (b.MeetsNull label path s ∨
        (∃ store, (b.parse label path s).result = .ok store) ∧
          (b.outputBundle outputDir).MeetsNull (b.parse label path s).session.disk) := by
    intro e
    rw [compile_eq_error_iff, parse_eq_file_iff, and_or_left]
    refine or_congr_right ⟨?_, ?_⟩
    · rintro ⟨store, hparse, hwrite⟩
      obtain ⟨rfl, hnull⟩ := (Bundle.write_eq_file_iff (isSome_fragment_of_parse hparse)).1 hwrite
      exact ⟨rfl, ⟨store, hparse⟩, hnull⟩
    · rintro ⟨rfl, ⟨store, hparse⟩, hnull⟩
      exact ⟨store, hparse,
        (Bundle.write_eq_file_iff (isSome_fragment_of_parse hparse)).2 ⟨rfl, hnull⟩⟩
  refine ⟨?_, (hfile .nullByte).trans (and_iff_right rfl)⟩
  cases hresult : (b.compile label path outputDir s).result with
  | ok r => exact .inl ⟨r, rfl⟩
  | error e =>
    cases e with
    | failure f => exact .inr (.inl ⟨f, rfl⟩)
    | file e =>
      obtain ⟨rfl, _⟩ := (hfile e).1 hresult
      exact .inr (.inr rfl)

/-- A project whose root component declares a file name with the character zero. -/
def nullSession : Session :=
  { disk :=
      { entries :=
          [(["p"], .directory),
            (["p", "App.vue"],
              .file (Text.Utf8.encode "<template><script>\x7b\x7d\nimport A from './A\x00'"))]
        cwd := ["p"] }
    home := ⟨none, []⟩ }

/-- Not every compilation ends in a result or a failure. -/
theorem null_specifier_no_failure :
    ¬ ((∃ r, (sampleBuilder.compile none none none nullSession).result = .ok r) ∨
      ∃ f, (sampleBuilder.compile none none none nullSession).result = .error (.failure f)) := by
  have hparse : (sampleBuilder.parse none none nullSession).result = .error (.file .nullByte) := by
    decide +kernel
  have hresult : (sampleBuilder.compile none none none nullSession).result =
      .error (.file .nullByte) := compile_eq_error_iff.2 (.inl hparse)
  rw [hresult]
  simp

end Builder

end Bundler
