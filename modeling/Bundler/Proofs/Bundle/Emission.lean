import Bundler.Proofs.Bundle.Refusal
import Bundler.Proofs.Disk.Named

/-!
# Bundler.Proofs.Bundle.Emission

Many writings to one bundle. The file of the bundle only ever grows at its end, by what the writings
that succeed contribute; a writing that fails adds nothing, whichever failed before it.

* `Complete s`: every component of a store has its fragment.
* `FailsToOpen b d e`: the directory cannot be made or the file cannot be opened.
* `Outcome b s d w`: everything that one writing can come to.
* `writings b d ss`: one writing for each store, each on the disk that the one before has left.
* `addsTo_settled`: what they add together.
* `writings_append_only`: the law of the bytes after any writings, and of the next writing.
-/

namespace Bundler.Bundle

variable {b : Bundle} {s : Store} {d d' : Disk} {bytes : List UInt8} {e : FileError}

def Complete (s : Store) : Prop :=
  ∀ c ∈ s.records, c.fragment.isSome = true

instance (s : Store) : Decidable (Complete s) :=
  inferInstanceAs (Decidable (∀ c ∈ s.records, c.fragment.isSome = true))

/-- The bytes of all fragments of a store, those of the last component first. -/
def contribution (s : Store) : List UInt8 :=
  s.records.reverse.flatMap fragmentBytes

def missing (c : Component) : Failure :=
  ⟨.other "Component has no generated instance", c.label, c.path⟩

def unwritable (b : Bundle) (e : FileError) : Failure :=
  ⟨.outputWrite ("Failed to write bundle: " ++ e.message), none, b.file⟩

/-- The directory of a bundle cannot be made, or its file cannot be opened then. -/
def FailsToOpen (b : Bundle) (d : Disk) (e : FileError) : Prop :=
  ∃ d₁, Disk.makeDirectories b.directory d = .error e d₁ ∨
    Disk.makeDirectories b.directory d = .ok () d₁ ∧ ∃ d₂, Disk.openFile b.file d₁ = .error e d₂

/-! ## One writing -/

theorem fragmentsOf_eq_error {cs : List Component} {f : Failure} (h : fragmentsOf cs = .error f) :
    ∃ before c after, cs = before ++ c :: after ∧ (∀ x ∈ before, x.fragment.isSome = true) ∧
      c.fragment = none ∧ f = missing c := by
  induction cs with
  | nil => cases h
  | cons c cs ih =>
    cases hfragment : c.fragment with
    | none =>
      simp only [fragmentsOf, hfragment] at h
      cases h
      exact ⟨[], c, cs, rfl, fun x hx => absurd hx List.not_mem_nil, hfragment, rfl⟩
    | some text =>
      cases hrest : fragmentsOf cs with
      | ok fs =>
        simp only [fragmentsOf, hfragment, hrest] at h
        cases h
      | error f' =>
        simp only [fragmentsOf, hfragment, hrest] at h
        cases h
        obtain ⟨before, c', after, rfl, hbefore, hnone, hf⟩ := ih hrest
        refine ⟨c :: before, c', after, rfl, fun x hx => ?_, hnone, hf⟩
        rcases List.mem_cons.1 hx with rfl | hx
        · rw [hfragment, Option.isSome_some]
        · exact hbefore x hx

/-- The component that is named is the last one without a fragment. -/
theorem fragments_eq_error {f : Failure} (h : fragments s = .error f) :
    ∃ before c after, s.records = before ++ c :: after ∧ c.fragment = none ∧
      (∀ x ∈ after, x.fragment.isSome = true) ∧ f = missing c := by
  obtain ⟨before, c, after, hrecords, hbefore, hnone, hf⟩ := fragmentsOf_eq_error h
  refine ⟨after.reverse, c, before.reverse, ?_, hnone, fun x hx => hbefore x (List.mem_reverse.1 hx), hf⟩
  rw [List.reverse_eq_iff] at hrecords
  rw [hrecords]
  simp

theorem isSome_of_fragmentsOf {cs : List Component} {fs : List String} (h : fragmentsOf cs = .ok fs) :
    ∀ c ∈ cs, c.fragment.isSome = true := by
  induction cs generalizing fs with
  | nil => exact fun c hc => absurd hc List.not_mem_nil
  | cons c cs ih =>
    cases hfragment : c.fragment with
    | none =>
      simp only [fragmentsOf, hfragment] at h
      cases h
    | some text =>
      cases hrest : fragmentsOf cs with
      | error f =>
        simp only [fragmentsOf, hfragment, hrest] at h
        cases h
      | ok fs' =>
        intro x hx
        rcases List.mem_cons.1 hx with rfl | hx
        · rw [hfragment, Option.isSome_some]
        · exact ih hrest x hx

theorem complete_of_fragments {fs : List String} (h : fragments s = .ok fs) : Complete s :=
  fun c hc => isSome_of_fragmentsOf h c (List.mem_reverse.2 hc)

theorem append_eq_error_iff (bytes : List UInt8) :
    (∃ d', b.append bytes d = .error e d') ↔ b.FailsToOpen d e := by
  unfold FailsToOpen
  cases hmade : Disk.makeDirectories b.directory d with
  | error e₁ d₁ => simp [append_of_unmade hmade]
  | ok _ d₁ => simp [append_of_made hmade, Disk.appendFile_eq_error_iff]

theorem failsToOpen_iff_of_append {e' : FileError} (h : b.append bytes d = .error e d') :
    b.FailsToOpen d e' ↔ e = e' := by
  rw [← append_eq_error_iff bytes, h]
  simp

theorem not_failsToOpen_of_append (h : b.append bytes d = .ok () d') : ¬ b.FailsToOpen d e := by
  rw [← append_eq_error_iff bytes, h]
  simp

theorem addsTo_append (h : b.append bytes d = .ok () d') :
    Disk.AddsTo b.file bytes d d' ∧ ∃ l, d'.fileAt? b.file = some l := by
  have hdirectory := Disk.addsTo_makeDirectories b.directory b.file d
  cases hmade : Disk.makeDirectories b.directory d with
  | error e₁ d₁ =>
    rw [append_of_unmade hmade] at h
    cases h
  | ok _ d₁ =>
    rw [append_of_made hmade] at h
    rw [hmade] at hdirectory
    obtain ⟨hfile, hnamed⟩ := Disk.addsTo_appendFile h
    exact ⟨hdirectory.trans hfile, hnamed⟩

/-- An append that fails has made directories at most. -/
theorem addsTo_append_error (h : b.append bytes d = .error e d') : Disk.AddsTo b.file [] d d' := by
  have hdirectory := Disk.addsTo_makeDirectories b.directory b.file d
  cases hmade : Disk.makeDirectories b.directory d with
  | error e₁ d₁ =>
    rw [append_of_unmade hmade] at h
    rw [hmade] at hdirectory
    cases h
    exact hdirectory
  | ok _ d₁ =>
    rw [append_of_made hmade, Disk.appendFile_eq_error_iff] at h
    rw [hmade] at hdirectory
    rw [Disk.openFile_eq_error h]
    exact hdirectory

/-- Everything that one writing can come to. -/
inductive Outcome (b : Bundle) (s : Store) (d : Disk) : Written → Prop where
  | refused {before after : List Component} {c : Component} {entries : List Journal.Entry} :
      s.records = before ++ c :: after → c.fragment = none →
      (∀ x ∈ after, x.fragment.isSome = true) →
      Outcome b s d ⟨.error (.failure (missing c)), b, entries, d⟩
  | unwritable {e : FileError} {d' : Disk} {entries : List Journal.Entry} : Complete s →
      b.append (contribution s) d = .error e d' → e.isSystem = true →
      Outcome b s d ⟨.error (.failure (unwritable b e)), { b with bytesWritten := 0 }, entries, d'⟩
  | null {e : FileError} {d' : Disk} {entries : List Journal.Entry} : Complete s →
      b.append (contribution s) d = .error e d' → e.isSystem = false →
      Outcome b s d ⟨.error (.file e), { b with bytesWritten := 0 }, entries, d'⟩
  | appended {d' : Disk} {entries : List Journal.Entry} : Complete s →
      b.append (contribution s) d = .ok () d' →
      Outcome b s d ⟨.ok b.file, { b with bytesWritten := (contribution s).length }, entries, d'⟩

theorem write_cases (b : Bundle) (s : Store) (d : Disk) : Outcome b s d (b.write s d) := by
  unfold write
  cases hfragments : fragments s with
  | error f =>
    obtain ⟨before, c, after, hrecords, hnone, hafter, rfl⟩ := fragments_eq_error hfragments
    exact .refused hrecords hnone hafter
  | ok fs =>
    have hcomplete := complete_of_fragments hfragments
    have hbytes : bytesOf fs = contribution s := bytesOf_fragmentsOf hfragments
    simp only [hbytes]
    cases happend : b.append (contribution s) d with
    | ok _ d' => exact .appended hcomplete happend
    | error e d' =>
      by_cases hsystem : e.isSystem = true
      · simp only [hsystem, if_true]
        exact .unwritable hcomplete happend hsystem
      · simp only [hsystem]
        exact .null hcomplete happend (Bool.eq_false_iff.2 hsystem)

theorem Outcome.addsTo {w : Written} (h : Outcome b s d w) :
    Disk.AddsTo b.file (if w.result.isOk then contribution s else []) d w.disk := by
  cases h with
  | refused _ _ _ => exact .refl b.file d
  | unwritable _ happend _ => exact addsTo_append_error happend
  | null _ happend _ => exact addsTo_append_error happend
  | appended _ happend => exact (addsTo_append happend).1

theorem Outcome.named {w : Written} (h : Outcome b s d w) (hok : w.result.isOk = true) :
    ∃ l, w.disk.fileAt? b.file = some l := by
  cases h with
  | refused _ _ _ => cases hok
  | unwritable _ _ _ => cases hok
  | null _ _ _ => cases hok
  | appended _ happend => exact (addsTo_append happend).2

theorem Outcome.bundle_eq {w : Written} (h : Outcome b s d w) :
    ∃ n, w.bundle = { b with bytesWritten := n } := by
  cases h <;> exact ⟨_, rfl⟩

theorem Outcome.file_eq {w : Written} (h : Outcome b s d w) : w.bundle.file = b.file := by
  obtain ⟨n, hn⟩ := h.bundle_eq
  rw [hn]

/-- The law of one writing. It succeeds exactly when the store is complete and the file can be opened;
its three other fields say what has changed after a success, after a store that is not complete and
after an error of the operating system. -/
structure Law (b : Bundle) (s : Store) (d : Disk) (w : Written) : Prop where
  ok_iff : ∀ p, w.result = .ok p ↔ p = b.file ∧ Complete s ∧ ∀ e, ¬ b.FailsToOpen d e
  appended : w.result.isOk = true → w.bundle.bytesWritten = (contribution s).length ∧
    ∃ l, w.disk.fileAt? b.file = some l ∧
      ∀ m, w.disk.bytesAt m = d.bytesAt m ++ if m = l then contribution s else []
  refused : ¬ Complete s → ∃ before c after, s.records = before ++ c :: after ∧ c.fragment = none ∧
    (∀ x ∈ after, x.fragment.isSome = true) ∧ w.result = .error (.failure (missing c)) ∧
    w.bundle = b ∧ w.disk = d
  unwritable : ∀ e, Complete s → b.FailsToOpen d e → e.isSystem = true →
    w.result = .error (.failure (unwritable b e)) ∧ w.bundle.bytesWritten = 0 ∧
    ∀ m, w.disk.bytesAt m = d.bytesAt m

theorem not_complete {before after : List Component} {c : Component}
    (hrecords : s.records = before ++ c :: after) (hnone : c.fragment = none) : ¬ Complete s := by
  intro hcomplete
  have hsome := hcomplete c (by simp [hrecords])
  rw [hnone] at hsome
  cases hsome

theorem Outcome.law {w : Written} (h : Outcome b s d w) : Law b s d w := by
  have hadds := h.addsTo
  cases h with
  | refused hrecords hnone hafter =>
    have hincomplete := not_complete hrecords hnone
    refine ⟨fun p => ?_, fun hok => (by cases hok), fun _ => ?_, fun _ hcomplete => ?_⟩
    · simp [hincomplete]
    · exact ⟨_, _, _, hrecords, hnone, hafter, rfl, rfl, rfl⟩
    · exact absurd hcomplete hincomplete
  | unwritable hcomplete happend hsystem =>
    refine ⟨fun p => ?_, fun hok => (by cases hok), absurd hcomplete, fun e' _ hfails _ => ?_⟩
    · simp [failsToOpen_iff_of_append happend]
    · obtain rfl := (failsToOpen_iff_of_append happend).1 hfails
      refine ⟨rfl, rfl, fun m => ?_⟩
      simpa [Except.isOk, Except.toBool] using hadds.bytesAt m
  | null hcomplete happend hsystem =>
    refine ⟨fun p => ?_, fun hok => (by cases hok), absurd hcomplete, fun e' _ hfails hsystem' => ?_⟩
    · simp [failsToOpen_iff_of_append happend]
    · -- an error is either one of the operating system or not
      obtain rfl := (failsToOpen_iff_of_append happend).1 hfails
      rw [hsystem] at hsystem'
      cases hsystem'
  | appended hcomplete happend =>
    refine ⟨fun p => ?_, fun _ => ⟨rfl, ?_⟩, absurd hcomplete, fun e' _ hfails => ?_⟩
    · simp [hcomplete, not_failsToOpen_of_append happend, eq_comm]
    · obtain ⟨l, hl⟩ := (addsTo_append happend).2
      refine ⟨l, hl, fun m => ?_⟩
      have hm := hadds.bytesAt m
      simp only [hl] at hm
      simpa [Except.isOk, Except.toBool, eq_comm] using hm
    · exact absurd hfails (not_failsToOpen_of_append happend)

/-! ## Many writings -/

/-- One writing for each store, each on the disk that the one before has left. -/
def writings (b : Bundle) (d : Disk) : List Store → List (Store × Written)
  | [] => []
  | s :: ss => (s, b.write s d) :: writings (b.write s d).bundle (b.write s d).disk ss

def settled (b : Bundle) (d : Disk) : List Store → Bundle × Disk
  | [] => (b, d)
  | s :: ss => settled (b.write s d).bundle (b.write s d).disk ss

/-- The bytes that the writings that succeed contribute. -/
def emitted (ws : List (Store × Written)) : List UInt8 :=
  (ws.filter fun w => w.2.result.isOk).flatMap fun w => contribution w.1

theorem emitted_cons (w : Store × Written) (ws : List (Store × Written)) :
    emitted (w :: ws) = (if w.2.result.isOk then contribution w.1 else []) ++ emitted ws := by
  unfold emitted
  split <;> simp [*]

theorem settled_bundle_eq (ss : List Store) :
    ∀ (b : Bundle) (d : Disk), ∃ n, (b.settled d ss).1 = { b with bytesWritten := n } := by
  induction ss with
  | nil => exact fun b d => ⟨b.bytesWritten, rfl⟩
  | cons s ss ih =>
    intro b d
    obtain ⟨n, hn⟩ := (write_cases b s d).bundle_eq
    obtain ⟨m, hm⟩ := ih (b.write s d).bundle (b.write s d).disk
    rw [hn] at hm
    exact ⟨m, by rw [settled, hn, hm]⟩

/-- Together the writings add what each adds, one after the other. -/
theorem addsTo_settled (ss : List Store) :
    ∀ (b : Bundle) (d : Disk),
      Disk.AddsTo b.file (emitted (b.writings d ss)) d (b.settled d ss).2 := by
  induction ss with
  | nil => exact fun b d => .refl b.file d
  | cons s ss ih =>
    intro b d
    have hrest := ih (b.write s d).bundle (b.write s d).disk
    rw [(write_cases b s d).file_eq] at hrest
    rw [writings, emitted_cons]
    exact (write_cases b s d).addsTo.trans hrest

theorem named_settled (ss : List Store) :
    ∀ (b : Bundle) (d : Disk), (∃ w ∈ b.writings d ss, w.2.result.isOk = true) →
      ∃ l, (b.settled d ss).2.fileAt? b.file = some l := by
  induction ss with
  | nil =>
    rintro b d ⟨w, hw, _⟩
    cases hw
  | cons s ss ih =>
    rintro b d ⟨w, hw, hok⟩
    have hfile := (write_cases b s d).file_eq
    rcases List.mem_cons.1 hw with rfl | hw
    · obtain ⟨l, hl⟩ := (write_cases b s d).named hok
      have hrest := addsTo_settled ss (b.write s d).bundle (b.write s d).disk
      rw [hfile] at hrest
      exact ⟨l, hrest.grows.fileAt? hl⟩
    · rw [← hfile]
      exact ih _ _ ⟨w, hw, hok⟩

/-- After any writings to a bundle, on any disk, every file has the bytes it had before. The one that
the path of the bundle names has in addition, at its end, the fragments of each store whose writing has
succeeded, and there is such a file when one has. The next writing, whatever came before it, obeys the
law of one writing. -/
theorem writings_append_only (b : Bundle) (d : Disk) (ss : List Store) :
    (∀ l, (b.settled d ss).2.bytesAt l = d.bytesAt l ++
      if (b.settled d ss).2.fileAt? b.file = some l then emitted (b.writings d ss) else []) ∧
    (∀ old, d.readBytes b.file = .ok old →
      (b.settled d ss).2.readBytes b.file = .ok (old ++ emitted (b.writings d ss))) ∧
    ((∃ w ∈ b.writings d ss, w.2.result.isOk = true) →
      ∃ l, (b.settled d ss).2.fileAt? b.file = some l ∧
        (b.settled d ss).2.readBytes b.file = .ok (d.bytesAt l ++ emitted (b.writings d ss))) ∧
    (∃ n, (b.settled d ss).1 = { b with bytesWritten := n }) ∧
    ∀ s, Law (b.settled d ss).1 s (b.settled d ss).2
      ((b.settled d ss).1.write s (b.settled d ss).2) := by
  have hadds := addsTo_settled ss b d
  have hread : ∀ l, (b.settled d ss).2.fileAt? b.file = some l →
      (b.settled d ss).2.readBytes b.file = .ok (d.bytesAt l ++ emitted (b.writings d ss)) := by
    intro l hl
    refine Disk.readBytes_eq_ok_iff.2 ⟨l, hl, ?_⟩
    rw [hadds.bytesAt, if_pos hl]
  refine ⟨hadds.bytesAt, fun old hold => ?_, fun hok => ?_, settled_bundle_eq ss b d, fun s => ?_⟩
  · obtain ⟨l, hl, rfl⟩ := Disk.readBytes_eq_ok_iff.1 hold
    exact hread l (hadds.grows.fileAt? hl)
  · obtain ⟨l, hl⟩ := named_settled ss b d hok
    exact ⟨l, hl, hread l hl⟩
  · exact (write_cases _ s _).law

end Bundler.Bundle
