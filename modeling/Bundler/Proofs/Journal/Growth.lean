import Bundler.Session
import Bundler.Proofs.Disk.Named
import Bundler.Proofs.Source
import Mathlib.Data.List.Induction

/-!
# Bundler.Proofs.Journal.Growth

What logging does to a disk. An entry changes nothing, or adds one line to the file of the journal.

* `Session.log_cases`: these are the only two ways.
* `Session.Settled`: the file of the journal is open and ends with a whole line.
* `Session.length_declaredLabels_foldl_log`: however many entries are logged, the files declare at most
  one label more.
* `Session.NamesJournal s p`: the path leads to the open file of the journal. What any other path leads
  to declares what it has declared before.
-/

namespace Bundler

open Journal Source
open Text.Utf8 (encodeChars)

/-- One line is added to the file of the journal, which is new or already there. -/
structure Journal.Appends (f : LogFile) (l : Location) (old : List UInt8) (line : List Char)
    (d d' : Disk) : Prop where
  isLine : IsLine line
  entries_eq : d'.entries = Keyed.put l (.file (old ++ encodeChars line)) d.entries
  location_ne : l ≠ []
  old_eq : d.get? l = some (.file old) ∨ (d.get? l = none ∧ old = [])
  /-- A file that was open stays the same one. -/
  opened : ∀ l', f.stream = .opened l' → l' = l

theorem Journal.write_cases (f : LogFile) {line : String} (hline : IsLine line.toList) (d : Disk) :
    f.write line d = (f, d) ∨
      ∃ l old d', f.write line d = ({ f with stream := .opened l }, d') ∧
        Appends f l old line.toList d d' := by
  unfold LogFile.write
  cases hstream : f.stream with
  | closed =>
    have hopened : ∀ l l' : Location, f.stream = .opened l' → l' = l := by
      intro l l' h
      rw [hstream] at h
      cases h
    cases hopen : Disk.openFile f.path d with
    | error e d' =>
      rw [Disk.openFile_eq_error hopen]
      exact .inl rfl
    | ok p d' =>
      obtain ⟨l, old⟩ := p
      refine .inr ⟨l, old, _, rfl, ?_⟩
      rcases Disk.openFile_eq_ok hopen with ⟨hget, rfl⟩ | ⟨hget, hl, rfl, rfl⟩
      · exact ⟨hline, rfl, Disk.ne_nil_of_get?_file hget, .inl hget, hopened l⟩
      · exact ⟨hline, Keyed.put_put _ _ _ _, hl, .inr ⟨hget, rfl⟩, hopened l⟩
  | opened l =>
    simp only
    split
    · rename_i old hget
      split
      · refine .inr ⟨l, old, d.set l (.file (old ++ Text.Utf8.encode line)), ?_, hline, rfl,
          Disk.ne_nil_of_get?_file hget, .inl hget, ?_⟩
        · rw [← hstream]
        · intro l' h
          rw [hstream] at h
          cases h
          rfl
      · exact .inl rfl
    · exact .inl rfl

namespace Session

structure Writes (s s' : Session) (l : Location) (old : List UInt8) (line : List Char) : Prop where
  file_eq : ∃ f, s.journal.file = some f ∧ s'.journal.file = some { f with stream := .opened l } ∧
    Appends f l old line s.disk s'.disk

theorem log_cases (s : Session) (lg : Logger) (e : Journal.Entry) :
    ((s.log lg e).disk = s.disk ∧ (s.log lg e).journal.file = s.journal.file) ∨
      ∃ l old line, Writes s (s.log lg e) l old line := by
  simp only [log, logAll, Journal.logAll, List.foldl_cons, List.foldl_nil, Journal.log]
  split
  · exact .inl ⟨rfl, rfl⟩
  · split
    · exact .inl ⟨rfl, rfl⟩
    · unfold Journal.deliver
      cases hfile : s.journal.file with
      | none => exact .inl ⟨rfl, hfile⟩
      | some f =>
        simp only
        split
        · rcases Journal.write_cases f (isLine_line s.journal.now (e.within lg.context)) s.disk with
            hsame | ⟨l, old, d', hwrite, happends⟩
          · rw [hsame]
            exact .inl ⟨rfl, rfl⟩
          · rw [hwrite]
            exact .inr ⟨l, old, _, ⟨f, hfile, rfl, happends⟩⟩
        · exact .inl ⟨rfl, hfile⟩

/-! ## Labels -/

variable {s s' : Session} {l : Location} {old : List UInt8} {line : List Char}

theorem Writes.lookup_eq (h : Writes s s' l old line) {e : Entry}
    (he : s.disk.entries.lookup l = some e) : e = .file old := by
  obtain ⟨f, _, _, happends⟩ := h.file_eq
  have hget : s.disk.get? l = some e := by
    rw [Disk.get?, if_neg happends.location_ne, he]
  rcases happends.old_eq with hold | ⟨hnone, _⟩
  · rw [hget] at hold
    exact Option.some.inj hold
  · rw [hget] at hnone
    cases hnone

theorem Writes.get?_eq (h : Writes s s' l old line) :
    s'.disk.get? l = some (.file (old ++ encodeChars line)) := by
  obtain ⟨f, _, _, happends⟩ := h.file_eq
  rw [Disk.get?, if_neg happends.location_ne, happends.entries_eq]
  exact Keyed.lookup_put_self _ _ _

theorem Writes.declaredLabels_subset (h : Writes s s' l old line) :
    declaredLabels s.disk ⊆ declaredLabels s'.disk := by
  obtain ⟨f, _, _, happends⟩ := h.file_eq
  refine declaredLabels_subset_put happends.entries_eq fun e he => ?_
  rw [h.lookup_eq he]
  exact entryLabels_subset_append happends.isLine

/-- What the file of the journal declared before a line was added, the disk has declared. -/
theorem Writes.entryLabels_old_subset (h : Writes s s' l old line) :
    entryLabels (.file old) ⊆ declaredLabels s.disk := by
  obtain ⟨f, _, _, happends⟩ := h.file_eq
  rcases happends.old_eq with hget | ⟨_, rfl⟩
  · intro x hx
    exact mem_declaredLabels.2 ⟨_, Disk.mem_entries_of_get? hget (by simp), hx⟩
  · have hnil : entryLabels (.file []) = [] := by decide +kernel
    rw [hnil]
    exact List.nil_subset _

theorem Writes.length_declaredLabels_le (h : Writes s s' l old line) :
    (declaredLabels s'.disk).length ≤ (declaredLabels s.disk).length + 1 := by
  obtain ⟨f, _, _, happends⟩ := h.file_eq
  obtain ⟨new, hnew⟩ := entryLabels_append_subset old happends.isLine
  have hsub : declaredLabels s'.disk ⊆ new.toList ++ declaredLabels s.disk := by
    intro x hx
    rcases List.mem_append.1 (declaredLabels_subset_of_put happends.entries_eq hx) with hx | hx
    · rcases List.mem_append.1 (hnew hx) with hx | hx
      · exact List.mem_append_left _ hx
      · exact List.mem_append_right _ (h.entryLabels_old_subset hx)
    · exact List.mem_append_right _ hx
  have hlen := (List.subperm_of_subset (nodup_declaredLabels s'.disk) hsub).length_le
  rw [List.length_append] at hlen
  have : new.toList.length ≤ 1 := by cases new <;> simp
  omega

/-- The file of the journal is open and ends with a whole line. -/
def Settled (s : Session) : Prop :=
  ∃ f l old line, s.journal.file = some f ∧ f.stream = .opened l ∧ IsLine line ∧
    s.disk.get? l = some (.file (old ++ encodeChars line))

theorem Writes.settled (h : Writes s s' l old line) : s'.Settled := by
  obtain ⟨f, _, hfile, happends⟩ := h.file_eq
  exact ⟨_, l, old, line, hfile, rfl, happends.isLine, h.get?_eq⟩

/-- Once the file of the journal ends with a whole line, no further line declares anything new. -/
theorem Writes.length_declaredLabels_eq_of_settled (h : Writes s s' l old line) (hs : s.Settled) :
    (declaredLabels s'.disk).length = (declaredLabels s.disk).length := by
  obtain ⟨f, hfile, _, happends⟩ := h.file_eq
  obtain ⟨f', l', old', line', hfile', hstream, hline', hget⟩ := hs
  rw [hfile] at hfile'
  cases hfile'
  have hl := happends.opened l' hstream
  subst hl
  have hold : old = old' ++ encodeChars line' := by
    have he := h.lookup_eq (e := .file (old' ++ encodeChars line')) ?_
    · cases he
      rfl
    · rw [Disk.get?, if_neg happends.location_ne] at hget
      exact hget
  have hsub : declaredLabels s'.disk ⊆ declaredLabels s.disk := by
    intro x hx
    rcases List.mem_append.1 (declaredLabels_subset_of_put happends.entries_eq hx) with hx | hx
    · rw [hold, entryLabels_append_second hline' happends.isLine, ← hold] at hx
      exact h.entryLabels_old_subset hx
    · exact hx
  refine Nat.le_antisymm ?_ ?_
  · exact (List.subperm_of_subset (nodup_declaredLabels _) hsub).length_le
  · exact (List.subperm_of_subset (nodup_declaredLabels _) h.declaredLabels_subset).length_le

/-! ## Many entries -/

theorem declaredLabels_subset_log (s : Session) (lg : Logger) (e : Journal.Entry) :
    declaredLabels s.disk ⊆ declaredLabels (s.log lg e).disk := by
  rcases log_cases s lg e with ⟨hdisk, _⟩ | ⟨l, old, line, h⟩
  · rw [hdisk]
    exact List.Subset.refl _
  · exact h.declaredLabels_subset

/-- Either nothing has been written yet, or the file of the journal ends with a whole line and the disk
has gained one label at most. -/
theorem foldl_log_cases (s : Session) (lg : Logger) (es : List Journal.Entry) :
    ((es.foldl (fun s e => s.log lg e) s).disk = s.disk ∧
      (es.foldl (fun s e => s.log lg e) s).journal.file = s.journal.file) ∨
    ((es.foldl (fun s e => s.log lg e) s).Settled ∧
      (declaredLabels (es.foldl (fun s e => s.log lg e) s).disk).length ≤
        (declaredLabels s.disk).length + 1) := by
  induction es using List.reverseRecOn with
  | nil => exact .inl ⟨rfl, rfl⟩
  | append_singleton es e ih =>
    rw [List.foldl_append, List.foldl_cons, List.foldl_nil]
    generalize es.foldl (fun s e => s.log lg e) s = t at ih
    rcases log_cases t lg e with ⟨hdisk, hfile⟩ | ⟨l, old, line, h⟩
    · rcases ih with ⟨ih₁, ih₂⟩ | ⟨⟨f, l, old, line, hf, hstream, hline, hget⟩, hlen⟩
      · exact .inl ⟨hdisk.trans ih₁, hfile.trans ih₂⟩
      · refine .inr ⟨⟨f, l, old, line, hfile.trans hf, hstream, hline, ?_⟩, ?_⟩
        · rw [hdisk, hget]
        · rw [hdisk]
          exact hlen
    · rcases ih with ⟨ih₁, _⟩ | ⟨hsettled, hlen⟩
      · refine .inr ⟨h.settled, ?_⟩
        rw [← ih₁]
        exact h.length_declaredLabels_le
      · refine .inr ⟨h.settled, ?_⟩
        rw [h.length_declaredLabels_eq_of_settled hsettled]
        exact hlen

theorem length_declaredLabels_foldl_log (s : Session) (lg : Logger) (es : List Journal.Entry) :
    (declaredLabels (es.foldl (fun s e => s.log lg e) s).disk).length ≤
      (declaredLabels s.disk).length + 1 := by
  rcases foldl_log_cases s lg es with ⟨hdisk, _⟩ | ⟨_, hlen⟩
  · rw [hdisk]
    omega
  · exact hlen

/-! ## Elsewhere on the disk -/

def journalAt? (s : Session) : Option Location :=
  match s.journal.file with
  | some ⟨_, _, .opened l⟩ => some l
  | _ => none

def NamesJournal (s : Session) (p : Path) : Prop :=
  ∃ l, s.journalAt? = some l ∧ s.disk.fileAt? p = some l

instance (s : Session) (p : Path) : Decidable (s.NamesJournal p) :=
  match hl : s.journalAt? with
  | none => isFalse fun ⟨_, h, _⟩ => by simp [hl] at h
  | some l => decidable_of_iff (s.disk.fileAt? p = some l) (by simp [NamesJournal, hl])

theorem Writes.journalAt?_eq (h : Writes s s' l old line) : s'.journalAt? = some l := by
  obtain ⟨f, _, hfile, _⟩ := h.file_eq
  rw [journalAt?, hfile]

theorem Writes.journalAt?_old (h : Writes s s' l old line) {l' : Location}
    (hl' : s.journalAt? = some l') : l' = l := by
  obtain ⟨f, hfile, _, happends⟩ := h.file_eq
  refine happends.opened l' ?_
  obtain ⟨_, _, stream⟩ := f
  rw [journalAt?, hfile] at hl'
  cases stream with
  | closed => cases hl'
  | opened l => exact congrArg _ (Option.some.inj hl')

theorem Writes.get?_of_ne (h : Writes s s' l old line) {l' : Location} (hne : l' ≠ l) :
    s'.disk.get? l' = s.disk.get? l' := by
  obtain ⟨f, _, _, happends⟩ := h.file_eq
  rw [Disk.get?, Disk.get?, happends.entries_eq, Keyed.lookup_put_of_ne hne]

/-- Entries change the disk where the open file of the journal lies, and nowhere else. -/
theorem foldl_log_elsewhere (s : Session) (lg : Logger) (es : List Journal.Entry) :
    (es.foldl (fun s e => s.log lg e) s).disk = s.disk ∨
      ∃ l, (es.foldl (fun s e => s.log lg e) s).journalAt? = some l ∧
        ∀ l', l' ≠ l → (es.foldl (fun s e => s.log lg e) s).disk.get? l' = s.disk.get? l' := by
  induction es using List.reverseRecOn with
  | nil => exact .inl rfl
  | append_singleton es e ih =>
    rw [List.foldl_append, List.foldl_cons, List.foldl_nil]
    generalize es.foldl (fun s e => s.log lg e) s = t at ih
    rcases log_cases t lg e with ⟨hdisk, hfile⟩ | ⟨l, old, line, h⟩
    · rw [hdisk, journalAt?, hfile]
      exact ih
    · refine .inr ⟨l, h.journalAt?_eq, fun l' hne => ?_⟩
      rw [h.get?_of_ne hne]
      rcases ih with hdisk | ⟨m, hm, helse⟩
      · rw [hdisk]
      · rw [← h.journalAt?_old hm] at hne
        exact helse l' hne

/-- What is read elsewhere than in the journal declares labels that the disk had before. -/
theorem labelsOf_subset_of_not_namesJournal {s : Session} {lg : Logger} {es : List Journal.Entry}
    {p : Path} {source : String}
    (hread : Source.read (es.foldl (fun s e => s.log lg e) s).disk p = .ok source)
    (hjournal : ¬ (es.foldl (fun s e => s.log lg e) s).NamesJournal p) :
    labelsOf source ⊆ declaredLabels s.disk := by
  rcases foldl_log_elsewhere s lg es with hdisk | ⟨l, hl, helse⟩
  · rw [hdisk] at hread
    exact labelsOf_subset_of_read hread
  · obtain ⟨bytes, cs, hbytes, hcs, rfl⟩ := read_eq_ok hread
    obtain ⟨m, hm, rfl⟩ := Disk.readBytes_eq_ok_iff.1 hbytes
    have hne : m ≠ l := by
      rintro rfl
      exact hjournal ⟨m, hl, hm⟩
    have hget := Disk.get?_of_fileAt? hm
    rw [helse m hne] at hget
    exact labelsOf_subset_of_get? hget hcs

/-- Without a file of the journal logging leaves the disk as it is. -/
theorem log_disk {s : Session} (hfile : s.journal.file = none) (lg : Logger) (e : Journal.Entry) :
    (s.log lg e).disk = s.disk ∧ (s.log lg e).journal.file = none := by
  rcases log_cases s lg e with ⟨hdisk, hfile'⟩ | ⟨l, old, line, ⟨f, hf, _⟩⟩
  · exact ⟨hdisk, hfile'.trans hfile⟩
  · rw [hfile] at hf
    cases hf

theorem foldl_log_disk {s : Session} (hfile : s.journal.file = none) (lg : Logger)
    (es : List Journal.Entry) :
    (es.foldl (fun s e => s.log lg e) s).disk = s.disk ∧
      (es.foldl (fun s e => s.log lg e) s).journal.file = none := by
  induction es generalizing s with
  | nil => exact ⟨rfl, hfile⟩
  | cons e es ih =>
    obtain ⟨hdisk, hfile'⟩ := log_disk hfile lg e
    obtain ⟨ih₁, ih₂⟩ := ih hfile'
    exact ⟨ih₁.trans hdisk, ih₂⟩

end Session

end Bundler
