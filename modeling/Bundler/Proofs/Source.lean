import Bundler.Source
import Bundler.Proofs.Disk.Walk
import Bundler.Proofs.Journal.Line
import Mathlib.Data.List.Perm.Subperm

/-!
# Bundler.Proofs.Source

The labels that the files of a disk declare, and what becomes of them when a journal line is added to a
file.

* `labelsOf_subset_of_read`: what can be read declares only labels of the disk.
* `entryLabels_append_cases`: what a journal line does to the labels of a file. It takes none away and
  adds at most one, that of a declaration that was left unfinished at the end of the file.
* `entryLabels_append_second`: the next journal line adds none.
-/

namespace Bundler

namespace Source

/-- The labels that an entry of a disk declares. -/
def entryLabels (e : Entry) : List String :=
  ((textOf? e).map labelsOf).getD []

theorem mem_declaredLabels {d : Disk} {l : String} :
    l ∈ declaredLabels d ↔ ∃ p ∈ d.entries, l ∈ entryLabels p.2 := by
  rw [declaredLabels, List.mem_eraseDups, List.mem_flatMap]
  rfl

theorem nodup_eraseDups {α : Type} [BEq α] [LawfulBEq α] (xs : List α) : xs.eraseDups.Nodup := by
  induction hn : xs.length using Nat.strongRecOn generalizing xs with
  | ind n ih =>
  cases xs with
  | nil => exact List.nodup_nil
  | cons x xs =>
    rw [List.eraseDups_cons, List.nodup_cons, List.mem_eraseDups]
    constructor
    · simp
    · refine ih _ ?_ _ rfl
      have := List.length_filter_le (fun b => !b == x) xs
      rw [← hn, List.length_cons]
      omega

theorem nodup_declaredLabels (d : Disk) : (declaredLabels d).Nodup :=
  nodup_eraseDups _

theorem declaredLabels_subset_of_put {d d' : Disk} {l : Location} {e : Entry}
    (h : d'.entries = Keyed.put l e d.entries) :
    declaredLabels d' ⊆ entryLabels e ++ declaredLabels d := by
  intro x hx
  obtain ⟨p, hp, hx⟩ := mem_declaredLabels.1 hx
  rw [h] at hp
  rcases Keyed.eq_or_mem_of_mem_put hp with rfl | hp
  · exact List.mem_append_left _ hx
  · exact List.mem_append_right _ (mem_declaredLabels.2 ⟨p, hp, hx⟩)

theorem declaredLabels_subset_put {d d' : Disk} {l : Location} {e : Entry}
    (h : d'.entries = Keyed.put l e d.entries)
    (hold : ∀ e', d.entries.lookup l = some e' → entryLabels e' ⊆ entryLabels e) :
    declaredLabels d ⊆ declaredLabels d' := by
  intro x hx
  obtain ⟨p, hp, hx⟩ := mem_declaredLabels.1 hx
  rw [mem_declaredLabels, h]
  rcases Keyed.mem_put_or_lookup hp e with hput | hlookup
  · exact ⟨p, hput, hx⟩
  · exact ⟨(l, e), Keyed.mem_put_self l e d.entries, hold _ hlookup hx⟩

/-! ## Texts -/

theorem entryLabels_file_ok {bytes : List UInt8} {cs : List Char}
    (h : Text.Utf8.decode bytes = .ok cs) :
    entryLabels (.file bytes) = (Text.lines (Text.unifyNewlines cs)).filterMap lineLabel? := by
  simp [entryLabels, textOf?, h, labelsOf, ofText]

theorem entryLabels_file_error {bytes : List UInt8} {f : Text.Utf8.Fault}
    (h : Text.Utf8.decode bytes = .error f) : entryLabels (.file bytes) = [] := by
  simp [entryLabels, textOf?, h]

theorem read_eq_ok {d : Disk} {p : Path} {source : String} (h : read d p = .ok source) :
    ∃ bytes cs, d.readBytes p = .ok bytes ∧ Text.Utf8.decode bytes = .ok cs ∧
      source = ofText (String.ofList cs) := by
  unfold read Disk.readText at h
  cases hbytes : d.readBytes p with
  | error e =>
    rw [hbytes] at h
    cases h
  | ok bytes =>
    cases hcs : Text.Utf8.decode bytes with
    | error f =>
      simp only [hbytes, hcs] at h
      cases h
    | ok cs =>
      simp only [hbytes, hcs] at h
      cases h
      exact ⟨bytes, cs, rfl, hcs, rfl⟩

theorem labelsOf_subset_of_get? {d : Disk} {l : Location} {bytes : List UInt8} {cs : List Char}
    (hget : d.get? l = some (.file bytes)) (hcs : Text.Utf8.decode bytes = .ok cs) :
    labelsOf (ofText (String.ofList cs)) ⊆ declaredLabels d := by
  intro label hlabel
  refine mem_declaredLabels.2 ⟨_, Disk.mem_entries_of_get? hget (by simp), ?_⟩
  rw [entryLabels_file_ok hcs]
  simpa [labelsOf, ofText] using hlabel

/-- Whatever can be read declares labels of the disk only. -/
theorem labelsOf_subset_of_read {d : Disk} {p : Path} {source : String}
    (h : read d p = .ok source) : labelsOf source ⊆ declaredLabels d := by
  obtain ⟨bytes, cs, hbytes, hcs, rfl⟩ := read_eq_ok h
  obtain ⟨l, hget⟩ := Disk.readBytes_eq_ok hbytes
  exact labelsOf_subset_of_get? hget hcs

/-! ## Lines -/

/-- More text at the end of a line does not change the label that it declares. -/
theorem lineLabel?_append {line : List Char} {l : String} (h : lineLabel? line = some l)
    (more : List Char) : lineLabel? (line ++ more) = some l := by
  have hwords : ∃ w label last rest, Text.words line = w :: label :: last :: rest := by
    unfold lineLabel? at h
    split at h
    · rename_i w label last rest hw
      exact ⟨w, label, last, rest, hw⟩
    · cases h
  obtain ⟨w, label, last, rest, hw⟩ := hwords
  have hmore : ∃ last' rest', Text.words (line ++ more) = w :: label :: last' :: rest' := by
    rcases Text.words_append line more with ⟨ws, hws⟩ | ⟨ws, v, v', ws', hline, hws⟩
    · exact ⟨last, rest ++ ws, by rw [hws, hw]; rfl⟩
    · -- the word that may grow is the third one or comes after it
      rw [hw] at hline
      match ws, hline with
      | [], hline => simp at hline
      | [_], hline => simp at hline
      | [_, _], hline =>
        simp only [List.cons_append, List.nil_append, List.cons.injEq] at hline
        obtain ⟨rfl, rfl, -, -⟩ := hline
        exact ⟨v', ws', hws⟩
      | _ :: _ :: x :: ws, hline =>
        simp only [List.cons_append, List.cons.injEq] at hline
        obtain ⟨rfl, rfl, -, -⟩ := hline
        exact ⟨x, ws ++ v' :: ws', by simpa using hws⟩
  obtain ⟨last', rest', hw'⟩ := hmore
  simp only [lineLabel?, hw] at h
  simpa only [lineLabel?, hw'] using h

/-- An object declares no label. -/
theorem lineLabel?_object (body : List Char) : lineLabel? ('{' :: body) = none := by
  have hwords : ∃ w ws, Text.words ('{' :: body) = ('{' :: w) :: ws := by
    obtain ⟨w, ws, hf⟩ := List.exists_cons_of_ne_nil (Text.fields_ne_nil Text.isBlank body)
    refine ⟨w, ws.filter fun v => !v.isEmpty, ?_⟩
    have hblank : Text.isBlank '{' = false := by decide
    simp [Text.words, Text.fields, hblank, hf]
  obtain ⟨w, ws, hw⟩ := hwords
  have hkey : '{' :: w ≠ Declaration.keyword := by
    intro h
    cases h
  unfold lineLabel?
  rw [hw]
  split
  · rename_i hcons
    cases hcons
    rw [if_neg hkey]
  · rfl

/-! ## Files with a further line -/

open Text.Utf8 (encodeChars decode_append_ascii)

theorem filterMap_singleton {α β : Type} (f : α → Option β) (x : α) :
    [x].filterMap f = (f x).toList := by
  cases h : f x <;> simp [h]

/-- Of a file with a further line, either the line before it was finished, and the labels stay as they
are, or it was not, and the last line is now another one. -/
theorem entryLabels_append_cases (bytes : List UInt8) {line : List Char} (h : Journal.IsLine line) :
    entryLabels (.file (bytes ++ encodeChars line)) = entryLabels (.file bytes) ∨
      ∃ (before : List String) (last more : List Char),
        entryLabels (.file bytes) = before ++ (lineLabel? last).toList ∧
        entryLabels (.file (bytes ++ encodeChars line)) =
          before ++ (lineLabel? (last ++ more)).toList := by
  cases hcs : Text.Utf8.decode (bytes ++ encodeChars line) with
  | error f =>
    left
    rw [entryLabels_file_error hcs]
    cases hbytes : Text.Utf8.decode bytes with
    | error f => rw [entryLabels_file_error hbytes]
    | ok cs =>
      rw [(decode_append_ascii h.isAscii bytes _).2 ⟨cs, hbytes, rfl⟩] at hcs
      cases hcs
  | ok cs =>
    obtain ⟨cs', hcs', rfl⟩ := (decode_append_ascii h.isAscii bytes cs).1 hcs
    rw [entryLabels_file_ok hcs, entryLabels_file_ok hcs', h.unifyNewlines_append]
    obtain ⟨body, rfl, hplain⟩ := h
    rcases Text.lines_append_line (Text.notMem_unifyNewlines cs') hplain.not_isLineEnd
      with hlines | ⟨init, last, hold, hlines⟩
    · left
      rw [hlines, List.filterMap_append, filterMap_singleton, lineLabel?_object]
      simp
    · right
      refine ⟨init.filterMap lineLabel?, last, '{' :: body, ?_, ?_⟩
      · rw [hold, List.filterMap_append, filterMap_singleton]
      · rw [hlines, List.filterMap_append, filterMap_singleton]

/-- A further line takes no label away. -/
theorem entryLabels_subset_append {bytes : List UInt8} {line : List Char}
    (h : Journal.IsLine line) :
    entryLabels (.file bytes) ⊆ entryLabels (.file (bytes ++ encodeChars line)) := by
  rcases entryLabels_append_cases bytes h with hsame | ⟨before, last, more, hold, hnew⟩
  · rw [hsame]
    exact List.Subset.refl _
  · rw [hold, hnew]
    cases hlast : lineLabel? last with
    | none => simp
    | some l =>
      rw [lineLabel?_append hlast more]
      exact List.Subset.refl _

/-- A further line adds one label at most. -/
theorem entryLabels_append_subset (bytes : List UInt8) {line : List Char}
    (h : Journal.IsLine line) :
    ∃ new : Option String,
      entryLabels (.file (bytes ++ encodeChars line)) ⊆ new.toList ++ entryLabels (.file bytes) := by
  rcases entryLabels_append_cases bytes h with hsame | ⟨before, last, more, hold, hnew⟩
  · exact ⟨none, by rw [hsame]; simp⟩
  · refine ⟨lineLabel? (last ++ more), ?_⟩
    rw [hold, hnew]
    intro l hl
    simp only [List.mem_append] at hl ⊢
    tauto

/-- After a line that is finished another one changes no label. -/
theorem entryLabels_append_second {bytes : List UInt8} {line₁ line₂ : List Char}
    (h₁ : Journal.IsLine line₁) (h₂ : Journal.IsLine line₂) :
    entryLabels (.file (bytes ++ encodeChars line₁ ++ encodeChars line₂)) =
      entryLabels (.file (bytes ++ encodeChars line₁)) := by
  cases hcs : Text.Utf8.decode (bytes ++ encodeChars line₁) with
  | error f =>
    rw [entryLabels_file_error hcs]
    cases hboth : Text.Utf8.decode (bytes ++ encodeChars line₁ ++ encodeChars line₂) with
    | error f => rw [entryLabels_file_error hboth]
    | ok cs =>
      obtain ⟨cs', hcs', _⟩ := (decode_append_ascii h₂.isAscii _ cs).1 hboth
      rw [hcs] at hcs'
      cases hcs'
  | ok cs =>
    have hboth := (decode_append_ascii h₂.isAscii _ _).2 ⟨cs, hcs, rfl⟩
    obtain ⟨cs', _, rfl⟩ := (decode_append_ascii h₁.isAscii bytes cs).1 hcs
    rw [entryLabels_file_ok hcs, entryLabels_file_ok hboth, h₂.unifyNewlines_append,
      h₁.unifyNewlines_append]
    obtain ⟨body₁, rfl, hplain₁⟩ := h₁
    obtain ⟨body₂, rfl, hplain₂⟩ := h₂
    have hcr : '\r' ∉ Text.unifyNewlines cs' ++ '{' :: body₁ := by
      rw [List.mem_append, not_or]
      refine ⟨Text.notMem_unifyNewlines cs', fun hmem => ?_⟩
      have := hplain₁ _ hmem
      simp at this
    have hlines := Text.lines_append_lineFeed hcr ('{' :: body₂ ++ ['\n'])
    rw [Text.lines_line hplain₂.not_isLineEnd] at hlines
    simp only [List.append_assoc, List.singleton_append] at hlines ⊢
    rw [hlines, List.filterMap_append, filterMap_singleton, lineLabel?_object]
    simp

end Source

end Bundler
