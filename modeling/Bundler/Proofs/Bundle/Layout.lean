import Bundler.Bundle
import Bundler.Fragment
import Bundler.Proofs.Disk.Walk
import Mathlib.Data.List.Nodup

/-!
# Bundler.Proofs.Bundle.Layout

Where the fragments of components lie in the bytes that they add to a bundle.

* `Bundle.offset cs l`: where the fragment under a label begins.
* `Bundle.take_drop_offset`: the bytes from there on are those of the fragment.
* `Bundle.Precedes s v u`: the fragment of `v` ends before that of `u` begins.
* `Bundle.precedes_iff`: fragments lie in the opposite order of the components of the store.
* `Bundle.write_eq_ok`, `Bundle.append_eq_ok`: what a writing does to the file.
-/

namespace Bundler

namespace Bundle

def fragmentBytes (c : Component) : List UInt8 :=
  Text.Utf8.encode (c.fragment.getD "")

/-- Where the fragment under a label begins among those of components. -/
def offset (cs : List Component) (l : String) : Nat :=
  ((cs.takeWhile fun c => c.label != l).flatMap fragmentBytes).length

theorem encode_statement_ne_nil (kind : Kind) (runtime label template script : String) :
    Text.Utf8.encode (Fragment.statement kind runtime label template script) ≠ [] := by
  -- both forms begin with the same word
  have htext : ∃ rest, Fragment.statement kind runtime label template script = "\nconst " ++ rest := by
    unfold Fragment.statement
    split
    · simp only [String.append_assoc]
      exact ⟨_, rfl⟩
    · simp only [String.append_assoc]
      exact ⟨_, rfl⟩
  obtain ⟨rest, hrest⟩ := htext
  rw [Text.Utf8.encode, hrest, String.toList_append, List.flatMap_append]
  exact List.append_ne_nil_of_left_ne_nil (by decide) _

/-- The fragment of one component ends before that of another begins, in the bundle of a store. -/
def Precedes (s : Store) (v u : Component) : Prop :=
  offset s.records.reverse v.label + (fragmentBytes v).length ≤ offset s.records.reverse u.label

instance (s : Store) (v u : Component) : Decidable (Precedes s v u) :=
  inferInstanceAs (Decidable (_ ≤ _))

theorem fragmentsOf_eq_ok {cs : List Component} {fs : List String} (h : fragmentsOf cs = .ok fs) :
    fs = cs.map fun c => c.fragment.getD "" := by
  induction cs generalizing fs with
  | nil =>
    cases h
    rfl
  | cons c cs ih =>
    simp only [fragmentsOf] at h
    split at h
    · cases h
    · rename_i f hf
      split at h
      · cases h
      · rename_i fs' hfs
        cases h
        rw [List.map_cons, hf, ← ih hfs, Option.getD_some]

theorem bytesOf_fragmentsOf {cs : List Component} {fs : List String} (h : fragmentsOf cs = .ok fs) :
    bytesOf fs = cs.flatMap fragmentBytes := by
  rw [fragmentsOf_eq_ok h, bytesOf, List.flatMap_map]
  rfl

theorem offset_cons_self (c : Component) (cs : List Component) : offset (c :: cs) c.label = 0 := by
  simp [offset]

theorem offset_cons_of_ne {c : Component} {l : String} (h : c.label ≠ l) (cs : List Component) :
    offset (c :: cs) l = (fragmentBytes c).length + offset cs l := by
  simp [offset, h]

theorem take_drop_offset {cs : List Component} (hnodup : (cs.map Component.label).Nodup)
    {c : Component} (hc : c ∈ cs) :
    ((cs.flatMap fragmentBytes).drop (offset cs c.label)).take (fragmentBytes c).length =
      fragmentBytes c := by
  induction cs with
  | nil => cases hc
  | cons d cs ih =>
    rw [List.map_cons, List.nodup_cons] at hnodup
    rcases List.mem_cons.1 hc with rfl | hc
    · rw [offset_cons_self, List.drop_zero, List.flatMap_cons, List.take_left]
    · have hne : d.label ≠ c.label := fun he => hnodup.1 (he ▸ List.mem_map_of_mem hc)
      rw [offset_cons_of_ne hne, List.flatMap_cons, List.drop_append, List.drop_of_length_le (by omega),
        List.nil_append, Nat.add_sub_cancel_left]
      exact ih hnodup.2 hc

/-- The fragment of one component ends before that of another begins exactly when its component comes
first. A fragment that is not empty cannot lie on both sides. -/
theorem offset_add_le_iff {cs : List Component} (hnodup : (cs.map Component.label).Nodup)
    {u v : Component} (hu : u ∈ cs) (hv : v ∈ cs) (hbytes : ∀ c ∈ cs, fragmentBytes c ≠ []) :
    offset cs v.label + (fragmentBytes v).length ≤ offset cs u.label ↔
      (cs.map Component.label).idxOf v.label < (cs.map Component.label).idxOf u.label := by
  induction cs with
  | nil => cases hu
  | cons d cs ih =>
    rw [List.map_cons, List.nodup_cons] at hnodup
    have hne : ∀ {c}, c ∈ cs → d.label ≠ c.label := fun hc he =>
      hnodup.1 (he ▸ List.mem_map_of_mem hc)
    have hpos : 0 < (fragmentBytes d).length :=
      List.length_pos_iff.2 (hbytes d List.mem_cons_self)
    rw [List.map_cons]
    rcases List.mem_cons.1 hv with rfl | hv' <;> rcases List.mem_cons.1 hu with rfl | hu'
    · simp only [offset_cons_self, List.idxOf_cons_self]
      omega
    · rw [offset_cons_self, offset_cons_of_ne (hne hu'), List.idxOf_cons_self,
        List.idxOf_cons_ne _ (hne hu')]
      omega
    · rw [offset_cons_self, List.idxOf_cons_self, offset_cons_of_ne (hne hv')]
      omega
    · rw [offset_cons_of_ne (hne hu'), offset_cons_of_ne (hne hv'), List.idxOf_cons_ne _ (hne hu'),
        List.idxOf_cons_ne _ (hne hv'), Nat.succ_lt_succ_iff,
        ← ih hnodup.2 hu' hv' fun c hc => hbytes c (List.mem_cons_of_mem _ hc)]
      omega

theorem idxOf_reverse_lt_iff {xs : List String} (hnodup : xs.Nodup) {k l : String} (hk : k ∈ xs)
    (hl : l ∈ xs) :
    xs.reverse.idxOf k < xs.reverse.idxOf l ↔ xs.idxOf l < xs.idxOf k := by
  induction xs with
  | nil => cases hk
  | cons x xs ih =>
    rw [List.nodup_cons] at hnodup
    have hne : ∀ {y}, y ∈ xs → x ≠ y := fun hy he => hnodup.1 (he ▸ hy)
    have hin : ∀ {y}, y ∈ xs → (xs.reverse ++ [x]).idxOf y = xs.reverse.idxOf y := fun hy =>
      List.idxOf_append_of_mem (List.mem_reverse.2 hy)
    have hout : (xs.reverse ++ [x]).idxOf x = xs.length := by
      rw [List.idxOf_append_of_notMem (fun h => hnodup.1 (List.mem_reverse.1 h))]
      simp
    have hlt : ∀ {y}, y ∈ xs → xs.reverse.idxOf y < xs.length := fun hy => by
      simpa using List.idxOf_lt_length_of_mem (List.mem_reverse.2 hy)
    rw [List.reverse_cons]
    rcases List.mem_cons.1 hk with rfl | hk' <;> rcases List.mem_cons.1 hl with rfl | hl'
    · simp
    · rw [hout, hin hl', List.idxOf_cons_self]
      have := hlt hl'
      omega
    · rw [hout, hin hk', List.idxOf_cons_self, List.idxOf_cons_ne _ (hne hk')]
      have := hlt hk'
      omega
    · rw [hin hk', hin hl', List.idxOf_cons_ne _ (hne hk'), List.idxOf_cons_ne _ (hne hl'),
        Nat.succ_lt_succ_iff]
      exact ih hnodup.2 hk' hl'

/-- In the bundle the fragments lie in the opposite order of the components. -/
theorem precedes_iff {s : Store} (hnodup : (s.records.map Component.label).Nodup) {u v : Component}
    (hu : u ∈ s.records) (hv : v ∈ s.records) (hbytes : ∀ c ∈ s.records, fragmentBytes c ≠ []) :
    Precedes s v u ↔
      (s.records.map Component.label).idxOf u.label < (s.records.map Component.label).idxOf v.label := by
  have hreverse : (s.records.reverse.map Component.label).Nodup := by
    rw [List.map_reverse, List.nodup_reverse]
    exact hnodup
  rw [Precedes, offset_add_le_iff hreverse (List.mem_reverse.2 hu) (List.mem_reverse.2 hv)
      fun c hc => hbytes c (List.mem_reverse.1 hc), List.map_reverse,
    idxOf_reverse_lt_iff hnodup (List.mem_map_of_mem hv) (List.mem_map_of_mem hu)]

theorem append_of_made {b : Bundle} {d d₁ : Disk}
    (h : Disk.makeDirectories b.directory d = .ok () d₁) (bytes : List UInt8) :
    b.append bytes d = Disk.appendFile b.file bytes d₁ := by
  simp only [append, bind, EStateM.bind, h]

theorem append_of_unmade {b : Bundle} {d d₁ : Disk} {e : FileError}
    (h : Disk.makeDirectories b.directory d = .error e d₁) (bytes : List UInt8) :
    b.append bytes d = .error e d₁ := by
  simp only [append, bind, EStateM.bind, h]

/-- An append adds its bytes to the end of one file, which is new or already there. -/
theorem append_eq_ok {b : Bundle} {bytes : List UInt8} {d d' : Disk}
    (h : b.append bytes d = .ok () d') : ∃ l old, d'.get? l = some (.file (old ++ bytes)) := by
  cases hmade : Disk.makeDirectories b.directory d with
  | error e d₁ =>
    rw [append_of_unmade hmade] at h
    cases h
  | ok _ d₁ =>
    rw [append_of_made hmade] at h
    unfold Disk.appendFile at h
    split at h
    · cases h
    · rename_i l old d₂ hopen
      cases h
      refine ⟨l, old, ?_⟩
      rcases Disk.openFile_eq_ok hopen with ⟨hget, _⟩ | ⟨_, hl, _⟩
      · rw [Disk.get?_set (Disk.ne_nil_of_get?_file hget), if_pos rfl]
      · rw [Disk.get?_set hl, if_pos rfl]

/-- A writing that succeeds has appended the fragments of the store, last component first. -/
theorem write_eq_ok {b : Bundle} {s : Store} {d : Disk} {p : Path} (h : (b.write s d).result = .ok p) :
    b.append (s.records.reverse.flatMap fragmentBytes) d = .ok () (b.write s d).disk ∧
      ∃ e, (b.write s d).entries = [e] := by
  unfold write at h ⊢
  cases hfragments : fragments s with
  | error f =>
    rw [hfragments] at h
    cases h
  | ok fs =>
    simp only [hfragments, bytesOf_fragmentsOf hfragments] at h ⊢
    cases happend : b.append (s.records.reverse.flatMap fragmentBytes) d with
    | error e d' =>
      simp only [happend] at h
      split at h <;> cases h
    | ok _ d' => exact ⟨rfl, _, rfl⟩

end Bundle

end Bundler
