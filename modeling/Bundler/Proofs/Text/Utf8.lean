import Bundler.Text.Utf8
import Mathlib.Tactic.Common

/-!
# Bundler.Proofs.Text.Utf8

Decoding when ASCII text is added at the end. An ASCII byte continues no character, so the bytes before
it are text or not whatever follows.

* `decode_append_ascii`: what is added is decoded as itself, after what was there.
-/

namespace Bundler.Text.Utf8

/-- The bytes of characters one after the other. -/
def encodeChars (s : List Char) : List UInt8 :=
  s.flatMap String.utf8EncodeChar

def IsAscii (s : List Char) : Prop :=
  ∀ c ∈ s, c.toNat < 0x80

theorem encodeChar_ascii {c : Char} (h : c.toNat < 0x80) :
    String.utf8EncodeChar c = [UInt8.ofNat c.toNat] := by
  have hsize : c.utf8Size = 1 := by
    rw [Char.utf8Size_eq_one_iff]
    exact UInt32.le_iff_toNat_le.2 (Nat.le_of_lt_succ h)
  rw [String.utf8EncodeChar_eq_singleton hsize]
  rfl

theorem encodeChars_cons {c : Char} (h : c.toNat < 0x80) (s : List Char) :
    encodeChars (c :: s) = UInt8.ofNat c.toNat :: encodeChars s := by
  simp [encodeChars, encodeChar_ascii h]

theorem toNat_ofNat_ascii {c : Char} (h : c.toNat < 0x80) : (UInt8.ofNat c.toNat).toNat = c.toNat := by
  rw [UInt8.toNat_ofNat']
  exact Nat.mod_eq_of_lt (by omega)

theorem decodeFrom_cons_ascii {c : Char} (h : c.toNat < 0x80) (place : Nat) (bs : List UInt8) :
    decodeFrom place (UInt8.ofNat c.toNat :: bs) = (decodeFrom (place + 1) bs).map (c :: ·) := by
  have hlead : lead? (UInt8.ofNat c.toNat).toNat = some ⟨0, c.toNat, 0, 0⟩ := by
    rw [toNat_ofNat_ascii h, lead?, if_pos h]
  rw [decodeFrom, hlead]
  simp only [readTail, Char.ofNat_toNat]
  cases decodeFrom (place + 1) bs <;> rfl

theorem decodeFrom_encodeChars {s : List Char} (hs : IsAscii s) (place : Nat) :
    decodeFrom place (encodeChars s) = .ok s := by
  induction s generalizing place with
  | nil => rw [encodeChars, List.flatMap_nil, decodeFrom]
  | cons c s ih =>
    have hc : c.toNat < 0x80 := hs c List.mem_cons_self
    rw [encodeChars_cons hc, decodeFrom_cons_ascii hc, ih fun x hx => hs x (List.mem_cons_of_mem _ hx)]
    rfl

/-! ## The bytes after a lead byte -/

theorem low_of_lead? {b : Nat} {l : Lead} (h : lead? b = some l) (howed : l.owed ≠ 0) :
    0x80 ≤ l.low := by
  unfold lead? at h
  repeat' split at h
  all_goals cases h
  all_goals simp_all

theorem readTail_append_complete {owed code taken low high n : Nat} {bs rest : List UInt8}
    (h : readTail owed code taken low high bs = .complete n rest) (more : List UInt8) :
    readTail owed code taken low high (bs ++ more) = .complete n (rest ++ more) := by
  induction owed generalizing code taken low high bs with
  | zero =>
    simp only [readTail, Tail.complete.injEq] at h ⊢
    exact ⟨h.1, by rw [h.2]⟩
  | succ owed ih =>
    cases bs with
    | nil => simp [readTail] at h
    | cons b bs =>
      simp only [readTail, List.cons_append] at h ⊢
      split at h
      · rename_i hb
        rw [if_pos hb]
        exact ih h
      · cases h

/-- ASCII bytes do not complete a character that the bytes before them leave open. -/
theorem readTail_append_ascii {owed code taken low high : Nat} {bs : List UInt8} {t : List Char}
    (ht : IsAscii t) (hlow : owed ≠ 0 → 0x80 ≤ low)
    (h : ∀ n rest, readTail owed code taken low high bs ≠ .complete n rest) :
    ∀ n rest, readTail owed code taken low high (bs ++ encodeChars t) ≠ .complete n rest := by
  induction owed generalizing code taken low high bs with
  | zero => exact absurd rfl (h code bs)
  | succ owed ih =>
    intro n rest
    cases bs with
    | nil =>
      cases t with
      | nil => simp [encodeChars, readTail]
      | cons c t =>
        have hc : c.toNat < 0x80 := ht c List.mem_cons_self
        have hlow := hlow (Nat.succ_ne_zero owed)
        rw [List.nil_append, encodeChars_cons hc, readTail, toNat_ofNat_ascii hc, if_neg]
        · simp
        · simp only [Bool.and_eq_true, decide_eq_true_eq, not_and]
          omega
    | cons b bs =>
      simp only [readTail, List.cons_append] at h ⊢
      split
      · rename_i hb
        simp only [hb, ite_true] at h
        exact ih (fun _ => Nat.le_refl _) h n rest
      · simp

/-! ## Whole texts -/

theorem decodeFrom_cons_eq_ok_iff {place : Nat} {b : UInt8} {bs : List UInt8} {cs : List Char} :
    decodeFrom place (b :: bs) = .ok cs ↔
      ∃ l code rest s, lead? b.toNat = some l ∧
        readTail l.owed l.bits 1 l.low l.high bs = .complete code rest ∧
        decodeFrom (place + l.owed + 1) rest = .ok s ∧ cs = Char.ofNat code :: s := by
  rw [decodeFrom]
  cases hlead : lead? b.toNat with
  | none => simp
  | some l =>
    simp only [Option.some.injEq, exists_and_left, exists_eq_left']
    split
    · rename_i code rest htail
      simp only [htail, Tail.complete.injEq]
      cases hrest : decodeFrom (place + l.owed + 1) rest with
      | ok s =>
        simp only [Except.ok.injEq]
        constructor
        · rintro rfl
          exact ⟨code, rest, ⟨rfl, rfl⟩, s, hrest, rfl⟩
        · rintro ⟨_, _, ⟨rfl, rfl⟩, s', hs', rfl⟩
          rw [hrest] at hs'
          cases hs'
          rfl
      | error f =>
        simp only [reduceCtorEq, false_iff]
        rintro ⟨_, _, ⟨rfl, rfl⟩, s', hs', _⟩
        rw [hrest] at hs'
        cases hs'
    · rename_i htail
      simp [htail]
    · rename_i htail
      simp [htail]

theorem decodeFrom_append_ascii {t : List Char} (ht : IsAscii t) (place : Nat) (bs : List UInt8)
    (cs : List Char) :
    decodeFrom place (bs ++ encodeChars t) = .ok cs ↔
      ∃ cs', decodeFrom place bs = .ok cs' ∧ cs = cs' ++ t := by
  -- a character takes at least its lead byte, so the bytes after it are fewer
  induction hn : bs.length using Nat.strongRecOn generalizing place bs cs with
  | ind n ih =>
  cases bs with
  | nil =>
    rw [List.nil_append, decodeFrom_encodeChars ht, decodeFrom]
    simp [eq_comm]
  | cons b bs =>
    rw [List.cons_append, decodeFrom_cons_eq_ok_iff]
    simp only [decodeFrom_cons_eq_ok_iff]
    constructor
    · rintro ⟨l, code, rest, s, hlead, htail, hs, rfl⟩
      have hcomplete : ∃ n r, readTail l.owed l.bits 1 l.low l.high bs = .complete n r := by
        by_contra hnone
        push Not at hnone
        exact readTail_append_ascii ht (low_of_lead? hlead) hnone code rest htail
      obtain ⟨code', rest', htail'⟩ := hcomplete
      rw [readTail_append_complete htail'] at htail
      cases htail
      have hlt : rest'.length < n := by
        have := readTail_length htail'
        rw [← hn, List.length_cons]
        omega
      obtain ⟨s', hs', rfl⟩ := (ih _ hlt _ _ _ rfl).1 hs
      exact ⟨_, ⟨l, code, rest', s', hlead, htail', hs', rfl⟩, rfl⟩
    · rintro ⟨_, ⟨l, code, rest, s, hlead, htail, hs, rfl⟩, rfl⟩
      have hlt : rest.length < n := by
        have := readTail_length htail
        rw [← hn, List.length_cons]
        omega
      refine ⟨l, code, rest ++ encodeChars t, s ++ t, hlead, readTail_append_complete htail _, ?_, rfl⟩
      exact (ih _ hlt _ _ _ rfl).2 ⟨s, hs, rfl⟩

/-- Bytes with ASCII text after them are text exactly when they are text alone. -/
theorem decode_append_ascii {t : List Char} (ht : IsAscii t) (bs : List UInt8) (cs : List Char) :
    decode (bs ++ encodeChars t) = .ok cs ↔ ∃ cs', decode bs = .ok cs' ∧ cs = cs' ++ t :=
  decodeFrom_append_ascii ht 0 bs cs

end Bundler.Text.Utf8
