/-!
# Bundler.Text.Utf8

UTF-8. `encode` is total; `decode` reports the first place where the bytes are no encoded text.

* `Utf8.Fault`: what is wrong, the bytes concerned, and the message.
* `decode bs`: the characters of `bs`, or the first fault.
-/

namespace Bundler.Text.Utf8

inductive FaultKind where
  | startByte
  | continuationByte
  | truncated
deriving Repr, DecidableEq

/-- The first fault of a byte sequence: its kind, the place of its first byte, the number of bytes
that belong to it and the first of them. -/
structure Fault where
  kind : FaultKind
  start : Nat
  count : Nat
  byte : UInt8
deriving Repr, DecidableEq

def FaultKind.text : FaultKind → String
  | .startByte => "invalid start byte"
  | .continuationByte => "invalid continuation byte"
  | .truncated => "unexpected end of data"

def Fault.message (f : Fault) : String :=
  let place :=
    if f.count = 1 then
      "byte 0x" ++ String.ofList (hex f.byte.toNat) ++ " in position " ++ toString f.start
    else
      "bytes in position " ++ toString f.start ++ "-" ++ toString (f.start + f.count - 1)
  "'utf-8' codec can't decode " ++ place ++ ": " ++ f.kind.text
where
  hex (n : Nat) : List Char := [Nat.digitChar (n / 16), Nat.digitChar (n % 16)]

/-- What a lead byte announces: the number of bytes after it, the payload bits of the lead, and the
interval of the second byte. -/
structure Lead where
  owed : Nat
  bits : Nat
  low : Nat
  high : Nat

def lead? (b : Nat) : Option Lead :=
  if b < 0x80 then some ⟨0, b, 0, 0⟩
  else if 0xc2 ≤ b && b ≤ 0xdf then some ⟨1, b - 0xc0, 0x80, 0xbf⟩
  else if b = 0xe0 then some ⟨2, 0, 0xa0, 0xbf⟩
  else if b = 0xed then some ⟨2, 0xd, 0x80, 0x9f⟩
  else if 0xe1 ≤ b && b ≤ 0xef then some ⟨2, b - 0xe0, 0x80, 0xbf⟩
  else if b = 0xf0 then some ⟨3, 0, 0x90, 0xbf⟩
  else if 0xf1 ≤ b && b ≤ 0xf3 then some ⟨3, b - 0xf0, 0x80, 0xbf⟩
  else if b = 0xf4 then some ⟨3, 4, 0x80, 0x8f⟩
  else none

inductive Tail where
  | complete (code : Nat) (rest : List UInt8)
  /-- `taken` bytes fit and the next one does not. -/
  | broken (taken : Nat)
  /-- `taken` bytes fit and no byte follows. -/
  | ended (taken : Nat)

/-- Reads `owed` continuation bytes; the first must lie between `low` and `high`. -/
def readTail : (owed code taken low high : Nat) → List UInt8 → Tail
  | 0, code, _, _, _, bs => .complete code bs
  | _ + 1, _, taken, _, _, [] => .ended taken
  | owed + 1, code, taken, low, high, b :: bs =>
    if low ≤ b.toNat && b.toNat ≤ high then
      readTail owed (code * 64 + (b.toNat - 0x80)) (taken + 1) 0x80 0xbf bs
    else .broken taken

theorem readTail_length {owed code taken low high : Nat} {bs rest : List UInt8} {n : Nat}
    (h : readTail owed code taken low high bs = .complete n rest) : rest.length ≤ bs.length := by
  induction owed generalizing code taken low high bs with
  | zero =>
    simp only [readTail, Tail.complete.injEq] at h
    simp [h.2]
  | succ owed ih =>
    cases bs with
    | nil => simp [readTail] at h
    | cons b bs =>
      simp only [readTail] at h
      split at h
      · exact Nat.le_succ_of_le (ih h)
      · simp at h

def decodeFrom (place : Nat) (bs : List UInt8) : Except Fault (List Char) :=
  match bs with
  | [] => .ok []
  | b :: bs =>
    match lead? b.toNat with
    | none => .error ⟨.startByte, place, 1, b⟩
    | some l =>
      match h : readTail l.owed l.bits 1 l.low l.high bs with
      | .complete code rest =>
        match decodeFrom (place + l.owed + 1) rest with
        | .ok s => .ok (Char.ofNat code :: s)
        | .error f => .error f
      | .broken taken => .error ⟨.continuationByte, place, taken, b⟩
      | .ended taken => .error ⟨.truncated, place, taken, b⟩
termination_by bs.length
decreasing_by exact Nat.lt_succ_of_le (readTail_length h)

def decode (bs : List UInt8) : Except Fault (List Char) :=
  decodeFrom 0 bs

def encode (s : String) : List UInt8 :=
  s.toList.flatMap String.utf8EncodeChar

end Bundler.Text.Utf8
