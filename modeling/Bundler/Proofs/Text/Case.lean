import Bundler.Proofs.Text.Blank
import Bundler.Text.Case
import Mathlib.Data.List.Basic

/-!
# Bundler.Proofs.Text.Case

Upper case is final: no image has an upper case other than itself, and none is white space.

The tables are compared as sets of code points. A set is one number, whose bits are its members, so that
the images of all runs can be looked up in it by computation.

* `upperImages_apart`: the images lie apart from the code points that are moved and from white space.
* `upper_upper`: upper case taken twice.
* `trimWhite_upper`: upper case leaves a text without white space around it as such.
-/

namespace Bundler.Text

/-! ## Sets of code points -/

/-- The number with the bits in a list. -/
def bits (ns : List Nat) : Nat :=
  ns.foldr (fun n m => m ||| 1 <<< n) 0

theorem testBit_bits_of_mem {ns : List Nat} {n : Nat} (h : n ∈ ns) : (bits ns).testBit n = true := by
  induction ns with
  | nil => cases h
  | cons x ns ih =>
    rw [bits, List.foldr_cons, ← bits, Nat.testBit_or, Bool.or_eq_true]
    rcases List.mem_cons.1 h with rfl | h
    · exact .inr (by simp [Nat.one_shiftLeft, Nat.testBit_two_pow_self])
    · exact .inl (ih h)

/-- The code points that a run moves. -/
def CaseRun.codes (r : CaseRun) : List Nat :=
  (List.range ((r.last - r.first) / r.step + 1)).map fun i => r.first + i * r.step

/-- The code points that have an upper case other than themselves. -/
def movedCodes : List Nat :=
  upperRuns.flatMap CaseRun.codes ++ upperExpansions.map Prod.fst

/-- The code points of upper cases. -/
def upperImages : List Nat :=
  upperRuns.flatMap (fun r => r.codes.map fun (n : Nat) => ((n : Int) + r.offset).toNat) ++
    upperExpansions.flatMap Prod.snd

/-- The code points of white space. -/
def whiteCodes : List Nat :=
  [9, 10, 11, 12, 13, 0x20, 0x85, 0xa0, 0x1680, 0x2000, 0x2001, 0x2002, 0x2003, 0x2004, 0x2005,
    0x2006, 0x2007, 0x2008, 0x2009, 0x200a, 0x2028, 0x2029, 0x202f, 0x205f, 0x3000]

theorem mem_whiteCodes {c : Char} (h : isWhite c = true) : c.toNat ∈ whiteCodes := by
  simp only [isWhite, Bool.or_eq_true, Bool.and_eq_true, decide_eq_true_eq, beq_iff_eq] at h
  simp only [whiteCodes, List.mem_cons, List.not_mem_nil, or_false]
  omega

theorem mem_codes_of_find? {n : Nat} {r : CaseRun} (hfirst : r.first ≤ n) (hlast : n ≤ r.last)
    (hstep : (n - r.first) % r.step = 0) : n ∈ r.codes := by
  rw [CaseRun.codes, List.mem_map]
  refine ⟨(n - r.first) / r.step, List.mem_range.2 ?_, ?_⟩
  · exact Nat.lt_succ_of_le (Nat.div_le_div_right (by omega))
  · have := Nat.div_add_mod (n - r.first) r.step
    rw [Nat.mul_comm] at this
    omega

/-- Zero stands for an image that is no character. -/
theorem upperImages_apart :
    ((0 :: upperImages).all fun n => !(bits (whiteCodes ++ movedCodes)).testBit n) = true := by
  decide +kernel

theorem notMem_of_mem_upperImages {n : Nat} (h : n ∈ 0 :: upperImages) :
    n ∉ whiteCodes ∧ n ∉ movedCodes := by
  have hbit := List.all_eq_true.1 upperImages_apart n h
  have hnot : n ∉ whiteCodes ++ movedCodes := by
    intro hmem
    rw [testBit_bits_of_mem hmem] at hbit
    cases hbit
  rwa [List.mem_append, not_or] at hnot

/-! ## Characters -/

theorem image?_eq_some {runs : List CaseRun} {n : Nat} {x : Char}
    (h : CaseRun.image? runs n = some x) :
    ∃ r ∈ runs, n ∈ r.codes ∧ x = Char.ofNat ((n : Int) + r.offset).toNat := by
  unfold CaseRun.image? at h
  split at h
  · rename_i r hr
    cases h
    have hfound := List.find?_some hr
    simp only [Bool.and_eq_true, decide_eq_true_eq, beq_iff_eq] at hfound
    exact ⟨r, List.mem_of_find?_eq_some hr, mem_codes_of_find? hfound.1.1 hfound.1.2 hfound.2, rfl⟩
  · cases h

/-- A code point outside the tables is its own upper case. -/
theorem upperChar_of_notMem {c : Char} (h : c.toNat ∉ movedCodes) : upperChar c = [c] := by
  rw [movedCodes, List.mem_append, not_or] at h
  have hlookup : upperExpansions.lookup c.toNat = none := by
    rw [List.lookup_eq_none_iff]
    intro p hp
    rw [bne_iff_ne]
    exact fun heq => h.2 (List.mem_map.2 ⟨p, hp, heq.symm⟩)
  have himage : CaseRun.image? upperRuns c.toNat = none := by
    cases himage : CaseRun.image? upperRuns c.toNat with
    | none => rfl
    | some x =>
      obtain ⟨r, hr, hcode, _⟩ := image?_eq_some himage
      exact absurd (List.mem_flatMap.2 ⟨r, hr, hcode⟩) h.1
  simp [upperChar, hlookup, himage]

theorem toNat_ofNat_mem {n : Nat} (h : n ∈ upperImages) : (Char.ofNat n).toNat ∈ 0 :: upperImages := by
  by_cases hn : n.isValidChar
  · rw [Char.ofNat, dif_pos hn]
    exact List.mem_cons_of_mem _ h
  · -- a number that is no code point becomes the character zero
    rw [Char.ofNat, dif_neg hn]
    exact List.mem_cons_self

/-- An upper case is the character itself, or one of the images in the tables. -/
theorem eq_or_mem_of_mem_upperChar {c x : Char} (h : x ∈ upperChar c) :
    x = c ∧ upperChar c = [c] ∨ x.toNat ∈ 0 :: upperImages := by
  unfold upperChar at h ⊢
  cases hlookup : upperExpansions.lookup c.toNat with
  | some ns =>
    rw [hlookup] at h
    obtain ⟨n, hn, rfl⟩ := List.mem_map.1 h
    obtain ⟨xs, ys, hxs, _⟩ := List.lookup_eq_some_iff.1 hlookup
    refine .inr (toNat_ofNat_mem (List.mem_append_right _ (List.mem_flatMap.2 ⟨(c.toNat, ns), ?_, hn⟩)))
    rw [hxs]
    exact List.mem_append_right _ List.mem_cons_self
  | none =>
    rw [hlookup] at h
    have hx := List.mem_singleton.1 h
    cases himage : CaseRun.image? upperRuns c.toNat with
    | some y =>
      rw [himage, Option.getD_some] at hx
      obtain ⟨r, hr, hcode, hy⟩ := image?_eq_some himage
      rw [hx, hy]
      exact .inr (toNat_ofNat_mem (List.mem_append_left _
        (List.mem_flatMap.2 ⟨r, hr, List.mem_map.2 ⟨_, hcode, rfl⟩⟩)))
    | none =>
      rw [himage, Option.getD_none] at hx
      exact .inl ⟨hx, rfl⟩

theorem upperChar_of_mem_upperChar {c x : Char} (h : x ∈ upperChar c) : upperChar x = [x] := by
  rcases eq_or_mem_of_mem_upperChar h with ⟨rfl, hfixed⟩ | himage
  · exact hfixed
  · exact upperChar_of_notMem (notMem_of_mem_upperImages himage).2

theorem not_isWhite_of_mem_upperChar {c x : Char} (hc : isWhite c = false) (h : x ∈ upperChar c) :
    isWhite x = false := by
  rcases eq_or_mem_of_mem_upperChar h with ⟨rfl, _⟩ | himage
  · exact hc
  · rw [Bool.eq_false_iff]
    exact fun hwhite => (notMem_of_mem_upperImages himage).1 (mem_whiteCodes hwhite)

theorem upperChar_ne_nil (c : Char) : upperChar c ≠ [] := by
  have hexpansions : ∀ p ∈ upperExpansions, p.2 ≠ [] := by decide
  unfold upperChar
  cases hlookup : upperExpansions.lookup c.toNat with
  | none => simp
  | some ns =>
    obtain ⟨xs, ys, hxs, _⟩ := List.lookup_eq_some_iff.1 hlookup
    have hns := hexpansions (c.toNat, ns) (by rw [hxs]; exact List.mem_append_right _ List.mem_cons_self)
    simpa using hns

/-! ## Texts -/

theorem upper_upper (s : String) : upper (upper s) = upper s := by
  rw [upper, upper, String.toList_ofList, List.flatMap_assoc]
  congr 1
  refine List.flatMap_congr fun c _ => ?_
  rw [List.flatMap_congr fun x hx => upperChar_of_mem_upperChar hx, List.flatMap_singleton']

theorem head?_flatMap_mem {s : List Char} {x : Char} (h : x ∈ (s.flatMap upperChar).head?) :
    ∃ c ∈ s.head?, x ∈ upperChar c := by
  cases s with
  | nil => simp at h
  | cons c s =>
    refine ⟨c, rfl, ?_⟩
    cases hc : upperChar c with
    | nil => exact absurd hc (upperChar_ne_nil c)
    | cons y ys =>
      rw [List.flatMap_cons, hc] at h
      cases h
      exact List.mem_cons_self

theorem getLast?_flatMap_mem {s : List Char} {x : Char} (h : x ∈ (s.flatMap upperChar).getLast?) :
    ∃ c ∈ s.getLast?, x ∈ upperChar c := by
  rcases List.eq_nil_or_concat s with rfl | ⟨s, c, rfl⟩
  · simp at h
  · refine ⟨c, by simp, ?_⟩
    rw [List.concat_eq_append, List.flatMap_append, List.flatMap_singleton, List.getLast?_append] at h
    cases hc : (upperChar c).getLast? with
    | none => exact absurd (List.getLast?_eq_none_iff.1 hc) (upperChar_ne_nil c)
    | some y =>
      rw [hc] at h
      cases h
      exact List.mem_of_getLast? hc

theorem trimWhite_upper {s : String} (h : trimWhite s = s) : trimWhite (upper s) = upper s := by
  have hs : trim isWhite s.toList = s.toList := by
    have := congrArg String.toList h
    rwa [trimWhite, String.toList_ofList] at this
  have hhead := not_of_mem_head?_trim (p := isWhite) (s := s.toList)
  have hlast := not_of_mem_getLast?_trim (p := isWhite) (s := s.toList)
  rw [hs] at hhead hlast
  rw [trimWhite, upper, String.toList_ofList, trim_eq_self]
  · intro x hx
    obtain ⟨c, hc, hx⟩ := head?_flatMap_mem hx
    exact not_isWhite_of_mem_upperChar (hhead c hc) hx
  · intro x hx
    obtain ⟨c, hc, hx⟩ := getLast?_flatMap_mem hx
    exact not_isWhite_of_mem_upperChar (hlast c hc) hx

end Bundler.Text
