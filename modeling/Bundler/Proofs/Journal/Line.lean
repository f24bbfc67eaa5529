import Bundler.Journal.Line
import Bundler.Proofs.Text.Lines
import Bundler.Proofs.Text.Utf8
import Mathlib.Tactic.Common

/-!
# Bundler.Proofs.Journal.Line

The lines of the journal. Whatever the fields of an entry are, its line is one object in printable
ASCII characters with a line feed after it, so that it is one line however texts are cut into lines.

* `IsPlain`: printable ASCII text.
* `plain_write`: the text of every value is plain.
* `isLine_line`: the form of a line.
-/

namespace Bundler

namespace Text

/-- Text of printable ASCII characters. -/
def IsPlain (s : List Char) : Prop :=
  ∀ c ∈ s, 0x20 ≤ c.toNat ∧ c.toNat < 0x7f

-- the list is searched; characters have a decision by enumeration of all of them as well
instance (s : List Char) : Decidable (IsPlain s) :=
  List.decidableBAll _ s

theorem plain_nil : IsPlain [] := by
  intro c hc
  cases hc

theorem plain_append {s t : List Char} (hs : IsPlain s) (ht : IsPlain t) : IsPlain (s ++ t) := by
  intro c hc
  rcases List.mem_append.1 hc with hc | hc
  · exact hs c hc
  · exact ht c hc

theorem plain_cons {c : Char} {s : List Char} (hc : 0x20 ≤ c.toNat ∧ c.toNat < 0x7f)
    (hs : IsPlain s) : IsPlain (c :: s) := by
  intro x hx
  rcases List.mem_cons.1 hx with rfl | hx
  · exact hc
  · exact hs x hx

theorem IsPlain.of_subset {s t : List Char} (ht : IsPlain t) (h : s ⊆ t) : IsPlain s :=
  fun c hc => ht c (h hc)

theorem IsPlain.not_isLineEnd {s : List Char} (h : IsPlain s) : ∀ c ∈ s, isLineEnd c = false := by
  intro c hc
  have hplain := h c hc
  simp only [isLineEnd, Bool.or_eq_false_iff, Bool.and_eq_false_iff, decide_eq_false_iff_not,
    beq_eq_false_iff_ne]
  omega

theorem plain_replicate_zero (n : Nat) : IsPlain (List.replicate n '0') := by
  intro c hc
  rw [List.eq_of_mem_replicate hc]
  decide

theorem plain_flatMap {α : Type} {f : α → List Char} {xs : List α} (h : ∀ x ∈ xs, IsPlain (f x)) :
    IsPlain (xs.flatMap f) := by
  intro c hc
  obtain ⟨x, hx, hc⟩ := List.mem_flatMap.1 hc
  exact h x hx c hc

theorem plain_intercalate {sep : String} {xs : List String} (hsep : IsPlain sep.toList)
    (hxs : ∀ x ∈ xs, IsPlain x.toList) : IsPlain (String.intercalate sep xs).toList := by
  induction xs with
  | nil =>
    rw [String.intercalate_nil]
    exact plain_nil
  | cons x xs ih =>
    cases xs with
    | nil =>
      rw [String.intercalate_singleton]
      exact hxs x List.mem_cons_self
    | cons y ys =>
      rw [String.intercalate_cons_cons, String.toList_append, String.toList_append]
      refine plain_append (plain_append (hxs x List.mem_cons_self) hsep) (ih ?_)
      exact fun z hz => hxs z (List.mem_cons_of_mem _ hz)

/-! ## Digits -/

theorem plain_digitChar (n : Nat) : 0x20 ≤ n.digitChar.toNat ∧ n.digitChar.toNat < 0x7f := by
  by_cases h : n < 16
  · revert n
    decide
  · rw [Nat.digitChar_eq_star.2 (by omega)]
    decide

theorem plain_toDigitsCore (base : Nat) :
    ∀ {fuel n : Nat} {ds : List Char}, IsPlain ds → IsPlain (Nat.toDigitsCore base fuel n ds) := by
  intro fuel
  induction fuel with
  | zero =>
    intro n ds hds
    exact hds
  | succ fuel ih =>
    intro n ds hds
    rw [Nat.toDigitsCore]
    split
    · exact plain_cons (plain_digitChar _) hds
    · exact ih (plain_cons (plain_digitChar _) hds)

theorem plain_toDigits (base n : Nat) : IsPlain (Nat.toDigits base n) :=
  plain_toDigitsCore base plain_nil

theorem plain_hexDigits (width n : Nat) : IsPlain (hexDigits width n) :=
  plain_append (plain_replicate_zero _) (plain_toDigits 16 n)

theorem plain_int (n : Int) : IsPlain (toString n).toList := by
  rw [Int.toString_eq_repr, Int.repr_eq_if]
  split
  · rw [Nat.toList_repr]
    exact plain_toDigits 10 _
  · rw [String.toList_append, Nat.toList_repr]
    exact plain_append (by decide) (plain_toDigits 10 _)

end Text

open Text

/-! ## Numbers with a fraction -/

namespace Number

theorem plain_digits_search (m : Nat) (e point : Int) :
    ∀ (tries digits : Nat), IsPlain (search m e point digits tries).digits := by
  intro tries
  induction tries with
  | zero =>
    intro digits
    exact plain_toDigits 10 _
  | succ tries ih =>
    intro digits
    rw [search]
    split
    · exact plain_toDigits 10 _
    · exact ih _

theorem plain_digits_shortest (m : Nat) (e : Int) : IsPlain (shortest m e).digits := by
  refine (plain_digits_search m e (decimalPoint m e) 17 1).of_subset ?_
  intro c hc
  rw [shortest, List.mem_reverse] at hc
  exact List.mem_reverse.1 ((List.dropWhile_sublist _).subset hc)

theorem Layout.plain_write (l : Layout) {d : Decimal} (hd : IsPlain d.digits) :
    IsPlain (l.write d) := by
  have hexponent : ∀ n, IsPlain (l.exponentText n) := by
    intro n
    refine plain_cons ?_ (plain_append (plain_replicate_zero _) (plain_toDigits 10 _))
    split <;> decide
  unfold Layout.write
  split
  · split
    · exact plain_cons (by decide) (plain_cons (by decide)
        (plain_append (plain_replicate_zero _) hd))
    · simp only
      split
      · exact plain_append (plain_append hd (plain_replicate_zero _)) (by decide)
      · exact plain_append (hd.of_subset (List.take_subset _ _))
          (plain_cons (by decide) (hd.of_subset (List.drop_subset _ _)))
  · refine plain_append ?_ (plain_cons (by decide) (hexponent _))
    split
    · rename_i c c' cs hds
      rw [hds] at hd
      exact plain_cons (hd c (by simp)) (plain_cons (by decide)
        (hd.of_subset (List.subset_cons_self _ _)))
    · exact hd

theorem Binary64.plain_text (x : Binary64) : IsPlain x.text.toList := by
  cases x with
  | nan => decide
  | infinite negative => cases negative <;> decide
  | finite negative m e =>
    have hbody : IsPlain (if m = 0 then ['0', '.', '0'] else plainLayout.write (shortest m e)) := by
      split
      · decide
      · exact plainLayout.plain_write (plain_digits_shortest m e)
    simp only [Binary64.text, String.toList_ofList]
    split
    · exact plain_cons (by decide) hbody
    · exact hbody

end Number

/-! ## Values -/

namespace Journal

namespace Json

theorem plain_escapeChar (c : Char) : IsPlain (escapeChar c) := by
  unfold escapeChar
  split
  · rename_i letter h
    have hletter : letter ∈ escapes.map Prod.snd := by
      rw [List.lookup_eq_some_iff] at h
      obtain ⟨before, after, he, _⟩ := h
      rw [he]
      simp
    have hplain : IsPlain (escapes.map Prod.snd) := by decide
    exact plain_cons (by decide) (plain_cons (hplain letter hletter) plain_nil)
  · have hunit : ∀ n, IsPlain (unitEscape n) := fun n =>
      plain_cons (by decide) (plain_cons (by decide) (plain_hexDigits 4 n))
    simp only
    split
    · rename_i hc
      simp only [Bool.and_eq_true, decide_eq_true_eq] at hc
      exact plain_cons (by omega) plain_nil
    · split
      · exact hunit _
      · exact plain_append (hunit _) (hunit _)

theorem plain_string (s : String) : IsPlain (string s).toList := by
  rw [string, String.toList_ofList]
  exact plain_cons (by decide)
    (plain_append (plain_flatMap fun c _ => plain_escapeChar c) (by decide))

theorem plain_number (x : Number.Binary64) : IsPlain (number x).toList := by
  unfold number
  split
  · decide
  · split <;> decide
  · exact x.plain_text

/-- The text of an object between its braces. -/
def objectBody (fs : List (String × String)) : String :=
  String.intercalate ", " ((sortFields fs).map fun p => string p.1 ++ ": " ++ p.2)

theorem toList_object (fs : List (String × String)) :
    (object fs).toList = '{' :: ((objectBody fs).toList ++ ['}']) := by
  simp [object, objectBody, String.toList_append]

theorem plain_objectBody {fs : List (String × String)} (h : ∀ p ∈ fs, IsPlain p.2.toList) :
    IsPlain (objectBody fs).toList := by
  refine plain_intercalate (by decide) fun x hx => ?_
  obtain ⟨p, hp, rfl⟩ := List.mem_map.1 hx
  rw [String.toList_append, String.toList_append]
  refine plain_append (plain_append (plain_string _) (by decide)) (h p ?_)
  exact (List.mergeSort_perm fs _).mem_iff.1 hp

theorem plain_object {fs : List (String × String)} (h : ∀ p ∈ fs, IsPlain p.2.toList) :
    IsPlain (object fs).toList := by
  rw [toList_object]
  exact plain_cons (by decide) (plain_append (plain_objectBody h) (by decide))

mutual

/-- The text of every value is plain. -/
theorem plain_write : ∀ v : Value, IsPlain (write v).toList
  | .null => by
    rw [write]
    decide
  | .bool b => by
    rw [write]
    cases b <;> decide
  | .int n => by
    rw [write]
    exact plain_int n
  | .float x => by
    rw [write]
    exact plain_number x
  | .str s => by
    rw [write]
    exact plain_string s
  | .moment m => by
    rw [write]
    exact plain_string _
  | .list xs => by
    rw [write, String.toList_append, String.toList_append]
    exact plain_append (plain_append (by decide) (plain_intercalate (by decide) (plain_writeList xs)))
      (by decide)
  | .table fs => by
    rw [write]
    exact plain_object (plain_writeFields fs)

theorem plain_writeList : ∀ (vs : List Value), ∀ x ∈ writeList vs, IsPlain x.toList
  | [] => by simp [writeList]
  | v :: vs => by
    intro x hx
    rw [writeList, List.mem_cons] at hx
    rcases hx with rfl | hx
    · exact plain_write v
    · exact plain_writeList vs x hx

theorem plain_writeFields : ∀ (fs : List (String × Value)), ∀ p ∈ writeFields fs, IsPlain p.2.toList
  | [] => by simp [writeFields]
  | (k, v) :: fs => by
    intro p hp
    rw [writeFields, List.mem_cons] at hp
    rcases hp with rfl | hp
    · exact plain_write v
    · exact plain_writeFields fs p hp

end

end Json

/-- One line of a journal: an object in plain text and a line feed. -/
def IsLine (line : List Char) : Prop :=
  ∃ body, line = '{' :: body ++ ['\n'] ∧ IsPlain ('{' :: body)

theorem isLine_line (timestamp : String) (e : Entry) : IsLine (e.line timestamp).toList := by
  rw [Entry.line, fieldsLine, Json.write, String.toList_append, Json.toList_object]
  refine ⟨_, rfl, ?_⟩
  rw [← Json.toList_object]
  exact Json.plain_object (Json.plain_writeFields _)

theorem IsLine.isAscii {line : List Char} (h : IsLine line) : Utf8.IsAscii line := by
  obtain ⟨body, rfl, hplain⟩ := h
  intro c hc
  rcases List.mem_append.1 hc with hc | hc
  · have := hplain c hc
    omega
  · rw [List.mem_singleton.1 hc]
    decide

/-- A line holds no carriage return and begins with none, so it comes through as it is. -/
theorem IsLine.unifyNewlines_append {line : List Char} (h : IsLine line) (cs : List Char) :
    unifyNewlines (cs ++ line) = unifyNewlines cs ++ line := by
  obtain ⟨body, rfl, hplain⟩ := h
  refine Text.unifyNewlines_append ?_ ?_ cs
  · intro hcr
    rcases List.mem_append.1 hcr with hcr | hcr
    · have := hplain _ hcr
      simp at this
    · simp at hcr
  · intro t ht
    cases ht

end Journal

end Bundler
