import Bundler.Path
import Mathlib.Data.List.Basic

/-!
# Bundler.Proofs.Path

Normal forms of paths. A list of parts climbs some levels up from where it is read and goes down from
there along names; read below an anchored path it does the same, as far as there are levels.

* `exists_climb`: the levels and the names of a list of parts.
* `notMem_foldl_pushPart`: the parts of an anchored path leave no double dot on the stack.
* `Path.leadsOut`: a path without anchor climbs at least one level.
* `normalize_append_climb`: a path without anchor, read below a root in normal form.
* `Path.IsInner`: a path without anchor that has no double dot.
* `normalize_append_of_not_leadsOut`: normal forms commute with roots, for a path that does not lead out.
* `exists_not_isBelow`: a path that leads out leaves some root.
* `size_text_ofParts`: the size of a full path.
* `IsFileName.ofString_eq`: a name without slashes is one part.
-/

namespace Bundler

theorem Text.fields_of_notMem {p : Char → Bool} {s : List Char} (h : ∀ c ∈ s, p c = false) :
    Text.fields p s = [s] := by
  induction s with
  | nil => rfl
  | cons c s ih =>
    rw [Text.fields, h c List.mem_cons_self, ih fun c' hc' => h c' (List.mem_cons_of_mem _ hc')]
    rfl

theorem Text.notMem_of_mem_fields {p : Char → Bool} {s w : List Char} (h : w ∈ Text.fields p s)
    {c : Char} (hc : p c = true) : c ∉ w := by
  induction s generalizing w with
  | nil =>
    rw [List.mem_singleton.1 h]
    exact List.not_mem_nil
  | cons d s ih =>
    simp only [Text.fields] at h
    split at h
    · rcases List.mem_cons.1 h with rfl | h
      · exact List.not_mem_nil
      · exact ih h
    · rename_i hd
      have hne : c ≠ d := by
        rintro rfl
        exact hd hc
      cases hf : Text.fields p s with
      | nil => exact absurd hf (Text.fields_ne_nil p s)
      | cons v vs =>
        rw [hf] at h ih
        rcases List.mem_cons.1 h with rfl | h
        · rw [List.mem_cons, not_or]
          exact ⟨hne, ih List.mem_cons_self⟩
        · exact ih (List.mem_cons_of_mem _ h)

/-- The slashes of an anchor are read as this anchor when no other slash comes after them. -/
theorem Anchor.ofChars_append {s : List Char} (h : s.head? ≠ some '/') (a : Anchor) :
    Anchor.ofChars (a.chars ++ s) = a := by
  cases s with
  | nil => cases a <;> rfl
  | cons c s =>
    have hc : c ≠ '/' := fun heq => h (congrArg some heq)
    cases a <;> simp [Anchor.ofChars, Anchor.chars, hc]

namespace Path

theorem pushPart_of_ne {part : String} (h : part ≠ "..") (anchored : Bool) (stack : List String) :
    pushPart anchored stack part = part :: stack :=
  if_neg h

/-- Names alone go onto the stack one after the other. -/
theorem foldl_pushPart_names {names : List String} (h : ".." ∉ names) (anchored : Bool)
    (stack : List String) :
    names.foldl (pushPart anchored) stack = names.reverse ++ stack := by
  induction names generalizing stack with
  | nil => rfl
  | cons name names ih =>
    rw [List.mem_cons, not_or] at h
    rw [List.foldl_cons, pushPart_of_ne (Ne.symm h.1), ih h.2, List.reverse_cons, List.append_assoc,
      List.singleton_append]

theorem pushPart_drop {stack : List String} (h : ".." ∉ stack) (k : Nat) :
    pushPart true (stack.drop k) ".." = stack.drop (k + 1) := by
  cases hdrop : stack.drop k with
  | nil =>
    rw [← List.tail_drop, hdrop]
    rfl
  | cons top below =>
    have htop : top ≠ ".." := by
      rintro rfl
      exact h (List.mem_of_mem_drop (hdrop ▸ List.mem_cons_self))
    rw [← List.tail_drop, hdrop]
    simp [pushPart, htop]

theorem pushPart_replicate (k : Nat) :
    pushPart false (List.replicate k "..") ".." = List.replicate (k + 1) ".." := by
  cases k with
  | zero => rfl
  | succ k => rfl

theorem foldl_pushPart_climb (parts : List String) {names : List String} (hnames : ".." ∉ names)
    (k : Nat) :
    ∃ names' k', ".." ∉ names' ∧
      parts.foldl (pushPart false) (names ++ List.replicate k "..") =
        names' ++ List.replicate k' ".." ∧
      ∀ stack : List String, ".." ∉ stack →
        parts.foldl (pushPart true) (names ++ stack.drop k) = names' ++ stack.drop k' := by
  -- both stacks have the same names on top; below them the levels climbed so far are written down, or
  -- have been taken away
  induction parts generalizing names k with
  | nil => exact ⟨names, k, hnames, rfl, fun _ _ => rfl⟩
  | cons part parts ih =>
    simp only [List.foldl_cons]
    by_cases hpart : part = ".."
    · subst hpart
      cases names with
      | nil =>
        obtain ⟨names', k', hnames', hrel, habs⟩ := ih hnames (k + 1)
        refine ⟨names', k', hnames', ?_, fun stack hstack => ?_⟩
        · rw [List.nil_append, pushPart_replicate]
          exact hrel
        · rw [List.nil_append, pushPart_drop hstack]
          exact habs stack hstack
      | cons top below =>
        rw [List.mem_cons, not_or] at hnames
        have hpop : ∀ (anchored : Bool) (rest : List String),
            pushPart anchored (top :: below ++ rest) ".." = below ++ rest := by
          intro anchored rest
          simp [pushPart, Ne.symm hnames.1]
        simp only [hpop]
        exact ih hnames.2 k
    · simp only [pushPart_of_ne hpart]
      have hnames' : ".." ∉ part :: names := by
        rw [List.mem_cons, not_or]
        exact ⟨Ne.symm hpart, hnames⟩
      exact ih hnames' k

/-- The levels that parts climb and the names that they go down, last name first. -/
theorem exists_climb (parts : List String) :
    ∃ names k, ".." ∉ names ∧
      parts.foldl (pushPart false) [] = names ++ List.replicate k ".." ∧
      ∀ stack : List String, ".." ∉ stack →
        parts.foldl (pushPart true) stack = names ++ stack.drop k := by
  obtain ⟨names, k, hnames, hrel, habs⟩ := foldl_pushPart_climb parts (List.not_mem_nil) 0
  exact ⟨names, k, hnames, hrel, habs⟩

/-- The stack of an anchored path never has a double dot. -/
theorem notMem_foldl_pushPart {stack : List String} (h : ".." ∉ stack) (parts : List String) :
    ".." ∉ parts.foldl (pushPart true) stack := by
  obtain ⟨names, k, hnames, _, hfold⟩ := exists_climb parts
  rw [hfold stack h, List.mem_append, not_or]
  exact ⟨hnames, fun hmem => h (List.mem_of_mem_drop hmem)⟩

/-- Whether a path leads out of the directory that it is read from. -/
def leadsOut (p : Path) : Bool :=
  !p.isAbsolute && p.normalize.parts.head? == some ".."

/-- A path without anchor leads out when it climbs. -/
theorem leadsOut_iff {q : Path} (hq : q.isAbsolute = false) {names : List String} {k : Nat}
    (hnames : ".." ∉ names)
    (h : q.parts.foldl (pushPart false) [] = names ++ List.replicate k "..") :
    q.leadsOut = true ↔ k ≠ 0 := by
  have hparts : q.normalize.parts = List.replicate k ".." ++ names.reverse := by
    rw [normalize, hq, h, List.reverse_append, List.reverse_replicate]
  rw [leadsOut, hq, hparts]
  cases k with
  | zero =>
    have hlast : names.getLast? ≠ some ".." := fun hsome => hnames (List.mem_of_getLast? hsome)
    simp [hlast]
  | succ k => simp [List.replicate_succ]

/-- Below an anchored path in normal form there is no double dot. -/
theorem notMem_parts_of_normalize {root : Path} (habs : root.isAbsolute = true)
    (hnormal : root.normalize = root) : ".." ∉ root.parts := by
  have hparts : root.parts = (root.parts.foldl (pushPart true) []).reverse := by
    rw [← habs]
    exact (congrArg Path.parts hnormal).symm
  rw [hparts, List.mem_reverse]
  exact notMem_foldl_pushPart List.not_mem_nil root.parts

theorem normalize_of_notMem {p : Path} (h : ".." ∉ p.parts) : p.normalize = p := by
  rw [normalize, foldl_pushPart_names h, List.append_nil, List.reverse_reverse]

theorem parts_append {q : Path} (hq : q.isAbsolute = false) (root : Path) :
    (root / q).parts = root.parts ++ q.parts ∧ (root / q).anchor = root.anchor := by
  have happend : root / q = ⟨root.anchor, root.parts ++ q.parts⟩ := by
    change append root q = _
    rw [append, hq]
    rfl
  rw [happend]
  exact ⟨rfl, rfl⟩

theorem div_left_cancel {root q q' : Path} (hq : q.isAbsolute = false) (hq' : q'.isAbsolute = false)
    (h : root / q = root / q') : q = q' := by
  have hparts := congrArg Path.parts h
  rw [(parts_append hq root).1, (parts_append hq' root).1, List.append_cancel_left_eq] at hparts
  obtain ⟨anchor, parts⟩ := q
  obtain ⟨anchor', parts'⟩ := q'
  rw [isAbsolute, bne_eq_false_iff_eq] at hq hq'
  simp only at hq hq' hparts
  rw [hq, hq', hparts]

theorem normalize_append_climb {q : Path} (hq : q.isAbsolute = false) {root : Path}
    (habs : root.isAbsolute = true) (hroot : ".." ∉ root.parts) {names : List String} {k : Nat}
    (h : ∀ stack : List String, ".." ∉ stack →
      q.parts.foldl (pushPart true) stack = names ++ stack.drop k) :
    (root / q).normalize = ⟨root.anchor, (root.parts.reverse.drop k).reverse ++ names.reverse⟩ := by
  obtain ⟨hparts, hanchor⟩ := parts_append hq root
  have habs' : (root / q).isAbsolute = true := by
    rw [isAbsolute, hanchor]
    exact habs
  rw [normalize, habs', hparts, hanchor, List.foldl_append, foldl_pushPart_names hroot,
    List.append_nil, h _ (fun hmem => hroot (List.mem_reverse.1 hmem)), List.reverse_append]

/-- The names that a path without anchor goes down when it does not lead out, last name first. -/
theorem exists_names_of_not_leadsOut {q : Path} (hq : q.isAbsolute = false)
    (hout : q.leadsOut = false) :
    ∃ names, ".." ∉ names ∧ q.normalize = ⟨q.anchor, names.reverse⟩ ∧
      ∀ stack : List String, ".." ∉ stack → q.parts.foldl (pushPart true) stack = names ++ stack := by
  obtain ⟨names, k, hnames, hrel, h⟩ := exists_climb q.parts
  have hk : k = 0 := by
    by_contra hne
    rw [(leadsOut_iff hq hnames hrel).2 hne] at hout
    cases hout
  subst hk
  rw [List.replicate_zero, List.append_nil] at hrel
  exact ⟨names, hnames, by rw [normalize, hq, hrel], h⟩

/-- A path that names a place below wherever it is read: it has no anchor and no double dot. -/
structure IsInner (p : Path) : Prop where
  relative : p.isAbsolute = false
  names : ".." ∉ p.parts

theorem isInner_normalize {q : Path} (hq : q.isAbsolute = false) (hout : q.leadsOut = false) :
    q.normalize.IsInner := by
  obtain ⟨names, hnames, hnormal, _⟩ := exists_names_of_not_leadsOut hq hout
  rw [hnormal]
  exact ⟨hq, fun hmem => hnames (List.mem_reverse.1 hmem)⟩

/-- A path that does not lead out may be brought to normal form before it is read below a root. -/
theorem normalize_append_of_not_leadsOut {q : Path} (hq : q.isAbsolute = false)
    (hout : q.leadsOut = false) {root : Path} (habs : root.isAbsolute = true)
    (hnormal : root.normalize = root) : (root / q).normalize = root / q.normalize := by
  obtain ⟨names, _, hq', h⟩ := exists_names_of_not_leadsOut hq hout
  obtain ⟨hparts, hanchor⟩ := parts_append (isInner_normalize hq hout).relative root
  rw [normalize_append_climb hq habs (notMem_parts_of_normalize habs hnormal) (k := 0) h,
    List.drop_zero, List.reverse_reverse]
  rw [hq'] at hparts hanchor ⊢
  rw [← hanchor, ← hparts]

theorem isBelow_append {q : Path} (hq : q.isAbsolute = false) (root : Path) :
    (root / q).isBelow root = true := by
  obtain ⟨hparts, hanchor⟩ := parts_append hq root
  rw [isBelow, hparts, hanchor]
  simp

/-- A path that does not lead out stays below the root that it is read from. -/
theorem isBelow_of_not_leadsOut {q : Path} (hq : q.isAbsolute = false) (hout : q.leadsOut = false)
    {root : Path} (habs : root.isAbsolute = true) (hnormal : root.normalize = root) :
    (root / q).normalize.isBelow root = true := by
  rw [normalize_append_of_not_leadsOut hq hout habs hnormal]
  exact isBelow_append (isInner_normalize hq hout).relative root

/-- A path that leads out leaves a root of one level with another name than the first one it goes
down. -/
theorem exists_not_isBelow {q : Path} (hq : q.isAbsolute = false) (hout : q.leadsOut = true) :
    ∃ root : Path, root.isAbsolute = true ∧ root.normalize = root ∧
      (root / q).normalize.isBelow root = false := by
  obtain ⟨names, k, hnames, hrel, h⟩ := exists_climb q.parts
  have hk : k ≠ 0 := (leadsOut_iff hq hnames hrel).1 hout
  obtain ⟨name, hname, hdots⟩ : ∃ name, names.reverse.head? ≠ some name ∧ name ≠ ".." := by
    by_cases ha : names.reverse.head? = some "a"
    · exact ⟨"b", by rw [ha]; decide, by decide⟩
    · exact ⟨"a", ha, by decide⟩
  have hroot : ".." ∉ (ofParts [name]).parts := by simpa [ofParts] using Ne.symm hdots
  refine ⟨ofParts [name], rfl, normalize_of_notMem hroot, ?_⟩
  rw [normalize_append_climb hq rfl hroot h]
  obtain ⟨k, rfl⟩ := Nat.exists_eq_succ_of_ne_zero hk
  cases hreverse : names.reverse with
  | nil => simp [isBelow, ofParts]
  | cons first rest =>
    rw [hreverse, List.head?_cons, ne_eq, Option.some.injEq] at hname
    simp [isBelow, ofParts, List.isPrefixOf, Ne.symm hname]

/-! ## Full paths -/

/-- The size of names, each with a slash in front of it. -/
def sizeOfParts : List String → Nat
  | [] => 0
  | name :: l => 1 + name.utf8ByteSize + sizeOfParts l

theorem sizeOfParts_append (l m : List String) :
    sizeOfParts (l ++ m) = sizeOfParts l + sizeOfParts m := by
  induction l with
  | nil => exact (Nat.zero_add _).symm
  | cons name l ih =>
    rw [List.cons_append, sizeOfParts, sizeOfParts, ih]
    omega

theorem sizeOfParts_replicate (n : Nat) (name : String) :
    sizeOfParts (List.replicate n name) = n * (1 + name.utf8ByteSize) := by
  induction n with
  | zero => exact (Nat.zero_mul _).symm
  | succ n ih =>
    rw [List.replicate_succ, sizeOfParts, ih, Nat.succ_mul]
    omega

theorem size_text_ofParts (name : String) (l : List String) :
    (ofParts (name :: l)).text.utf8ByteSize = sizeOfParts (name :: l) := by
  have htext : ∀ l, (ofParts l).text =
      String.ofList ('/' :: Text.joinWith ['/'] (l.map String.toList)) := fun _ => rfl
  have hslash : (String.ofList ['/']).utf8ByteSize = 1 := rfl
  induction l generalizing name with
  | nil =>
    have hsplit : ('/' :: name.toList) = ['/'] ++ name.toList := rfl
    rw [htext, List.map_cons, List.map_nil, Text.joinWith, hsplit, String.ofList_append,
      String.utf8ByteSize_append, String.ofList_toList, hslash]
    rfl
  | cons next l ih =>
    have hnext := ih next
    have hsplit : ∀ rest : List Char, ('/' :: (name.toList ++ ['/'] ++ rest)) =
        ['/'] ++ (name.toList ++ ('/' :: rest)) := by simp
    rw [htext] at hnext ⊢
    simp only [List.map_cons, Text.joinWith] at hnext ⊢
    rw [hsplit, String.ofList_append, String.ofList_append, String.utf8ByteSize_append,
      String.utf8ByteSize_append, String.ofList_toList, hnext, hslash]
    simp only [sizeOfParts]
    omega

theorem isBelow_self (p : Path) : p.isBelow p = true := by
  rw [isBelow, Bool.and_eq_true, List.isPrefixOf_iff_prefix]
  exact ⟨beq_self_eq_true _, List.prefix_refl _⟩

theorem isAbsolute_div {p : Path} (h : p.isAbsolute = true) (q : Path) :
    (p / q).isAbsolute = true := by
  change (append p q).isAbsolute = true
  unfold append
  split
  · assumption
  · exact h

theorem ne_of_mem_parts_ofString {s part : String} (h : part ∈ (ofString s).parts) :
    part ≠ "" ∧ part ≠ "." := by
  simp only [ofString, partsOf] at h
  rw [List.mem_map] at h
  obtain ⟨w, hw, rfl⟩ := h
  rw [List.mem_filter, Bool.and_eq_true, bne_iff_ne, bne_iff_ne] at hw
  constructor
  · intro heq
    exact hw.2.1 (String.ofList_injective heq)
  · intro heq
    exact hw.2.2 (String.ofList_injective heq)

theorem fields_of_slash_notMem {field : List Char} (h : '/' ∉ field) :
    Text.fields (· == '/') field = [field] := by
  refine Text.fields_of_notMem fun c hc => beq_eq_false_iff_ne.2 ?_
  rintro rfl
  exact h hc

/-- A name that a file in a directory can have. -/
structure IsFileName (name : String) : Prop where
  ne_empty : name ≠ ""
  ne_dot : name ≠ "."
  ne_dots : name ≠ ".."
  slash : '/' ∉ name.toList

theorem IsFileName.head? {name : String} (h : IsFileName name) :
    ∃ c, c ≠ '/' ∧ name.toList.head? = some c := by
  cases hchars : name.toList with
  | nil => exact absurd (String.toList_injective hchars) h.ne_empty
  | cons c rest =>
    refine ⟨c, ?_, rfl⟩
    rintro rfl
    exact h.slash (hchars ▸ List.mem_cons_self)

theorem IsFileName.ofString_eq {name : String} (h : IsFileName name) :
    ofString name = ⟨.none, [name]⟩ := by
  have hanchor : Anchor.ofChars name.toList = .none := by
    obtain ⟨c, hc, hhead⟩ := h.head?
    refine Anchor.ofChars_append (fun heq => hc ?_) .none
    exact Option.some.inj (hhead.symm.trans heq)
  have hproper : (name.toList != [] && name.toList != ['.']) = true := by
    rw [Bool.and_eq_true, bne_iff_ne, bne_iff_ne]
    exact ⟨fun heq => h.ne_empty (String.toList_injective heq),
      fun heq => h.ne_dot (String.toList_injective heq)⟩
  rw [ofString, hanchor, partsOf, fields_of_slash_notMem h.slash]
  simp only [List.filter_cons, hproper, if_true, List.filter_nil, List.map_cons, List.map_nil,
    String.ofList_toList]

end Path

end Bundler
