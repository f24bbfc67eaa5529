import Bundler.Proofs.Section
import Mathlib.Data.List.Infix

/-!
# Bundler.Proofs.Section.Tags

Tags said without searching. A tag is read from its sign on by trying long runs of characters before the
name first, and a section by looking for a tag twice; both come to statements about positions of the
source.

* `Reads name w s rest`: after the sign of a tag, `s` goes on with `w`, the name and an end, and then `rest`.
* `tagTail?_eq_some_iff`: what is found is the reading with the most characters before the name.
* `TagAt name source i tag`: the tag that begins at a position.
* `firstTag?_eq_some_iff`: what is found is the tag at the least position that has one.
* `IsBody name source body`: what stands between the first tag and the next one.
* `bodyOf_spec`: a section has its body, and it is missing exactly when there is no tag.
-/

namespace Bundler.Section

/-! ## The end of a tag -/

/-- The end of a tag: its last sign, at once or after a blank character and further ones. -/
inductive TagEnd : List Char → Prop where
  | bare : TagEnd ['>']
  | spaced {c : Char} {a : List Char} :
      Text.isBlank c = true → '>' ∉ a → TagEnd (c :: (a ++ ['>']))

theorem dropWhile_ne_append {c : Char} {a : List Char} (ha : c ∉ a) (rest : List Char) :
    (a ++ c :: rest).dropWhile (· != c) = c :: rest := by
  rw [List.dropWhile_append_of_pos]
  · simp
  · intro x hx
    have hne : x ≠ c := fun he => ha (he ▸ hx)
    simpa using hne

theorem closeTail?_eq_some_iff {s rest : List Char} :
    closeTail? s = some rest ↔ ∃ e, TagEnd e ∧ s = e ++ rest := by
  constructor
  · intro h
    cases s with
    | nil => cases h
    | cons c s =>
      rw [closeTail?] at h
      split at h
      · rename_i hc
        subst hc
        cases h
        exact ⟨_, .bare, rfl⟩
      · split at h
        · rename_i hblank
          split at h
          · cases h
          · rename_i d rest' hdrop
            cases h
            have hd : d = '>' := by
              have hhead := List.head?_dropWhile_not (· != '>') s
              rw [hdrop] at hhead
              simpa using hhead
            subst hd
            have hnone : '>' ∉ s.takeWhile (· != '>') := by
              intro hmem
              simpa using List.mem_takeWhile_imp hmem
            refine ⟨_, .spaced hblank hnone, ?_⟩
            have hsplit := List.takeWhile_append_dropWhile (p := (· != '>')) (l := s)
            rw [hdrop] at hsplit
            simp [hsplit]
        · cases h
  · rintro ⟨e, he, rfl⟩
    cases he with
    | bare => simp [closeTail?]
    | @spaced c a hblank ha =>
      have hc : c ≠ '>' := by
        rintro rfl
        exact absurd hblank (by decide)
      rw [List.cons_append, List.append_assoc, List.singleton_append, closeTail?, if_neg hc,
        if_pos hblank, dropWhile_ne_append ha]

theorem nameTail?_append (name t : List Char) : nameTail? name (name ++ t) = closeTail? t := by
  rw [nameTail?, List.isPrefixOf?_eq_some_iff_append_eq.2 rfl]

theorem nameTail?_eq_some_iff {name s rest : List Char} :
    nameTail? name s = some rest ↔ ∃ e, TagEnd e ∧ s = name ++ (e ++ rest) := by
  constructor
  · intro h
    unfold nameTail? at h
    split at h
    · rename_i t ht
      obtain ⟨e, he, rfl⟩ := closeTail?_eq_some_iff.1 h
      exact ⟨e, he, (List.isPrefixOf?_eq_some_iff_append_eq.1 ht).symm⟩
    · cases h
  · rintro ⟨e, he, rfl⟩
    rw [nameTail?_append]
    exact closeTail?_eq_some_iff.2 ⟨e, he, rfl⟩

/-! ## Readings -/

/-- After the sign of a tag come characters `w` that belong to no word, the name and an end of the tag, and
then `rest`. -/
def Reads (name w s rest : List Char) : Prop :=
  (∀ c ∈ w, Text.isWord c = false) ∧ ∃ e, TagEnd e ∧ s = w ++ (name ++ (e ++ rest))

theorem reads_nil_iff {name s rest : List Char} :
    Reads name [] s rest ↔ nameTail? name s = some rest := by
  rw [nameTail?_eq_some_iff]
  simp [Reads]

theorem reads_cons_iff {name w s rest : List Char} {c d : Char} :
    Reads name (d :: w) (c :: s) rest ↔ d = c ∧ Text.isWord c = false ∧ Reads name w s rest := by
  constructor
  · rintro ⟨hw, e, he, hs⟩
    rw [List.forall_mem_cons] at hw
    rw [List.cons_append, List.cons.injEq] at hs
    obtain ⟨rfl, hs⟩ := hs
    exact ⟨rfl, hw.1, hw.2, e, he, hs⟩
  · rintro ⟨rfl, hc, hw, e, he, rfl⟩
    exact ⟨List.forall_mem_cons.2 ⟨hc, hw⟩, e, he, rfl⟩

theorem not_reads_cons_nil {name w rest : List Char} {d : Char} : ¬ Reads name (d :: w) [] rest := by
  rintro ⟨_, e, _, hs⟩
  cases hs

/-- A reading is determined by how many characters come before the name. -/
theorem Reads.unique {name w w' s rest rest' : List Char} (h : Reads name w s rest)
    (h' : Reads name w' s rest') (hlen : w.length = w'.length) : w = w' ∧ rest = rest' := by
  induction w generalizing s w' with
  | nil =>
    cases w' with
    | cons d w' => cases hlen
    | nil =>
      rw [reads_nil_iff] at h h'
      rw [h] at h'
      exact ⟨rfl, Option.some.inj h'⟩
  | cons d w ih =>
    cases w' with
    | nil => cases hlen
    | cons d' w' =>
      cases s with
      | nil => exact absurd h not_reads_cons_nil
      | cons c s =>
        obtain ⟨rfl, _, htail⟩ := reads_cons_iff.1 h
        obtain ⟨rfl, _, htail'⟩ := reads_cons_iff.1 h'
        obtain ⟨rfl, rfl⟩ := ih htail htail' (Nat.succ.inj hlen)
        exact ⟨rfl, rfl⟩

/-- No reading has more characters before the name. -/
def Longest (name w s : List Char) : Prop :=
  ∀ w' rest', Reads name w' s rest' → w'.length ≤ w.length

/-- What is found after the sign of a tag is its longest reading, if there is any. -/
theorem tagTail?_cases (name s : List Char) :
    (tagTail? name s = none ∧ ∀ w rest, ¬ Reads name w s rest) ∨
    ∃ w rest, tagTail? name s = some rest ∧ Reads name w s rest ∧ Longest name w s := by
  -- when only readings with nothing before the name are possible, the name decides
  have hbare : ∀ {s}, tagTail? name s = nameTail? name s →
      (∀ d w rest, ¬ Reads name (d :: w) s rest) →
      (tagTail? name s = none ∧ ∀ w rest, ¬ Reads name w s rest) ∨
      ∃ w rest, tagTail? name s = some rest ∧ Reads name w s rest ∧ Longest name w s := by
    intro s htail hcons
    have hnil : ∀ w rest, Reads name w s rest → w = [] := by
      intro w rest h
      cases w with
      | nil => rfl
      | cons d w => exact absurd h (hcons d w rest)
    cases hname : nameTail? name s with
    | none =>
      refine .inl ⟨htail.trans hname, fun w rest h => ?_⟩
      obtain rfl := hnil w rest h
      rw [reads_nil_iff, hname] at h
      cases h
    | some rest =>
      refine .inr ⟨[], rest, htail.trans hname, reads_nil_iff.2 hname, fun w' rest' h' => ?_⟩
      rw [hnil w' rest' h']
  induction s with
  | nil => exact hbare rfl fun _ _ _ => not_reads_cons_nil
  | cons c s ih =>
    by_cases hc : Text.isWord c = true
    · refine hbare (by rw [tagTail?, if_pos hc]) fun d w rest h => ?_
      rw [(reads_cons_iff.1 h).2.1] at hc
      cases hc
    · rw [Bool.not_eq_true] at hc
      rcases ih with ⟨hnone, hno⟩ | ⟨w, rest, hsome, hreads, hlongest⟩
      · refine hbare ?_ fun d w rest h => hno w rest (reads_cons_iff.1 h).2.2
        rw [tagTail?, hc, hnone]
        rfl
      · refine .inr ⟨c :: w, rest, ?_, reads_cons_iff.2 ⟨rfl, hc, hreads⟩, fun w' rest' h' => ?_⟩
        · rw [tagTail?, hc, hsome]
          rfl
        · cases w' with
          | nil => exact Nat.zero_le _
          | cons d w' => exact Nat.succ_le_succ (hlongest w' rest' (reads_cons_iff.1 h').2.2)

theorem tagTail?_eq_some_iff {name s rest : List Char} :
    tagTail? name s = some rest ↔ ∃ w, Reads name w s rest ∧ Longest name w s := by
  rcases tagTail?_cases name s with ⟨hnone, hno⟩ | ⟨w, rest₀, hsome, hreads, hlongest⟩
  · rw [hnone]
    constructor
    · intro h
      cases h
    · rintro ⟨w, h, _⟩
      exact absurd h (hno w rest)
  · rw [hsome]
    constructor
    · intro h
      cases h
      exact ⟨w, hreads, hlongest⟩
    · rintro ⟨w', h', hlongest'⟩
      have hlen := Nat.le_antisymm (hlongest' _ _ hreads) (hlongest _ _ h')
      rw [(hreads.unique h' hlen).2]

/-! ## Tags of a source -/

/-- A tag: its sign, characters `w` that belong to no word, the name and an end. -/
def IsTag (name w tag : List Char) : Prop :=
  (∀ c ∈ w, Text.isWord c = false) ∧ ∃ e, TagEnd e ∧ tag = '<' :: (w ++ (name ++ e))

/-- The tag that begins at a position of a source. Of several that can be read there it is the one with
the most characters before the name. -/
def TagAt (name source : List Char) (i : Nat) (tag : List Char) : Prop :=
  ∃ w, IsTag name w tag ∧ tag <+: source.drop i ∧
    ∀ w' tag', IsTag name w' tag' → tag' <+: source.drop i → w'.length ≤ w.length

theorem isTag_prefix_iff {name w s : List Char} {c : Char} :
    (∃ tag, IsTag name w tag ∧ tag <+: c :: s) ↔ c = '<' ∧ ∃ rest, Reads name w s rest := by
  constructor
  · rintro ⟨_, ⟨hw, e, he, rfl⟩, rest, hrest⟩
    rw [List.cons_append, List.cons.injEq] at hrest
    obtain ⟨rfl, rfl⟩ := hrest
    exact ⟨rfl, rest, hw, e, he, by simp⟩
  · rintro ⟨rfl, rest, hw, e, he, rfl⟩
    exact ⟨_, ⟨hw, e, he, rfl⟩, rest, by simp⟩

theorem not_tagAt_nil {name tag : List Char} {i : Nat} : ¬ TagAt name [] i tag := by
  rintro ⟨w, ⟨_, e, _, rfl⟩, hprefix, _⟩
  rw [List.drop_nil, List.prefix_nil] at hprefix
  cases hprefix

theorem tagAt_cons_succ {name s tag : List Char} {c : Char} {i : Nat} :
    TagAt name (c :: s) (i + 1) tag ↔ TagAt name s i tag := by
  rw [TagAt, TagAt, List.drop_succ_cons]

/-- A position has a tag when what begins there can be read as one. -/
theorem tagHere?_eq_some_iff {name s rest : List Char} :
    tagHere? name s = some rest ↔ ∃ tag, TagAt name s 0 tag ∧ s = tag ++ rest := by
  cases s with
  | nil =>
    constructor
    · intro h
      cases h
    · rintro ⟨tag, htag, _⟩
      exact absurd htag not_tagAt_nil
  | cons c s =>
    have hlongest : ∀ {w}, c = '<' → (Longest name w s ↔ ∀ w' tag', IsTag name w' tag' →
        tag' <+: c :: s → w'.length ≤ w.length) := by
      intro w hc
      constructor
      · intro h w' tag' htag' hprefix
        obtain ⟨_, rest', hreads⟩ := isTag_prefix_iff.1 ⟨tag', htag', hprefix⟩
        exact h w' rest' hreads
      · intro h w' rest' hreads
        obtain ⟨tag', htag', hprefix⟩ := isTag_prefix_iff.2 ⟨hc, rest', hreads⟩
        exact h w' tag' htag' hprefix
    constructor
    · intro h
      rw [tagHere?] at h
      split at h
      · rename_i hc
        obtain ⟨w, ⟨hw, e, he, hs⟩, hmax⟩ := tagTail?_eq_some_iff.1 h
        have htext : c :: s = '<' :: (w ++ (name ++ e)) ++ rest := by simp [hc, hs]
        exact ⟨_, ⟨w, ⟨hw, e, he, rfl⟩, ⟨rest, htext.symm⟩, (hlongest hc).1 hmax⟩, htext⟩
      · cases h
    · rintro ⟨_, ⟨w, ⟨hw, e, he, rfl⟩, _, hmax⟩, hs⟩
      rw [List.cons_append, List.cons.injEq] at hs
      obtain ⟨rfl, rfl⟩ := hs
      rw [tagHere?, if_pos rfl]
      refine tagTail?_eq_some_iff.2 ⟨w, ⟨hw, e, he, by simp⟩, (hlongest rfl).2 hmax⟩

theorem tagHere?_eq_none_iff {name s : List Char} :
    tagHere? name s = none ↔ ∀ tag, ¬ TagAt name s 0 tag := by
  constructor
  · intro h tag htag
    obtain ⟨rest, hrest⟩ := htag.choose_spec.2.1
    rw [tagHere?_eq_some_iff.2 ⟨tag, htag, hrest.symm⟩] at h
    cases h
  · intro h
    refine Option.eq_none_iff_forall_ne_some.2 fun rest hrest => ?_
    obtain ⟨tag, htag, _⟩ := tagHere?_eq_some_iff.1 hrest
    exact h tag htag

/-! ## The first tag -/

theorem firstTag?_of_tagHere? {name s rest : List Char} {c : Char}
    (h : tagHere? name (c :: s) = some rest) : firstTag? name (c :: s) = some ([], rest) := by
  rw [firstTag?, h]

theorem firstTag?_of_not_tagHere? {name s : List Char} {c : Char}
    (h : tagHere? name (c :: s) = none) :
    firstTag? name (c :: s) = (firstTag? name s).map fun p => (c :: p.1, p.2) := by
  rw [firstTag?, h]
  cases firstTag? name s <;> rfl

theorem firstTag?_eq_none_iff {name s : List Char} :
    firstTag? name s = none ↔ ∀ i tag, ¬ TagAt name s i tag := by
  induction s with
  | nil => exact ⟨fun _ _ _ => not_tagAt_nil, fun _ => rfl⟩
  | cons c s ih =>
    cases hhere : tagHere? name (c :: s) with
    | some rest =>
      obtain ⟨tag, htag, _⟩ := tagHere?_eq_some_iff.1 hhere
      rw [firstTag?_of_tagHere? hhere]
      constructor
      · intro h
        cases h
      · exact fun h => absurd htag (h 0 tag)
    | none =>
      rw [firstTag?_of_not_tagHere? hhere, Option.map_eq_none_iff, ih]
      constructor
      · intro h i tag htag
        cases i with
        | zero => exact tagHere?_eq_none_iff.1 hhere tag htag
        | succ i => exact h i tag (tagAt_cons_succ.1 htag)
      · exact fun h i tag htag => h (i + 1) tag (tagAt_cons_succ.2 htag)

/-- What is found first is the tag at the least position that has one. -/
theorem firstTag?_eq_some_iff {name s before rest : List Char} :
    firstTag? name s = some (before, rest) ↔
      ∃ tag, s = before ++ (tag ++ rest) ∧ TagAt name s before.length tag ∧
        ∀ i t, TagAt name s i t → before.length ≤ i := by
  induction s generalizing before with
  | nil =>
    constructor
    · intro h
      cases h
    · rintro ⟨tag, _, htag, _⟩
      exact absurd htag not_tagAt_nil
  | cons c s ih =>
    cases hhere : tagHere? name (c :: s) with
    | some rest₀ =>
      obtain ⟨tag₀, htag₀, hs₀⟩ := tagHere?_eq_some_iff.1 hhere
      rw [firstTag?_of_tagHere? hhere]
      constructor
      · intro h
        cases h
        exact ⟨tag₀, hs₀, htag₀, fun _ _ _ => Nat.zero_le _⟩
      · rintro ⟨tag, hs, htag, hleast⟩
        obtain rfl : before = [] := List.length_eq_zero_iff.1 (Nat.le_zero.1 (hleast 0 _ htag₀))
        have hsome := tagHere?_eq_some_iff.2 ⟨tag, htag, hs⟩
        rw [hhere] at hsome
        rw [Option.some.inj hsome]
    | none =>
      have hzero := tagHere?_eq_none_iff.1 hhere
      rw [firstTag?_of_not_tagHere? hhere, Option.map_eq_some_iff]
      constructor
      · rintro ⟨⟨before', rest'⟩, hfirst, heq⟩
        cases heq
        obtain ⟨tag, rfl, htag, hleast⟩ := ih.1 hfirst
        refine ⟨tag, rfl, tagAt_cons_succ.2 htag, fun i t ht => ?_⟩
        cases i with
        | zero => exact absurd ht (hzero t)
        | succ i => exact Nat.succ_le_succ (hleast i t (tagAt_cons_succ.1 ht))
      · rintro ⟨tag, hs, htag, hleast⟩
        cases before with
        | nil => exact absurd htag (hzero tag)
        | cons d before =>
          rw [List.cons_append, List.cons.injEq] at hs
          refine ⟨(before, rest), ih.2 ⟨tag, hs.2, tagAt_cons_succ.1 htag, fun i t ht => ?_⟩, ?_⟩
          · exact Nat.succ_le_succ_iff.1 (hleast (i + 1) t (tagAt_cons_succ.2 ht))
          · rw [hs.1]

/-! ## Bodies -/

/-- The body of a section: the source is some text, a tag, the body and the rest. The tag is the first one
of the source, no tag begins in the body, and the rest is empty or begins with a tag. -/
def IsBody (name source body : List Char) : Prop :=
  ∃ before tag rest, source = before ++ (tag ++ (body ++ rest)) ∧
    TagAt name source before.length tag ∧
    (∀ i t, TagAt name source i t → before.length ≤ i) ∧
    (∀ i t, TagAt name source i t → before.length + tag.length ≤ i →
      before.length + tag.length + body.length ≤ i) ∧
    (rest = [] ∨ ∃ t, t <+: rest ∧
      TagAt name source (before.length + tag.length + body.length) t)

/-- What begins at a position behind some text. -/
theorem tagAt_append {name s t tag : List Char} {i : Nat} :
    TagAt name (s ++ t) (s.length + i) tag ↔ TagAt name t i tag := by
  rw [TagAt, TagAt, List.drop_append, List.drop_of_length_le (by omega), List.nil_append,
    Nat.add_sub_cancel_left]

theorem TagAt.lt_length {name s tag : List Char} {i : Nat} (h : TagAt name s i tag) : i < s.length := by
  by_contra hle
  have hdrop : s.drop i = ([] : List Char).drop i := by
    rw [List.drop_nil, List.drop_of_length_le (Nat.le_of_not_lt hle)]
  rw [TagAt, hdrop] at h
  exact not_tagAt_nil h

/-- The text before the first tag, or all of it. -/
def untilTag (name s : List Char) : List Char :=
  ((firstTag? name s).map Prod.fst).getD s

theorem body?_eq_map (name source : List Char) :
    body? name source = (firstTag? name source).map fun p => untilTag name p.2 := by
  unfold body? untilTag
  rcases firstTag? name source with _ | ⟨before, after⟩
  · rfl
  · rcases hnext : firstTag? name after with _ | ⟨body, rest⟩ <;> simp [hnext]

theorem untilTag_eq_iff {name s body : List Char} :
    untilTag name s = body ↔ ∃ rest, s = body ++ rest ∧
      (∀ i t, TagAt name s i t → body.length ≤ i) ∧
      (rest = [] ∨ ∃ t, t <+: rest ∧ TagAt name s body.length t) := by
  unfold untilTag
  constructor
  · rintro rfl
    cases hfirst : firstTag? name s with
    | none =>
      have hno := firstTag?_eq_none_iff.1 hfirst
      exact ⟨[], (List.append_nil _).symm, fun i t ht => absurd ht (hno i t), .inl rfl⟩
    | some p =>
      obtain ⟨tag, hs, htag, hleast⟩ := firstTag?_eq_some_iff.1 hfirst
      exact ⟨tag ++ p.2, hs, hleast, .inr ⟨tag, List.prefix_append _ _, htag⟩⟩
  · rintro ⟨rest, hs, hleast, rfl | ⟨tag, ⟨after, rfl⟩, htag⟩⟩
    · -- a tag would begin behind the end
      rw [List.append_nil] at hs
      subst hs
      have hnone : firstTag? name s = none :=
        firstTag?_eq_none_iff.2 fun i t ht =>
          Nat.lt_irrefl _ (Nat.lt_of_lt_of_le ht.lt_length (hleast i t ht))
      rw [hnone]
      rfl
    · rw [firstTag?_eq_some_iff.2 ⟨tag, hs, htag, hleast⟩]
      rfl

theorem body?_eq_some_iff {name source body : List Char} :
    body? name source = some body ↔ IsBody name source body := by
  -- behind the first tag, positions of the source are those of what is left
  have hshift : ∀ {before tag after t : List Char} {i : Nat},
      TagAt name (before ++ (tag ++ after)) (before.length + tag.length + i) t ↔ TagAt name after i t := by
    intro before tag after t i
    rw [Nat.add_assoc, tagAt_append, tagAt_append]
  rw [body?_eq_map, Option.map_eq_some_iff]
  constructor
  · rintro ⟨⟨before, after⟩, hfirst, hbody⟩
    obtain ⟨tag, rfl, htag, hleast⟩ := firstTag?_eq_some_iff.1 hfirst
    obtain ⟨rest, rfl, hinside, hrest⟩ := untilTag_eq_iff.1 hbody
    refine ⟨before, tag, rest, rfl, htag, hleast, fun i t ht hle => ?_, ?_⟩
    · obtain ⟨j, rfl⟩ := Nat.exists_eq_add_of_le hle
      exact Nat.add_le_add_left (hinside j t (hshift.1 ht)) _
    · exact hrest.imp_right fun ⟨t, hprefix, ht⟩ => ⟨t, hprefix, hshift.2 ht⟩
  · rintro ⟨before, tag, rest, rfl, htag, hleast, hinside, hrest⟩
    refine ⟨(before, body ++ rest), firstTag?_eq_some_iff.2 ⟨tag, rfl, htag, hleast⟩,
      untilTag_eq_iff.2 ⟨rest, rfl, fun i t ht => ?_, ?_⟩⟩
    · exact Nat.le_of_add_le_add_left (hinside _ t (hshift.2 ht) (Nat.le_add_right _ _))
    · exact hrest.imp_right fun ⟨t, hprefix, ht⟩ => ⟨t, hprefix, hshift.1 ht⟩

theorem body?_eq_none_iff {name source : List Char} :
    body? name source = none ↔ ∀ i tag, ¬ TagAt name source i tag := by
  rw [body?_eq_map, Option.map_eq_none_iff, firstTag?_eq_none_iff]

/-- A section is missing from a source exactly when no tag with its name begins anywhere. Otherwise there
is one text that is the body of the section, and it is the one that is taken: what stands between the first
tag and the next one, or the end. -/
theorem bodyOf_spec (name : String) (source : List Char) :
    (bodyOf name source = .error (.missingSection name) ↔
      ∀ i tag, ¬ TagAt name.toList source i tag) ∧
    ((∃ i tag, TagAt name.toList source i tag) → ∃ body, bodyOf name source = .ok body) ∧
    ∀ body, bodyOf name source = .ok body ↔ IsBody name.toList source body := by
  unfold bodyOf
  cases hbody : body? name.toList source with
  | none =>
    have hno := body?_eq_none_iff.1 hbody
    refine ⟨by simpa using hno, fun ⟨i, tag, htag⟩ => absurd htag (hno i tag), fun body => ?_⟩
    rw [← body?_eq_some_iff, hbody]
    simp
  | some body₀ =>
    refine ⟨?_, fun _ => ⟨body₀, rfl⟩, fun body => ?_⟩
    · rw [← body?_eq_none_iff, hbody]
      simp
    · rw [← body?_eq_some_iff, hbody]
      simp

/-- With a name that begins and ends with signs several tags can be read at the front, and the one with
the most before the name holds. -/
example : bodyOf "><" "<><><>a<><>b".toList = .ok "a".toList := by decide

end Bundler.Section
