import Bundler.Proofs.Keyed
import Bundler.Proofs.Toml.Str
import Bundler.Toml.Document

/-!
# Bundler.Proofs.Toml.Document

Documents that are written line by line and read again: comments, keys with a value on one line, and the
header of one table.

* `ValueText v text`, `LineText l text`: how values and lines are written.
* `statementsFrom_line`: reading a written line does to the draft what the line says.
* `parse_lines`: reading all lines of a document does so one after the other.
* `WithFiller texts lines`: lines with comments and empty lines between them.
* `parse_section`: a document of a few keys and one table with distinct keys is read as just that.
-/

namespace Bundler.Toml

/-! ## Values -/

/-- The written members of a list. -/
def itemsText (ss : List String) : List Char :=
  ", ".toList.intercalate (ss.map fun s => (stringText s).toList)

/-- How strings, truth values and lists of strings stand on a line. -/
inductive ValueText : Value → List Char → Prop where
  | str (s : String) : ValueText (.str s) (stringText s).toList
  | bool (b : Bool) : ValueText (.bool b) (if b then "true" else "false").toList
  | strings (ss : List String) : ValueText (.list (ss.map .str)) ('[' :: (itemsText ss ++ [']']))

theorem stringText_append (s : String) (rest : List Char) :
    (stringText s).toList ++ rest = '"' :: (s.toList.flatMap escapedChar ++ '"' :: rest) := by
  simp [stringText]

theorem readPlain?_mark {body : List Char} (h : ∀ rest, body ≠ '"' :: '"' :: rest) :
    readPlain? ('"' :: body) = some (readPlain?.strStep (basicString body)) := by
  rcases body with _ | ⟨c, _ | ⟨c', rest⟩⟩
  · rfl
  · by_cases hc : c = '"'
    · subst hc; rfl
    · simp [readPlain?]
  · by_cases hc : c = '"'
    · subst hc
      have hc' : c' ≠ '"' := fun hc' => h rest (by rw [hc'])
      simp [readPlain?]
    · simp [readPlain?]

theorem readPlain?_stringText (s : String) {rest : List Char} (h : rest.head? ≠ some '"') :
    readPlain? ((stringText s).toList ++ rest) = some (.ok (.str s, rest)) := by
  rw [stringText_append, readPlain?_mark]
  · rw [basicString_escaped]
    simp [readPlain?.strStep, Except.map, String.ofList_toList]
  · -- two marks in front would be those around an empty body, with a third one after them
    intro more hbody
    have hhead := head?_escaped_ne s.toList
    cases hs : s.toList.flatMap escapedChar with
    | nil =>
      rw [hs, List.nil_append, List.cons.injEq] at hbody
      rw [hbody.2] at h
      exact h rfl
    | cons x xs =>
      rw [hs, List.cons_append, List.cons.injEq] at hbody
      rw [hs, hbody.1] at hhead
      exact hhead rfl

theorem valueFrom_stringText (fuel : Nat) (s : String) {rest : List Char}
    (h : rest.head? ≠ some '"') :
    valueFrom (fuel + 1) ((stringText s).toList ++ rest) = .ok (.str s, rest) := by
  have hplain := readPlain?_stringText s h
  rw [stringText_append] at hplain ⊢
  simp [valueFrom, readScalar, hplain]

theorem itemsText_cons_cons (s s' : String) (ss : List String) :
    itemsText (s :: s' :: ss) = (stringText s).toList ++ ',' :: ' ' :: itemsText (s' :: ss) := by
  simp [itemsText, List.intercalate_cons_cons]

theorem itemsText_cons (s : String) (ss : List String) :
    ∃ more, itemsText (s :: ss) = '"' :: more := by
  cases ss with
  | nil => exact ⟨_, by rw [itemsText, List.map_cons, List.map_nil, List.intercalate_singleton,
      ← List.append_nil (stringText s).toList, stringText_append]⟩
  | cons s' ss => exact ⟨_, by rw [itemsText_cons_cons, stringText_append]⟩

theorem length_le_length_itemsText (ss : List String) : ss.length ≤ (itemsText ss).length := by
  cases ss with
  | nil => simp
  | cons s ss =>
    induction ss generalizing s with
    | nil => simp [itemsText, stringText]
    | cons s' ss ih =>
      have hrest := ih s'
      rw [itemsText_cons_cons]
      simp only [List.length_cons, List.length_append] at hrest ⊢
      omega

theorem itemsFrom_itemsText {fuel : Nat} {s : String} {ss : List String} (h : ss.length + 2 ≤ fuel)
    (rest : List Char) :
    itemsFrom fuel (itemsText (s :: ss) ++ ']' :: rest) = .ok ((s :: ss).map .str, rest) := by
  obtain ⟨fuel, rfl⟩ : ∃ n, fuel = n + 2 := ⟨fuel - 2, by omega⟩
  induction ss generalizing s fuel with
  | nil =>
    rw [itemsText, List.map_cons, List.map_nil, List.intercalate_singleton, itemsFrom,
      valueFrom_stringText _ _ (by simp)]
    simp [skipFiller, isSpace]
  | cons s' ss ih =>
    rw [List.length_cons] at h
    obtain ⟨fuel, rfl⟩ : ∃ n, fuel = n + 1 := ⟨fuel - 1, by omega⟩
    have hrest := ih (s := s') fuel (by omega)
    obtain ⟨more, hmore⟩ := itemsText_cons s' ss
    rw [itemsText_cons_cons, List.append_assoc, itemsFrom, valueFrom_stringText _ _ (by simp), hmore]
    rw [hmore, List.cons_append] at hrest
    simp [skipFiller, isSpace, hrest, Except.map]

theorem valueFrom_itemsText {fuel : Nat} {ss : List String} (h : ss.length + 2 ≤ fuel)
    (rest : List Char) :
    valueFrom (fuel + 1) ('[' :: (itemsText ss ++ ']' :: rest)) = .ok (.list (ss.map .str), rest) := by
  rw [valueFrom]
  cases ss with
  | nil => simp [itemsText, skipFiller, isSpace]
  | cons s ss =>
    obtain ⟨more, hmore⟩ := itemsText_cons s ss
    have hitems : itemsFrom fuel (itemsText (s :: ss) ++ ']' :: rest) = .ok ((s :: ss).map .str, rest) :=
      itemsFrom_itemsText (by rw [List.length_cons] at h; omega) rest
    rw [hmore, List.cons_append] at hitems ⊢
    simp [skipFiller, isSpace, hitems, Except.map]

/-- What is written can be read, before the end of the line. -/
theorem ValueText.readValue {v : Value} {text : List Char} (h : ValueText v text) (rest : List Char) :
    readValue (text ++ '\n' :: rest) = .ok (v, '\n' :: rest) := by
  unfold Toml.readValue
  cases h with
  | str s => exact valueFrom_stringText _ s (by simp)
  | bool b => cases b <;> simp [valueFrom, readScalar, readPlain?]
  | strings ss =>
    have hlength := length_le_length_itemsText ss
    rw [List.cons_append, List.append_assoc, List.singleton_append]
    refine valueFrom_itemsText ?_ _
    simp only [List.length_cons, List.length_append]
    omega

/-! ## Keys -/

/-- A key that needs no marks around it. -/
def IsBare (k : String) : Prop :=
  k ≠ "" ∧ k.toList.all isBareKeyChar = true

instance (k : String) : Decidable (IsBare k) :=
  inferInstanceAs (Decidable (_ ∧ _))

theorem IsBare.of_mem {k : String} (h : IsBare k) : ∀ c ∈ k.toList, isBareKeyChar c = true :=
  List.all_eq_true.1 h.2

theorem IsBare.cons {k : String} (h : IsBare k) :
    ∃ c cs, k.toList = c :: cs ∧ isBareKeyChar c = true := by
  cases hk : k.toList with
  | nil => exact absurd (String.toList_inj.1 hk) h.1
  | cons c cs => exact ⟨c, cs, rfl, h.of_mem c (by rw [hk]; exact List.mem_cons_self)⟩

theorem readKey_bare {k : String} (hk : IsBare k) {rest more : List Char}
    (hrest : rest.head?.all fun c => !isBareKeyChar c) (hmore : skipSpaces rest = more)
    (hdot : more.head? ≠ some '.') : readKey (k.toList ++ rest) = .ok ([k], more) := by
  have hpart : readKeyPart (k.toList ++ rest) = .ok (k, rest) := by
    obtain ⟨c, cs, hcs, hc⟩ := hk.cons
    have hrest' : rest.takeWhile isBareKeyChar = [] ∧ rest.dropWhile isBareKeyChar = rest := by
      cases rest with
      | nil => exact ⟨rfl, rfl⟩
      | cons x xs => simp_all
    have htake : (k.toList ++ rest).takeWhile isBareKeyChar = k.toList := by
      rw [List.takeWhile_append_of_pos hk.of_mem, hrest'.1, List.append_nil]
    have hdrop : (k.toList ++ rest).dropWhile isBareKeyChar = rest := by
      rw [List.dropWhile_append_of_pos hk.of_mem, hrest'.2]
    rw [hcs, List.cons_append] at htake hdrop ⊢
    simp only [readKeyPart, hc, if_true, htake, hdrop]
    rw [← hcs, String.ofList_toList]
  rw [readKey, readKeyParts, hpart]
  simp only [hmore]
  cases more with
  | nil => rfl
  | cons x xs =>
    split
    · rename_i heq
      cases heq
      exact absurd rfl hdot
    · rfl

theorem start_of_isBareKeyChar {c : Char} (h : isBareKeyChar c = true) :
    isSpace c = false ∧ c ≠ '\n' ∧ c ≠ '[' ∧ c ≠ '#' := by
  refine ⟨?_, ?_, ?_, ?_⟩
  · rw [Bool.eq_false_iff]
    intro hspace
    simp only [isSpace, Bool.or_eq_true, beq_iff_eq] at hspace
    rcases hspace with rfl | rfl <;> cases h
  all_goals
    rintro rfl
    cases h

/-! ## Lines -/

inductive Line where
  | filler
  | header (k : String)
  | entry (k : String) (v : Value)

/-- A text that is empty or a comment. -/
def IsFiller (text : List Char) : Prop :=
  text = [] ∨ text.head? = some '#' ∧ isPlain text = true

instance (text : List Char) : Decidable (IsFiller text) :=
  inferInstanceAs (Decidable (_ ∨ _))

/-- How a line is written. -/
inductive LineText : Line → List Char → Prop where
  | filler {text : List Char} : IsFiller text → LineText .filler text
  | header {k : String} : IsBare k → LineText (.header k) ('[' :: (k.toList ++ [']']))
  | entry {k : String} {v : Value} {text : List Char} : IsBare k → ValueText v text →
      LineText (.entry k v) (k.toList ++ ' ' :: '=' :: ' ' :: text)

def Line.enter (d : Draft) : Line → Except Problem Draft
  | .filler => .ok d
  | .header k => d.closeSection.openTable [k]
  | .entry k v => d.setKey [k] v

variable {d d' : Draft} {fuel : Nat}

theorem skipCommentBody_line {text : List Char} (h : isPlain text = true) (rest : List Char) :
    skipCommentBody (text ++ '\n' :: rest) = .ok ('\n' :: rest) := by
  rw [isPlain_iff] at h
  induction text with
  | nil => rfl
  | cons c text ih =>
    rw [List.forall_mem_cons] at h
    have hne : c ≠ '\n' := by
      rintro rfl
      cases h.1
    simp only [List.cons_append, skipCommentBody, hne, h.1]
    exact ih h.2

theorem statementsFrom_of_readStatement {c : Char} {s rest : List Char} (hspace : isSpace c = false)
    (hfeed : c ≠ '\n') (h : readStatement d (c :: s) = .ok (d', '\n' :: rest)) :
    statementsFrom (fuel + 1) d (c :: s) = statementsFrom fuel d' rest := by
  have hskip : skipSpaces (c :: s) = c :: s := by simp [skipSpaces, hspace]
  rw [statementsFrom, hskip]
  split
  · rename_i heq
    cases heq
  · rename_i heq
    cases heq
    exact absurd rfl hfeed
  · rw [h]
    simp [skipSpaces, isSpace, skipComment]

theorem ValueText.skipSpaces_eq {v : Value} {text : List Char} (h : ValueText v text)
    (rest : List Char) : skipSpaces (text ++ rest) = text ++ rest := by
  cases h with
  | str s => rw [stringText_append]; rfl
  | bool b => cases b <;> rfl
  | strings ss => rfl

theorem readKeyValue_entry {k : String} {v : Value} {text : List Char} (hk : IsBare k)
    (hv : ValueText v text) (h : d.setKey [k] v = .ok d') (rest : List Char) :
    readKeyValue d (k.toList ++ ' ' :: '=' :: ' ' :: (text ++ '\n' :: rest)) =
      .ok (d', '\n' :: rest) := by
  have hkey : readKey (k.toList ++ ' ' :: '=' :: ' ' :: (text ++ '\n' :: rest)) =
      .ok ([k], '=' :: ' ' :: (text ++ '\n' :: rest)) :=
    readKey_bare hk rfl rfl (by simp)
  have hequals : skipEquals ('=' :: ' ' :: (text ++ '\n' :: rest)) = .ok (text ++ '\n' :: rest) :=
    congrArg Except.ok (hv.skipSpaces_eq _)
  simp only [readKeyValue, hkey, hequals, hv.readValue, h]
  rfl

theorem readTableHeader_bare {k : String} (hk : IsBare k) (h : d.closeSection.openTable [k] = .ok d')
    (rest : List Char) : readTableHeader d (k.toList ++ ']' :: rest) = .ok (d', rest) := by
  obtain ⟨c, cs, hcs, hc⟩ := hk.cons
  have hskip : skipSpaces (k.toList ++ ']' :: rest) = k.toList ++ ']' :: rest := by
    rw [hcs, List.cons_append, skipSpaces, List.dropWhile_cons, (start_of_isBareKeyChar hc).1]
    rfl
  have hkey : readKey (k.toList ++ ']' :: rest) = .ok ([k], ']' :: rest) :=
    readKey_bare hk rfl rfl (by simp)
  simp only [readTableHeader, hskip, hkey, h]
  rfl

theorem readStatement_key {c : Char} (hc : isBareKeyChar c = true) (s : List Char) :
    readStatement d (c :: s) = readKeyValue d (c :: s) := by
  obtain ⟨_, _, hbracket, hhash⟩ := start_of_isBareKeyChar hc
  have hstart : isKeyStart c = true := by simp [isKeyStart, hc]
  simp [readStatement, hbracket, hstart]

theorem readStatement_header {c : Char} (hc : c ≠ '[') (s : List Char) :
    readStatement d ('[' :: c :: s) = readTableHeader d (c :: s) := by
  simp [readStatement, hc]

/-- Reading a line does what it says. -/
theorem statementsFrom_line {l : Line} {text : List Char} (hl : LineText l text)
    (h : l.enter d = .ok d') (rest : List Char) :
    statementsFrom (fuel + 1) d (text ++ '\n' :: rest) = statementsFrom fuel d' rest := by
  cases hl with
  | filler hfiller =>
    cases h
    rcases hfiller with rfl | ⟨hhead, hplain⟩
    · simp [statementsFrom, skipSpaces, isSpace]
    · obtain ⟨cs, rfl⟩ := List.head?_eq_some_iff.1 hhead
      have hbody := skipCommentBody_line ((isPlain_append (s := ['#'])).1 hplain).2 rest
      simp [statementsFrom, skipSpaces, isSpace, readStatement, skipComment, hbody]
  | @header k hk =>
    obtain ⟨c, cs, hcs, hc⟩ := hk.cons
    have hheader := readTableHeader_bare hk h ('\n' :: rest)
    rw [List.cons_append, List.append_assoc, List.singleton_append]
    rw [hcs, List.cons_append] at hheader ⊢
    refine statementsFrom_of_readStatement rfl (by decide) ?_
    rw [readStatement_header (start_of_isBareKeyChar hc).2.2.1, hheader]
  | @entry k v text hk hv =>
    obtain ⟨c, cs, hcs, hc⟩ := hk.cons
    obtain ⟨hspace, hfeed, _, _⟩ := start_of_isBareKeyChar hc
    have hentry := readKeyValue_entry hk hv h rest
    simp only [List.append_assoc, List.cons_append]
    rw [hcs, List.cons_append] at hentry ⊢
    refine statementsFrom_of_readStatement hspace hfeed ?_
    rw [readStatement_key hc, hentry]

/-- Reading the lines of a document does what they say, one after the other. -/
theorem statementsFrom_lines {ls : List Line} {texts : List (List Char)}
    (hls : List.Forall₂ LineText ls texts) (h : ls.foldlM Line.enter d = .ok d')
    (hfuel : texts.length ≤ fuel) :
    statementsFrom fuel d (texts.flatMap (· ++ ['\n'])) = .ok d' := by
  induction hls generalizing d fuel with
  | nil =>
    cases h
    cases fuel <;> rfl
  | @cons l text ls texts hl _ ih =>
    obtain ⟨fuel, rfl⟩ := Nat.exists_eq_add_of_le' hfuel
    cases hd : l.enter d with
    | error e =>
      rw [List.foldlM_cons, hd] at h
      cases h
    | ok d₁ =>
      rw [List.foldlM_cons, hd] at h
      rw [List.flatMap_cons, List.append_assoc, List.singleton_append, List.length_cons,
        ← Nat.add_assoc, statementsFrom_line hl hd]
      exact ih h (Nat.le_add_left _ _)

/-! ## Texts -/

theorem isPlain_itemsText (ss : List String) : isPlain (itemsText ss) = true := by
  induction ss with
  | nil => rfl
  | cons s ss ih =>
    cases ss with
    | nil =>
      rw [itemsText, List.map_cons, List.map_nil, List.intercalate_singleton]
      exact isPlain_stringText s
    | cons s' ss =>
      rw [itemsText_cons_cons, isPlain_append]
      exact ⟨isPlain_stringText s, ih⟩

theorem ValueText.isPlain {v : Value} {text : List Char} (h : ValueText v text) :
    isPlain text = true := by
  cases h with
  | str s => exact isPlain_stringText s
  | bool b => cases b <;> rfl
  | strings ss => exact isPlain_append.2 ⟨isPlain_itemsText ss, rfl⟩

theorem carriageReturn_notMem_of_isPlain {s : List Char} (h : isPlain s = true) : '\r' ∉ s := by
  intro hmem
  have hreturn := isPlain_iff.1 h _ hmem
  cases hreturn

theorem LineText.carriageReturn_notMem {l : Line} {text : List Char} (h : LineText l text) :
    '\r' ∉ text := by
  have hkey : ∀ {k : String}, IsBare k → '\r' ∉ k.toList := by
    intro k hk hmem
    have hbare := hk.of_mem _ hmem
    cases hbare
  cases h with
  | filler hfiller =>
    rcases hfiller with rfl | ⟨_, hplain⟩
    · simp
    · exact carriageReturn_notMem_of_isPlain hplain
  | header hk => simp [hkey hk]
  | entry hk hv =>
    simp [hkey hk, carriageReturn_notMem_of_isPlain hv.isPlain]

theorem joinLineEnds_of_notMem {s : List Char} (h : '\r' ∉ s) : joinLineEnds s = s := by
  induction s with
  | nil => rfl
  | cons c s ih =>
    rw [List.mem_cons, not_or] at h
    have hc : c ≠ '\r' := fun hc => h.1 hc.symm
    simp [joinLineEnds, hc, ih h.2]

theorem carriageReturn_notMem_lines {ls : List Line} {texts : List (List Char)}
    (h : List.Forall₂ LineText ls texts) : '\r' ∉ texts.flatMap (· ++ ['\n']) := by
  induction h with
  | nil => simp
  | cons hl _ ih => simp [hl.carriageReturn_notMem, ih]

theorem length_le_length_lines (texts : List (List Char)) :
    texts.length ≤ (texts.flatMap (· ++ ['\n'])).length := by
  induction texts with
  | nil => simp
  | cons t texts ih =>
    simp only [List.length_cons, List.flatMap_cons, List.length_append] at ih ⊢
    omega

/-- A text of written lines is read as the lines say. -/
theorem parse_lines {ls : List Line} {text : String} {texts : List (List Char)}
    (htext : text.toList = texts.flatMap (· ++ ['\n'])) (hls : List.Forall₂ LineText ls texts)
    (h : ls.foldlM Line.enter {} = .ok d) : parse text = .ok d.data := by
  have hread := statementsFrom_lines hls h
    (Nat.le_succ_of_le (length_le_length_lines texts))
  simp only [parse, htext, joinLineEnds_of_notMem (carriageReturn_notMem_lines hls), hread]

/-! ## Drafts -/

/-- A draft before the first header. -/
structure AtTop (d : Draft) (top : Table) : Prop where
  data : d.data = top
  header : d.header = []
  explicit : d.explicit = []
  pending : d.pending = []
  frozen : ∀ k ∈ d.frozen, ∃ x ∈ Keyed.keys top, k = [x]

/-- A draft below the header of the table that came last. -/
structure InSection (d : Draft) (top : Table) (name : String) (fields : Table) : Prop where
  data : d.data = top ++ [(name, .table fields)]
  header : d.header = [name]
  notFrozen : isFrozen d.frozen [name] = false

theorem setNew_of_notMem {k : String} {t : Table} (hk : k ∉ Keyed.keys t) (taken : Problem) (v : Value) :
    Nest.setNew taken k v t = .ok (t ++ [(k, v)]) := by
  simp [Nest.setNew, (Keyed.lookup_eq_none k t).2 hk, Keyed.put_of_notMem hk]

theorem AtTop.enter {top : Table} {k : String} (h : AtTop d top) (hk : k ∉ Keyed.keys top) (v : Value) :
    ∃ d', Line.enter d (.entry k v) = .ok d' ∧ AtTop d' (top ++ [(k, v)]) := by
  have hset : d.setKey [k] v = .ok
      { d with
        data := top ++ [(k, v)]
        frozen := if isContainer v then [k] :: d.frozen else d.frozen } := by
    simp [Draft.setKey, Draft.passedKeys, h.header, h.data, Nest.update, setNew_of_notMem hk, Except.map]
  refine ⟨_, hset, rfl, h.header, h.explicit, h.pending, ?_⟩
  intro x hx
  have hx' : x = [k] ∨ x ∈ d.frozen := by
    simp only at hx
    split at hx
    · exact List.mem_cons.1 hx
    · exact .inr hx
  rcases hx' with rfl | hx'
  · exact ⟨k, by simp, rfl⟩
  · obtain ⟨y, hy, rfl⟩ := h.frozen x hx'
    exact ⟨y, by simp [hy], rfl⟩

theorem AtTop.openTable {top : Table} {name : String} (h : AtTop d top)
    (hname : name ∉ Keyed.keys top) :
    ∃ d', Line.enter d (.header name) = .ok d' ∧ InSection d' top name [] := by
  -- only keys of the top are frozen, and the name is none of them
  have hfrozen : isFrozen d.frozen [name] = false := by
    rw [isFrozen, List.any_eq_false]
    intro k hk hfront
    obtain ⟨x, hx, rfl⟩ := h.frozen k hk
    simp only [List.isPrefixOf, Bool.and_true, beq_iff_eq] at hfront
    exact hname (hfront ▸ hx)
  have hopen : d.closeSection.openTable [name] = .ok
      { d.closeSection with
        data := top ++ [(name, .table [])]
        header := [name]
        explicit := [[name]] } := by
    simp [Draft.openTable, Draft.closeSection, h.explicit, h.pending, h.data, hfrozen, Nest.update,
      (Keyed.lookup_eq_none name top).2 hname, Keyed.put_of_notMem hname, Except.map]
  exact ⟨_, hopen, rfl, rfl, hfrozen⟩

theorem InSection.enter {top fields : Table} {name k : String} (h : InSection d top name fields)
    (hname : name ∉ Keyed.keys top) (hk : k ∉ Keyed.keys fields) (v : Value) :
    ∃ d', Line.enter d (.entry k v) = .ok d' ∧ InSection d' top name (fields ++ [(k, v)]) := by
  have hlookup : d.data.lookup name = some (.table fields) := by
    rw [h.data, ← Keyed.put_of_notMem hname, Keyed.lookup_put_self]
  have hput : ∀ u, Keyed.put name u d.data = top ++ [(name, u)] := by
    intro u
    rw [h.data, ← Keyed.put_of_notMem hname, Keyed.put_put, Keyed.put_of_notMem hname]
  have hset : d.setKey [k] v = .ok
      { d with
        data := top ++ [(name, .table (fields ++ [(k, v)]))]
        frozen := if isContainer v then [name, k] :: d.frozen else d.frozen } := by
    simp [Draft.setKey, Draft.passedKeys, h.header, h.notFrozen, hlookup, hput, Nest.update,
      setNew_of_notMem hk, Except.map]
  -- a path that is longer than the header does not freeze it
  refine ⟨_, hset, rfl, h.header, ?_⟩
  have hfrozen := h.notFrozen
  simp only [isFrozen] at hfrozen ⊢
  split
  · simp [hfrozen]
  · exact hfrozen

/-- The lines with the keys and values of a table. -/
def entryLines (t : Table) : List Line :=
  t.map fun p => .entry p.1 p.2

/-- If each new key keeps what is said of a draft and its table, so do all lines of a table. -/
theorem foldlM_entryLines {P : Draft → Table → Prop}
    (hstep : ∀ d t k v, P d t → k ∉ Keyed.keys t →
      ∃ d', Line.enter d (.entry k v) = .ok d' ∧ P d' (t ++ [(k, v)]))
    {t more : Table} (h : P d t) (hnodup : (Keyed.keys (t ++ more)).Nodup) :
    ∃ d', (entryLines more).foldlM Line.enter d = .ok d' ∧ P d' (t ++ more) := by
  induction more generalizing d t with
  | nil => exact ⟨d, rfl, by rwa [List.append_nil]⟩
  | cons p more ih =>
    have hp : p.1 ∉ Keyed.keys t := by
      rw [Keyed.keys_append, List.nodup_append] at hnodup
      exact fun hmem => hnodup.2.2 _ hmem _ List.mem_cons_self rfl
    obtain ⟨d₁, hd₁, h₁⟩ := hstep d t p.1 p.2 h hp
    rw [List.append_cons] at hnodup ⊢
    obtain ⟨d', hd', h'⟩ := ih h₁ hnodup
    refine ⟨d', ?_, h'⟩
    rw [entryLines, List.map_cons, List.foldlM_cons, hd₁]
    exact hd'

/-- The lines that write some keys and then one table. -/
def sectionLines (top : Table) (name : String) (fields : Table) : List Line :=
  entryLines top ++ .header name :: entryLines fields

/-- Lines with empty lines and comments between them. -/
inductive WithFiller : List (List Char) → List (List Char) → Prop where
  | nil : WithFiller [] []
  | filler {text : List Char} {texts lines : List (List Char)} :
      IsFiller text → WithFiller texts lines → WithFiller (text :: texts) lines
  | line {text : List Char} {texts lines : List (List Char)} :
      WithFiller texts lines → WithFiller (text :: texts) (text :: lines)

theorem withFiller_self (lines : List (List Char)) : WithFiller lines lines := by
  induction lines with
  | nil => exact .nil
  | cons text lines ih => exact .line ih

theorem WithFiller.append {fillers texts lines : List (List Char)} (hfillers : ∀ t ∈ fillers, IsFiller t)
    (h : WithFiller texts lines) : WithFiller (fillers ++ texts) lines := by
  induction fillers with
  | nil => exact h
  | cons t fillers ih =>
    rw [List.forall_mem_cons] at hfillers
    exact .filler hfillers.1 (ih hfillers.2)

theorem WithFiller.of_filter {texts lines : List (List Char)}
    (h : (texts.filter fun t => !decide (IsFiller t)) = lines) : WithFiller texts lines := by
  subst h
  induction texts with
  | nil => exact .nil
  | cons t texts ih =>
    by_cases ht : IsFiller t
    · rw [List.filter_cons_of_neg (by simp [ht])]
      exact .filler ht ih
    · rw [List.filter_cons_of_pos (by simp [ht])]
      exact .line ih

/-- Empty lines and comments have no effect. -/
theorem WithFiller.exists_lines {texts lines : List (List Char)} (h : WithFiller texts lines)
    {ls : List Line} (hls : List.Forall₂ LineText ls lines) :
    ∃ ls', List.Forall₂ LineText ls' texts ∧
      ∀ d, ls'.foldlM Line.enter d = ls.foldlM Line.enter d := by
  induction h generalizing ls with
  | nil =>
    cases hls
    exact ⟨[], .nil, fun d => rfl⟩
  | filler ht _ ih =>
    obtain ⟨ls', hls', heq⟩ := ih hls
    exact ⟨.filler :: ls', .cons (.filler ht) hls', heq⟩
  | line _ ih =>
    cases hls with
    | cons hl hls =>
      obtain ⟨ls', hls', heq⟩ := ih hls
      refine ⟨_ :: ls', .cons hl hls', fun d => ?_⟩
      rw [List.foldlM_cons, List.foldlM_cons]
      exact congrArg _ (funext heq)

/-- A document that writes some keys and one table, with comments and empty lines anywhere, is read as
the keys and the table. -/
theorem parse_section {top fields : Table} {name : String} (htop : (Keyed.keys top).Nodup)
    (hname : name ∉ Keyed.keys top) (hfields : (Keyed.keys fields).Nodup) {text : String}
    {texts lines : List (List Char)} (htext : text.toList = texts.flatMap (· ++ ['\n']))
    (hlines : WithFiller texts lines)
    (hls : List.Forall₂ LineText (sectionLines top name fields) lines) :
    parse text = .ok (top ++ [(name, .table fields)]) := by
  obtain ⟨ls, hls', hfold⟩ := hlines.exists_lines hls
  -- the keys of the top, the header, and the keys below it
  obtain ⟨d₁, hd₁, h₁⟩ := foldlM_entryLines (P := AtTop) (fun _ _ _ v h hk => h.enter hk v)
    (d := {}) ⟨rfl, rfl, rfl, rfl, fun k hk => by cases hk⟩ htop
  obtain ⟨d₂, hd₂, h₂⟩ := h₁.openTable hname
  obtain ⟨d₃, hd₃, h₃⟩ := foldlM_entryLines (P := fun d t => InSection d top name t)
    (fun _ _ _ v h hk => h.enter hname hk v) h₂ hfields
  have hd : ls.foldlM Line.enter {} = .ok d₃ := by
    rw [hfold, sectionLines, List.foldlM_append, hd₁]
    simp only [List.foldlM_cons, hd₂, hd₃, bind, Except.bind]
  exact (parse_lines htext hls' hd).trans (congrArg Except.ok h₃.data)

end Bundler.Toml
