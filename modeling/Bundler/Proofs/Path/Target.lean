import Bundler.Proofs.Path
import Bundler.Proofs.Text.Lines

/-!
# Bundler.Proofs.Path.Target

Where path names lead. A name is followed field by field: an empty field and a dot stay, a double dot
leads one level up, and any other field leads down. Locating a specifier collects all parts first and
takes the double dots out of them on a stack; it arrives at the same place.

* `Path.walk`, `Path.target`: the place that a name leads to.
* `locate_eq_target`: locating a specifier arrives at its target.
* `Path.IsPlace`: a full path with names only. Following a name leads from places to places.
* `IsPlace.locate_text`: from every root, the name of a place is located at this place.
* `Path.IsDetour`, `target_detour`: text that leads back to where it is put in.
* `locate_one_name`: all spellings of one target are located at one place with one name.
-/

namespace Bundler

namespace Path

/-- Where one field of a path name leads. -/
def follow (p : Path) (field : List Char) : Path :=
  if field = [] ∨ field = ['.'] then p
  else if field = ['.', '.'] then p.parent
  else ⟨p.anchor, p.parts ++ [String.ofList field]⟩

/-- Where the fields of a path name lead, one after the other. -/
def walk (p : Path) (name : List Char) : Path :=
  (Text.fields (· == '/') name).foldl follow p

/-- The place that a name leads to from `p`; slashes in front lead to the top first. -/
def target (p : Path) (name : String) : Path :=
  walk (if (ofString name).isAbsolute then ⟨(ofString name).anchor, []⟩ else p) name.toList

theorem walk_append_slash (p : Path) (front rest : List Char) :
    walk p (front ++ '/' :: rest) = walk (walk p front) rest := by
  rw [walk, Text.fields_append_separator rfl, List.foldl_append]
  rfl

/-- The slashes of an anchor lead nowhere by themselves. -/
theorem walk_chars (p : Path) (a : Anchor) (name : List Char) :
    walk p (a.chars ++ name) = walk p name := by
  cases a with
  | none => rfl
  | single => exact walk_append_slash p [] name
  | double => exact (walk_append_slash p [] ('/' :: name)).trans (walk_append_slash p [] name)

theorem walk_field {field : List Char} (h : '/' ∉ field) (p : Path) :
    walk p field = p.follow field := by
  rw [walk, fields_of_slash_notMem h]
  rfl

theorem IsFileName.walk_eq {name : String} (h : IsFileName name) (p : Path) :
    walk p name.toList = ⟨p.anchor, p.parts ++ [name]⟩ := by
  have hstays : ¬(name.toList = [] ∨ name.toList = ['.']) :=
    not_or.2 ⟨fun heq => h.ne_empty (String.toList_injective heq),
      fun heq => h.ne_dot (String.toList_injective heq)⟩
  have hdots : name.toList ≠ ['.', '.'] := fun heq => h.ne_dots (String.toList_injective heq)
  rw [walk_field h.slash, follow, if_neg hstays, if_neg hdots, String.ofList_toList]

/-! ## The stack of parts -/

/-- Following one field does to a path what the part of the field, if it is one, does to the stack. -/
theorem follow_reverse {stack : List String} (h : ".." ∉ stack) (a : Anchor) (field : List Char) :
    follow ⟨a, stack.reverse⟩ field =
      ⟨a, (if field != [] && field != ['.'] then pushPart true stack (String.ofList field)
        else stack).reverse⟩ := by
  by_cases hstays : field = [] ∨ field = ['.']
  · have hdropped : (field != [] && field != ['.']) = false := by
      rcases hstays with rfl | rfl <;> rfl
    rw [follow, if_pos hstays, hdropped]
    rfl
  · have hkept : (field != [] && field != ['.']) = true := by
      rw [Bool.and_eq_true, bne_iff_ne, bne_iff_ne]
      exact not_or.1 hstays
    rw [follow, if_neg hstays, hkept, if_pos rfl]
    by_cases hdots : field = ['.', '.']
    · have hpop : pushPart true stack (String.ofList field) = stack.tail := by
        rw [hdots, ← List.drop_one]
        exact pushPart_drop h 0
      rw [if_pos hdots, hpop, parent, List.dropLast_reverse]
    · have hname : String.ofList field ≠ ".." := fun heq => hdots (String.ofList_injective heq)
      rw [if_neg hdots, pushPart_of_ne hname, List.reverse_cons]

theorem walk_reverse {stack : List String} (h : ".." ∉ stack) (a : Anchor) (name : List Char) :
    walk ⟨a, stack.reverse⟩ name = ⟨a, ((partsOf name).foldl (pushPart true) stack).reverse⟩ := by
  rw [walk, partsOf, List.foldl_map, List.foldl_filter]
  generalize Text.fields (· == '/') name = fields
  -- the stack has no double dots at any time, so that each of them leads up
  induction fields generalizing stack with
  | nil => rfl
  | cons field fields ih =>
    rw [List.foldl_cons, List.foldl_cons, follow_reverse h]
    apply ih
    split
    · exact notMem_foldl_pushPart h [String.ofList field]
    · exact h

theorem normalize_ofString {name : String} (h : (ofString name).isAbsolute = true) (p : Path) :
    (ofString name).normalize = p.target name := by
  have hwalk := walk_reverse List.not_mem_nil (ofString name).anchor name.toList
  rw [target, if_pos h, normalize, h]
  exact hwalk.symm

theorem locate_of_isAbsolute {specifier : String} (h : (ofString specifier).isAbsolute = true)
    (root : Path) : root.locate specifier = (ofString specifier).normalize :=
  congrArg normalize (if_pos h)

/-- Locating a specifier arrives where it leads from the root. -/
theorem locate_eq_target {root : Path} (h : root.isAbsolute = true) (specifier : String) :
    root.locate specifier = root.normalize.target specifier := by
  cases hq : (ofString specifier).isAbsolute with
  | true => rw [locate_of_isAbsolute hq, normalize_ofString hq]
  | false =>
    obtain ⟨hparts, hanchor⟩ := parts_append hq root
    have hroot := notMem_foldl_pushPart List.not_mem_nil root.parts
    change (root / ofString specifier).normalize = _
    rw [normalize, isAbsolute_div h, hparts, hanchor, List.foldl_append, target, hq, normalize, h]
    exact (walk_reverse hroot root.anchor specifier.toList).symm

/-! ## Places -/

/-- A full path without double dots, dots and empty parts. -/
structure IsPlace (p : Path) : Prop where
  isAbsolute : p.isAbsolute = true
  names : ∀ part ∈ p.parts, IsFileName part

theorem isPlace_follow {p : Path} (h : p.IsPlace) {field : List Char} (hslash : '/' ∉ field) :
    (p.follow field).IsPlace := by
  unfold follow
  split
  · exact h
  · rename_i hstays
    split
    · exact ⟨h.isAbsolute, fun part hpart => h.names part (List.dropLast_subset _ hpart)⟩
    · rename_i hdots
      refine ⟨h.isAbsolute, fun part hpart => ?_⟩
      rcases List.mem_append.1 hpart with hpart | hpart
      · exact h.names part hpart
      · rw [List.mem_singleton.1 hpart]
        exact ⟨fun heq => hstays (.inl (String.ofList_injective heq)),
          fun heq => hstays (.inr (String.ofList_injective heq)),
          fun heq => hdots (String.ofList_injective heq), by rwa [String.toList_ofList]⟩

theorem isPlace_walk {p : Path} (h : p.IsPlace) (name : List Char) : (p.walk name).IsPlace := by
  have hslash : ∀ field ∈ Text.fields (· == '/') name, '/' ∉ field :=
    fun field hfield => Text.notMem_of_mem_fields hfield rfl
  unfold walk
  generalize Text.fields (· == '/') name = fields at hslash
  induction fields generalizing p with
  | nil => exact h
  | cons field fields ih =>
    rw [List.forall_mem_cons] at hslash
    exact ih (isPlace_follow h hslash.1) hslash.2

theorem isPlace_target {p : Path} (h : p.IsPlace) (name : String) : (p.target name).IsPlace := by
  refine isPlace_walk ?_ name.toList
  split
  · rename_i habs
    exact ⟨habs, fun part hpart => absurd hpart List.not_mem_nil⟩
  · exact h

theorem isPlace_top : IsPlace (ofParts []) :=
  ⟨rfl, fun _ hpart => absurd hpart List.not_mem_nil⟩

theorem isPlace_locate {base : String} (h : (ofString base).isAbsolute = true) (specifier : String) :
    ((ofString base).locate specifier).IsPlace := by
  rw [locate_eq_target h, normalize_ofString h (ofParts [])]
  exact isPlace_target (isPlace_target isPlace_top base) specifier

/-! ## Names of places -/

theorem text_of_isAbsolute {p : Path} (h : p.isAbsolute = true) :
    p.text = String.ofList (p.anchor.chars ++ Text.joinWith ['/'] (p.parts.map String.toList)) := by
  obtain ⟨anchor, parts⟩ := p
  cases anchor with
  | none => cases h
  | single => rfl
  | double => rfl

theorem joinWith_slash (names : List String) :
    Text.joinWith ['/'] (names.map String.toList) = ("/".intercalate names).toList := by
  induction names with
  | nil => rfl
  | cons name names ih =>
    cases names with
    | nil => simp [Text.joinWith]
    | cons next names =>
      rw [List.map_cons, List.map_cons, Text.joinWith, ← List.map_cons, ih,
        String.intercalate_cons_cons, String.toList_append, String.toList_append]
      rfl

/-- The name of a place: one slash or two, then names with a slash between neighbours. -/
theorem IsPlace.text_eq {p : Path} (h : p.IsPlace) :
    p.text = (if p.anchor = .double then "//" else "/") ++ "/".intercalate p.parts := by
  rw [text_of_isAbsolute h.isAbsolute, joinWith_slash, String.ofList_append, String.ofList_toList]
  have habs := h.isAbsolute
  cases hanchor : p.anchor with
  | none => simp [Path.isAbsolute, hanchor] at habs
  | single => rfl
  | double => rfl

theorem walk_joinWith {names : List String} (h : ∀ name ∈ names, IsFileName name) (p : Path) :
    walk p (Text.joinWith ['/'] (names.map String.toList)) = ⟨p.anchor, p.parts ++ names⟩ := by
  induction names generalizing p with
  | nil => exact congrArg (Path.mk p.anchor) (List.append_nil p.parts).symm
  | cons name names ih =>
    rw [List.forall_mem_cons] at h
    cases names with
    | nil => exact h.1.walk_eq p
    | cons next names =>
      rw [List.map_cons, List.map_cons, Text.joinWith, ← List.map_cons, List.append_assoc,
        List.singleton_append, walk_append_slash, h.1.walk_eq, ih h.2, List.append_assoc,
        List.singleton_append]

theorem head?_joinWith_slash {names : List String} (h : ∀ name ∈ names, IsFileName name) :
    (Text.joinWith ['/'] (names.map String.toList)).head? ≠ some '/' := by
  cases names with
  | nil => simp [Text.joinWith]
  | cons name names =>
    obtain ⟨c, hc, hhead⟩ := (h name List.mem_cons_self).head?
    cases names with
    | nil => simpa [Text.joinWith, hhead] using hc
    | cons next names => simpa [Text.joinWith, hhead] using hc

theorem IsPlace.anchor_text {p : Path} (h : p.IsPlace) : (ofString p.text).anchor = p.anchor := by
  rw [text_of_isAbsolute h.isAbsolute, ofString, String.toList_ofList]
  exact Anchor.ofChars_append (head?_joinWith_slash h.names) p.anchor

theorem IsPlace.isAbsolute_text {p : Path} (h : p.IsPlace) :
    (ofString p.text).isAbsolute = true := by
  rw [Path.isAbsolute, h.anchor_text]
  exact h.isAbsolute

/-- The name of a place leads to this place. -/
theorem IsPlace.target_text {p : Path} (h : p.IsPlace) (q : Path) : q.target p.text = p := by
  rw [target, if_pos h.isAbsolute_text, h.anchor_text, text_of_isAbsolute h.isAbsolute,
    String.toList_ofList, walk_chars, walk_joinWith h.names]
  rfl

theorem IsPlace.locate_text {p : Path} (h : p.IsPlace) (root : Path) : root.locate p.text = p := by
  rw [locate_of_isAbsolute h.isAbsolute_text, normalize_ofString h.isAbsolute_text root,
    h.target_text]

/-! ## Detours -/

/-- Text that leads back to where it begins: a dot, or a name and a double dot. -/
def IsDetour (s : String) : Prop :=
  s = "./" ∨ ∃ name, IsFileName name ∧ s = name ++ "/../"

theorem walk_detour {detour : String} (h : IsDetour detour) (p : Path) (rest : List Char) :
    walk p (detour.toList ++ rest) = walk p rest := by
  rcases h with rfl | ⟨name, hname, rfl⟩
  · exact walk_append_slash p ['.'] rest
  · have hsplit : (name ++ "/../").toList ++ rest =
        name.toList ++ '/' :: (['.', '.'] ++ '/' :: rest) := by simp
    have hback : walk ⟨p.anchor, p.parts ++ [name]⟩ ['.', '.'] = p := by
      change Path.mk p.anchor (p.parts ++ [name]).dropLast = p
      rw [List.dropLast_concat]
    rw [hsplit, walk_append_slash, hname.walk_eq, walk_append_slash, hback]

/-- A detour at the front of a name or right after one of its slashes. -/
theorem walk_insert_detour {front rest detour : String}
    (hfront : front = "" ∨ ∃ dir, front = dir ++ "/") (hdetour : IsDetour detour) (p : Path) :
    walk p (front ++ detour ++ rest).toList = walk p (front ++ rest).toList := by
  simp only [String.toList_append, List.append_assoc]
  rcases hfront with rfl | ⟨dir, rfl⟩
  · exact walk_detour hdetour p rest.toList
  · have hsplit : ∀ s : List Char, (dir ++ "/").toList ++ s = dir.toList ++ '/' :: s := by simp
    rw [hsplit, hsplit, walk_append_slash, walk_append_slash, walk_detour hdetour]

theorem isAbsolute_ofString (name : String) :
    (ofString name).isAbsolute = true ↔ name.toList.head? = some '/' := by
  simp only [isAbsolute, ofString, bne_iff_ne]
  unfold Anchor.ofChars
  split <;> simp_all [List.head?_eq_some_iff]

/-- A detour has no slash in front. -/
theorem head?_detour {detour : String} (h : IsDetour detour) :
    ∃ c, c ≠ '/' ∧ detour.toList.head? = some c := by
  rcases h with rfl | ⟨name, hname, rfl⟩
  · exact ⟨'.', by decide, rfl⟩
  · obtain ⟨c, hc, hhead⟩ := hname.head?
    exact ⟨c, hc, by rw [String.toList_append, List.head?_append, hhead]; rfl⟩

theorem isAbsolute_insert_detour {front rest detour : String}
    (hrelative : (ofString (front ++ rest)).isAbsolute = false) (hdetour : IsDetour detour) :
    (ofString (front ++ detour ++ rest)).isAbsolute = false := by
  obtain ⟨c, hc, hhead⟩ := head?_detour hdetour
  rw [← Bool.not_eq_true, isAbsolute_ofString] at hrelative ⊢
  simp only [String.toList_append, List.head?_append, hhead] at hrelative ⊢
  cases hfront : front.toList.head? with
  | none => simpa using hc
  | some d =>
    rw [hfront] at hrelative
    exact hrelative

/-- A detour in a name without an anchor does not change where the name leads. -/
theorem target_detour {front rest detour : String}
    (hrelative : (ofString (front ++ rest)).isAbsolute = false)
    (hfront : front = "" ∨ ∃ dir, front = dir ++ "/") (hdetour : IsDetour detour) (p : Path) :
    p.target (front ++ detour ++ rest) = p.target (front ++ rest) := by
  rw [target, isAbsolute_insert_detour hrelative hdetour, target, hrelative]
  exact walk_insert_detour hfront hdetour p

/-! ## One name -/

/-- A specifier is located where it leads from the root. The path has a name of its own: it begins with
one slash or two, has no empty part, dot or double dot after them, and is located at the same place from
every root. Detours in a specifier without an anchor make no difference. -/
theorem locate_one_name {base : String} (hbase : (ofString base).isAbsolute = true)
    (specifier : String) :
    (∀ p : Path, (ofString base).locate specifier = (p.target base).target specifier) ∧
    ((ofString base).locate specifier).isAbsolute = true ∧
    (∃ slashes names, (slashes = "/" ∨ slashes = "//") ∧ (∀ name ∈ names, IsFileName name) ∧
      ((ofString base).locate specifier).text = slashes ++ "/".intercalate names) ∧
    (∀ root : Path,
      root.locate ((ofString base).locate specifier).text = (ofString base).locate specifier) ∧
    ∀ front rest detour : String, front ++ rest = specifier →
      (ofString specifier).isAbsolute = false → (front = "" ∨ ∃ dir, front = dir ++ "/") →
      IsDetour detour →
      (ofString base).locate (front ++ detour ++ rest) = (ofString base).locate specifier := by
  have hplace := isPlace_locate hbase specifier
  refine ⟨fun p => ?_, hplace.isAbsolute, ⟨_, _, ?_, hplace.names, hplace.text_eq⟩,
    hplace.locate_text, ?_⟩
  · rw [locate_eq_target hbase, normalize_ofString hbase p]
  · split
    · exact .inr rfl
    · exact .inl rfl
  · rintro front rest detour rfl hrelative hfront hdetour
    rw [locate_eq_target hbase, locate_eq_target hbase, target_detour hrelative hfront hdetour]

theorem locate_one_name_sample :
    (ofString "//srv/x/..").isAbsolute = true ∧
      ((ofString "//srv/x/..").locate "a//./b/../../../../c.vue").text = "//c.vue" ∧
      (∀ root : Path, root.locate "//c.vue" =
        (ofString "//srv/x/..").locate "a//./b/../../../../c.vue") ∧
      (ofString "//srv/x/..").locate "a/..b/..//./b/../../../../c.vue" = ofString "//c.vue" := by
  have hbase : (ofString "//srv/x/..").isAbsolute = true := by decide +kernel
  have htext : ((ofString "//srv/x/..").locate "a//./b/../../../../c.vue").text = "//c.vue" := by
    decide +kernel
  obtain ⟨_, _, _, hagain, hdetours⟩ := locate_one_name hbase "a//./b/../../../../c.vue"
  rw [htext] at hagain
  refine ⟨hbase, htext, hagain, ?_⟩
  have hname : IsFileName "..b" := ⟨by decide, by decide, by decide, by decide⟩
  have hspelled : "a/..b/..//./b/../../../../c.vue" =
      "a/" ++ "..b/../" ++ "/./b/../../../../c.vue" := by decide
  rw [hspelled, hdetours "a/" "/./b/../../../../c.vue" "..b/../" (by decide) (by decide +kernel)
    (.inr ⟨"a", rfl⟩) (.inr ⟨"..b", hname, by decide⟩)]
  decide +kernel

end Path

end Bundler
