import Bundler.Fragment
import Bundler.Proofs.Section

/-!
# Bundler.Proofs.Fragment

What can be read off a fragment. Template and script stand in it as they are, with a backtick and a comma
between them and nothing escaped. So a template that holds a backtick and a comma in a row cannot be told
from a shorter one whose script begins with the rest.

* `RunsOver t s t' s'`: the template `t'` goes on behind the place where `t` ends.
* `statement_eq_iff`: when two components have the same statement.
* `literal_statement_eq_iff`: when the literal of a statement ends where the template ends.
* `render_eq_iff`: the same for the sections of two sources.
* `render_same_of_two_templates`: two sources with different templates and one fragment.
-/

namespace Bundler.Fragment

def opening (kind : Kind) (runtime label : String) : String :=
  match kind with
  | .root => "\nconst " ++ label ++ " = new " ++ runtime ++ "(" ++ "\x7btemplate: `"
  | .named =>
    "\nconst " ++ label ++ " = " ++ runtime ++ ".component(\"" ++ label ++ "\", " ++ "\x7btemplate: `"

theorem statement_eq (kind : Kind) (runtime label template script : String) :
    statement kind runtime label template script =
      opening kind runtime label ++ (template ++ "`," ++ script) ++ "\x7d)" := by
  -- the equation lemmas of these definitions take long to state, because of their literals
  have hoptions : options template script = "\x7btemplate: `" ++ template ++ "`," ++ script ++ "\x7d" := by
    delta options
    rfl
  cases kind with
  | root =>
    delta statement opening
    simp only [hoptions, String.append_assoc]
    rfl
  | named =>
    delta statement opening
    simp only [hoptions, String.append_assoc]
    rfl

/-- The template `t'` goes on behind the place where `t` ends: what follows there in `t'` is what the
script `s` begins with. -/
def RunsOver (t s t' s' : String) : Prop :=
  ∃ u, t' = t ++ "`," ++ u ∧ s = u ++ "`," ++ s'

/-- A template holds a backtick and a comma in a row. -/
def HasMark (t : String) : Prop :=
  ∃ a b, t = a ++ "`," ++ b

theorem RunsOver.hasMark {t s t' s' : String} (h : RunsOver t s t' s') : HasMark t' := by
  obtain ⟨u, ht, _⟩ := h
  exact ⟨t, u, ht⟩

theorem RunsOver.joined_eq {t s t' s' : String} (h : RunsOver t s t' s') :
    t ++ "`," ++ s = t' ++ "`," ++ s' := by
  obtain ⟨u, rfl, rfl⟩ := h
  simp [String.append_assoc]

/-- Of two ways to cut a text at a mark, the second leaves at least the mark to the template. -/
theorem runsOver_of_append {t u s s' : List Char} (h : '`' :: ',' :: s = u ++ '`' :: ',' :: s') :
    u = [] ∧ s = s' ∨
      RunsOver (.ofList t) (.ofList s) (.ofList (t ++ u)) (.ofList s') := by
  match u with
  | [] => exact .inl ⟨rfl, by simpa using h⟩
  -- the backtick of the second cut would stand on the comma of the first
  | [c] => simp at h
  | c :: d :: u =>
    obtain ⟨rfl, rfl, rfl⟩ : '`' = c ∧ ',' = d ∧ s = u ++ '`' :: ',' :: s' := by simpa using h
    refine .inr ⟨.ofList u, ?_, ?_⟩
    · apply String.toList_inj.1
      simp
    · apply String.toList_inj.1
      simp

theorem joined_eq_iff {t s t' s' : String} :
    t ++ "`," ++ s = t' ++ "`," ++ s' ↔
      t = t' ∧ s = s' ∨ RunsOver t s t' s' ∨ RunsOver t' s' t s := by
  constructor
  · intro h
    have hlist : t.toList ++ '`' :: ',' :: s.toList = t'.toList ++ '`' :: ',' :: s'.toList := by
      simpa using congrArg String.toList h
    rcases List.append_eq_append_iff.1 hlist with ⟨u, ht, hs⟩ | ⟨u, ht, hs⟩
    · rcases runsOver_of_append (t := t.toList) hs with ⟨rfl, heq⟩ | hover
      · exact .inl ⟨String.toList_inj.1 (by simpa using ht.symm), String.toList_inj.1 heq⟩
      · rw [← ht] at hover
        exact .inr (.inl (by simpa using hover))
    · rcases runsOver_of_append (t := t'.toList) hs with ⟨rfl, heq⟩ | hover
      · exact .inl ⟨String.toList_inj.1 (by simpa using ht), String.toList_inj.1 heq.symm⟩
      · rw [← ht] at hover
        exact .inr (.inr (by simpa using hover))
  · rintro (⟨rfl, rfl⟩ | h | h)
    · rfl
    · exact h.joined_eq
    · exact h.joined_eq.symm

/-- Two components of one kind and label have the same statement exactly when they have the same template
and script, or one template runs over the end of the other. -/
theorem statement_eq_iff (kind : Kind) (runtime label t s t' s' : String) :
    statement kind runtime label t s = statement kind runtime label t' s' ↔
      t = t' ∧ s = s' ∨ RunsOver t s t' s' ∨ RunsOver t' s' t s := by
  rw [statement_eq, statement_eq, String.append_left_inj, String.append_right_inj, joined_eq_iff]

/-! ## The literal -/

/-- What stands before the first backtick, apart from those that a backslash takes with it. -/
def untilBacktick : List Char → List Char
  | '\\' :: c :: s => '\\' :: c :: untilBacktick s
  | '`' :: _ => []
  | c :: s => c :: untilBacktick s
  | [] => []

/-- A text that can stand in a literal: every backtick has its backslash, and no backslash is left to take
the backtick behind the text. -/
def isLiteral : List Char → Bool
  | '\\' :: _ :: s => isLiteral s
  | '\\' :: [] => false
  | '`' :: _ => false
  | _ :: s => isLiteral s
  | [] => true

theorem untilBacktick_append_eq_iff (t s : List Char) :
    untilBacktick (t ++ '`' :: s) = t ↔ isLiteral t = true := by
  fun_induction isLiteral t with
  | case1 c t ih => simpa [untilBacktick] using ih
  | case2 => simp [untilBacktick]
  | case3 t => simp [untilBacktick]
  | case4 c t hpair hend hmark ih =>
    have hslash : c ≠ '\\' := by
      rintro rfl
      cases t with
      | nil => exact hend rfl rfl
      | cons d t => exact hpair d t rfl rfl
    rw [List.cons_append, untilBacktick]
    · simpa using ih
    · simp [hslash]
    · exact hmark
  | case5 => simp [untilBacktick]

/-- The literal of a fragment, which begins with the backtick before the template. -/
def literal (kind : Kind) (runtime label fragment : String) : String :=
  .ofList (untilBacktick (fragment.toList.drop (opening kind runtime label).toList.length))

/-- The literal ends where the template ends exactly when the template can stand in one. -/
theorem literal_statement_eq_iff (kind : Kind) (runtime label t s : String) :
    literal kind runtime label (statement kind runtime label t s) = t ↔ isLiteral t.toList = true := by
  have hbehind : (statement kind runtime label t s).toList.drop (opening kind runtime label).toList.length =
      t.toList ++ '`' :: ',' :: (s.toList ++ ['}', ')']) := by
    rw [statement_eq, String.toList_append, String.toList_append, List.append_assoc, List.drop_left]
    simp
  rw [literal, hbehind, ← untilBacktick_append_eq_iff, ← String.toList_inj, String.toList_ofList]

/-! ## Sources -/

theorem ne_none_of_extract? {k : Section} {source : List Char} {s : Option (List Char)}
    (h : k.extract? [] source = .ok s) : ∃ text, s = some text := by
  unfold Section.extract? at h
  split at h
  · simp at h
  · split at h
    · cases h
      exact ⟨_, rfl⟩
    · cases h

theorem exists_of_extract {source : String} {x : Sections} (h : Sections.extract [] source = .ok x) :
    ∃ t s, x.template = some t ∧ x.script = some s := by
  obtain ⟨template, script, style, htemplate, hscript, _, rfl⟩ := Sections.extract_eq_ok_iff.1 h
  obtain ⟨t, rfl⟩ := ne_none_of_extract? htemplate
  obtain ⟨s, rfl⟩ := ne_none_of_extract? hscript
  exact ⟨_, _, rfl, rfl⟩

theorem render_fill {x : Sections} {t s : String} (ht : x.template = some t) (hs : x.script = some s)
    (runtime : String) (c : Component) :
    render runtime (x.fill c) = .ok (statement c.kind runtime c.label t s) := by
  simp only [render, Sections.fill, ht, hs]
  rfl

/-- Two sources with all their sections, under one label and of one kind, have fragments. These are equal
exactly when templates and scripts are, or one template runs over the end of the other; so they tell apart
templates without a backtick and a comma in a row. The literal in a fragment ends where its template ends
exactly when the template leaves no backtick and no last backslash alone. -/
theorem render_eq_iff {source source' : String} {x x' : Sections} {c c' : Component}
    (hx : Sections.extract [] source = .ok x) (hx' : Sections.extract [] source' = .ok x')
    (hlabel : c.label = c'.label) (hroot : c.isRoot = c'.isRoot) (runtime : String) :
    ∃ t s t' s' f f', x.template = some t ∧ x.script = some s ∧ x'.template = some t' ∧
      x'.script = some s' ∧ render runtime (x.fill c) = .ok f ∧ render runtime (x'.fill c') = .ok f' ∧
      (f = f' ↔ t = t' ∧ s = s' ∨ RunsOver t s t' s' ∨ RunsOver t' s' t s) ∧
      (¬ HasMark t → ¬ HasMark t' → f = f' → t = t' ∧ s = s') ∧
      (literal c.kind runtime c.label f = t ↔ isLiteral t.toList = true) := by
  obtain ⟨t, s, ht, hs⟩ := exists_of_extract hx
  obtain ⟨t', s', ht', hs'⟩ := exists_of_extract hx'
  have hkind : c'.kind = c.kind := by rw [Component.kind, Component.kind, hroot]
  have hiff := statement_eq_iff c.kind runtime c.label t s t' s'
  refine ⟨t, s, t', s', _, _, ht, hs, ht', hs', render_fill ht hs runtime c, ?_, hiff, ?_,
    literal_statement_eq_iff c.kind runtime c.label t s⟩
  · rw [render_fill ht' hs' runtime c', hkind, hlabel]
  · intro hmark hmark' heq
    rcases hiff.1 heq with hsame | hover | hover
    · exact hsame
    · exact absurd hover.hasMark hmark'
    · exact absurd hover.hasMark hmark

theorem extract_of_toOption {source : String} {x : Sections}
    (h : (Sections.extract [] source).toOption = some x) : Sections.extract [] source = .ok x := by
  cases hx : Sections.extract [] source with
  | error e =>
    rw [hx] at h
    cases h
  | ok y =>
    rw [hx] at h
    cases h
    rfl

def sampleAt (path : String) : Component :=
  { label := "A", path := .ofString path }

/-- Two layouts of one component, whose template has a backtick. -/
def wideSource : String :=
  "<template>\n  a`b\n</template><script>\x7b c \x7d</script><style></style>"

def tightSource : String :=
  "<style></style><script>\x7bc\x7d</script><template>a`b</template>"

theorem render_eq_iff_layouts :
    ∃ x x' f, Sections.extract [] wideSource = .ok x ∧ Sections.extract [] tightSource = .ok x' ∧
      render "Vue" (x.fill (sampleAt "A.vue")) = .ok f ∧
      render "Vue" (x'.fill (sampleAt "B.vue")) = .ok f ∧
      literal .named "Vue" "A" f ≠ "a`b" := by
  have hwide : Sections.extract [] wideSource = .ok ⟨some "a`b", some "c", some ""⟩ :=
    extract_of_toOption (by decide +kernel)
  have htight : Sections.extract [] tightSource = .ok ⟨some "a`b", some "c", some ""⟩ :=
    extract_of_toOption (by decide +kernel)
  obtain ⟨t, s, t', s', f, f', ht, hs, ht', hs', hf, hf', hiff, _, hliteral⟩ :=
    render_eq_iff hwide htight (show (sampleAt "A.vue").label = (sampleAt "B.vue").label from rfl) rfl
      "Vue"
  cases ht
  cases hs
  cases ht'
  cases hs'
  obtain rfl := hiff.2 (.inl ⟨rfl, rfl⟩)
  exact ⟨_, _, f, hwide, htight, hf, hf', fun heq => absurd (hliteral.1 heq) (by decide)⟩

/-- The template `a` with a script, and a template that takes the beginning of that script to itself. -/
def shortSource : String :=
  "<template>a</template><script>\x7bb`,c\x7d</script><style></style>"

def longSource : String :=
  "<template>a`,b</template><script>\x7bc\x7d</script><style></style>"

theorem render_same_of_two_templates :
    ∃ x x' f, Sections.extract [] shortSource = .ok x ∧ Sections.extract [] longSource = .ok x' ∧
      render "Vue" (x.fill (sampleAt "A.vue")) = .ok f ∧
      render "Vue" (x'.fill (sampleAt "A.vue")) = .ok f ∧
      x.template = some "a" ∧ x'.template = some "a`,b" ∧ x.script = some "b`,c" ∧
      x'.script = some "c" ∧ literal .named "Vue" "A" f ≠ "a`,b" := by
  have hshort : Sections.extract [] shortSource = .ok ⟨some "a", some "b`,c", some ""⟩ :=
    extract_of_toOption (by decide +kernel)
  have hlong : Sections.extract [] longSource = .ok ⟨some "a`,b", some "c", some ""⟩ :=
    extract_of_toOption (by decide +kernel)
  have hover : RunsOver "a" "b`,c" "a`,b" "c" := ⟨"b", by decide, by decide⟩
  have hsame := (statement_eq_iff .named "Vue" "A" "a" "b`,c" "a`,b" "c").2 (.inr (.inl hover))
  refine ⟨_, _, _, hshort, hlong, render_fill rfl rfl _ _, ?_, rfl, rfl, rfl, rfl, fun heq => ?_⟩
  · rw [render_fill rfl rfl]
    exact congrArg Except.ok hsame.symm
  · have heq' : literal .named "Vue" "A" (statement .named "Vue" "A" "a" "b`,c") = "a`,b" := heq
    rw [hsame, literal_statement_eq_iff] at heq'
    exact absurd heq' (by decide)

end Bundler.Fragment
