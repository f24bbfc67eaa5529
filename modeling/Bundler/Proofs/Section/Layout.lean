import Bundler.Proofs.Section.Tags

/-!
# Bundler.Proofs.Section.Layout

Sources in which every section is written between an opening and a closing tag, with other text around.
What stands in a section comes back as it was written, wherever the section stands.

* `Inert s`: no tag begins in `s`, and none can begin there together with what follows it.
* `Layout`: the order of the sections, the attributes of their tags and the texts between them.
* `Skips name s rest`: the first tag after `s` is that of `rest`.
* `Layout.body?_text`: every section has its own body.
* `extract_of_layout`: what is taken from a source depends on the bodies of its sections only.
-/

namespace Bundler

namespace Section

/-! ## Tags -/

/-- A name begins with a letter. -/
theorem exists_name_eq_cons (k : Section) :
    ∃ c cs, k.name.toList = c :: cs ∧ Text.isWord c = true := by
  cases k
  · exact ⟨'t', "emplate".toList, by decide⟩
  · exact ⟨'s', "cript".toList, by decide⟩
  · exact ⟨'s', "tyle".toList, by decide⟩

theorem lessThan_notMem_name (k : Section) : '<' ∉ k.name.toList := by
  cases k <;> decide

theorem tagTail?_name (k : Section) (t : List Char) :
    tagTail? k.name.toList (k.name.toList ++ t) = closeTail? t := by
  rw [← nameTail?_append k.name.toList]
  obtain ⟨c, cs, hname, hc⟩ := exists_name_eq_cons k
  rw [hname, List.cons_append, tagTail?, if_pos hc]

theorem tagTail?_other {k k' : Section} (h : k ≠ k') (t : List Char) :
    tagTail? k.name.toList (k'.name.toList ++ t) = none := by
  have hword : Text.isWord 't' = true ∧ Text.isWord 's' = true := by decide
  cases k <;> cases k' <;>
    first
      | exact absurd rfl h
      | simp [name, tagTail?, nameTail?, hword, List.isPrefixOf?]

/-- A character that belongs to no word can be left out before the name. -/
theorem tagTail?_cons {c : Char} (hc : Text.isWord c = false) (k : Section) (s : List Char) :
    tagTail? k.name.toList (c :: s) = tagTail? k.name.toList s := by
  obtain ⟨c', cs, hname, hc'⟩ := exists_name_eq_cons k
  have hne : (c' == c) = false := by
    rw [beq_eq_false_iff_ne]
    rintro rfl
    rw [hc] at hc'
    cases hc'
  have hnone : nameTail? k.name.toList (c :: s) = none := by
    rw [hname]
    simp [nameTail?, List.isPrefixOf?, hne]
  rw [tagTail?, hc, hnone]
  cases tagTail? k.name.toList s <;> rfl

/-! ## Text without tags -/

/-- Text in which no tag of a section begins, whether it ends there or in what follows. -/
structure Inert (s : List Char) : Prop where
  no_tag : ∀ (w : List Char) (k : Section), (∀ c ∈ w, Text.isWord c = false) →
    ¬ '<' :: (w ++ k.name.toList) <:+: s
  no_end : ∀ w : List Char, (∀ c ∈ w, Text.isWord c = false) → ¬ '<' :: w <:+ s

/-- A text that begins like a tag: only characters that belong to no word stand between its sign and
its end, or the name of a section. -/
def BeginsTag (s : List Char) : Prop :=
  s.head? = some '<' ∧
    (s.tail.dropWhile (fun c => !Text.isWord c) = [] ∨
      ∃ k ∈ all, k.name.toList <+: s.tail.dropWhile fun c => !Text.isWord c)

instance (s : List Char) : Decidable (BeginsTag s) :=
  inferInstanceAs (Decidable (_ ∧ _))

theorem inert_iff {s : List Char} : Inert s ↔ ∀ v ∈ s.tails, ¬ BeginsTag v := by
  constructor
  · rintro ⟨htag, hend⟩ v hv ⟨hhead, hrest⟩
    obtain ⟨u, rfl⟩ := (List.mem_tails v s).1 hv
    obtain ⟨r, rfl⟩ := List.head?_eq_some_iff.1 hhead
    rw [List.tail_cons] at hrest
    have hw : ∀ c ∈ r.takeWhile (fun c => !Text.isWord c), Text.isWord c = false := by
      intro c hc
      simpa using List.mem_takeWhile_imp hc
    have hr := List.takeWhile_append_dropWhile (p := fun c => !Text.isWord c) (l := r)
    rcases hrest with hnil | ⟨k, _, post, hk⟩
    · rw [hnil, List.append_nil] at hr
      exact hend _ hw ⟨u, by rw [hr]⟩
    · rw [← hk] at hr
      exact htag _ k hw ⟨u, post, by simpa using hr⟩
  · intro h
    have hdrop : ∀ {w : List Char}, (∀ c ∈ w, Text.isWord c = false) → ∀ r : List Char,
        (w ++ r).dropWhile (fun c => !Text.isWord c) = r.dropWhile fun c => !Text.isWord c := by
      intro w hw r
      exact List.dropWhile_append_of_pos fun c hc => by simp [hw c hc]
    constructor
    · rintro w k hw ⟨u, post, rfl⟩
      refine h ('<' :: (w ++ (k.name.toList ++ post))) ?_ ⟨rfl, .inr ⟨k, ?_, ?_⟩⟩
      · rw [List.mem_tails]
        exact ⟨u, by simp⟩
      · cases k <;> decide
      · obtain ⟨c, cs, hname, hc⟩ := exists_name_eq_cons k
        rw [List.tail_cons, hdrop hw, hname, List.cons_append, List.dropWhile_cons, hc]
        exact ⟨post, rfl⟩
    · rintro w hw ⟨u, rfl⟩
      refine h ('<' :: w) ?_ ⟨rfl, .inl ?_⟩
      · rw [List.mem_tails]
        exact ⟨u, rfl⟩
      · have hnil := hdrop hw []
        rwa [List.append_nil] at hnil

instance (s : List Char) : Decidable (Inert s) :=
  decidable_of_iff _ inert_iff.symm

/-! ## Finding tags -/

/-- No tag is found in `s`: the first one is that of `rest`, with `s` before it. -/
def Skips (name s rest : List Char) : Prop :=
  firstTag? name (s ++ rest) = (firstTag? name rest).map fun p => (s ++ p.1, p.2)

theorem Skips.append {name s t rest : List Char} (hs : Skips name s (t ++ rest))
    (ht : Skips name t rest) : Skips name (s ++ t) rest := by
  unfold Skips at *
  rw [List.append_assoc, hs, ht, Option.map_map]
  congr 1
  funext p
  simp

theorem skips_of_tagHere? {name s rest : List Char}
    (h : ∀ u v, u ++ v = s → v ≠ [] → tagHere? name (v ++ rest) = none) : Skips name s rest := by
  unfold Skips
  induction s with
  | nil => simp
  | cons c s ih =>
    have hhere := h [] (c :: s) rfl (by simp)
    rw [List.cons_append] at hhere ⊢
    rw [firstTag?, hhere, ih fun u v huv => h (c :: u) v (by rw [← huv]; rfl)]
    cases firstTag? name rest <;> rfl

theorem tagHere?_of_ne {c : Char} (hc : c ≠ '<') (name s : List Char) :
    tagHere? name (c :: s) = none := by
  rw [tagHere?, if_neg hc]

/-- What a text with tags goes on with after a section: nothing, or the sign of a tag. -/
def Ended (s : List Char) : Prop :=
  ∀ c ∈ s.head?, c = '<'

/-- An inert text is skipped. A tag that began in it would have its name there, or go on where the text
ends, with the sign of another tag. -/
theorem Inert.skips {s rest : List Char} (h : Inert s) (hrest : Ended rest) (k : Section) :
    Skips k.name.toList s rest := by
  refine skips_of_tagHere? ?_
  rintro u v rfl hv
  cases v with
  | nil => exact absurd rfl hv
  | cons c v =>
    by_cases hc : c = '<'
    · subst hc
      rw [List.cons_append, tagHere?, if_pos rfl]
      refine Option.eq_none_iff_forall_ne_some.2 fun tail htail => ?_
      obtain ⟨w, ⟨hw, e, _, heq⟩, _⟩ := tagTail?_eq_some_iff.1 htail
      rcases List.append_eq_append_iff.1 heq with ⟨a, rfl, _⟩ | ⟨a, rfl, hbehind⟩
      · -- the characters before the name go beyond the end
        exact h.no_end v (fun c hc => hw c (List.mem_append_left _ hc)) ⟨u, rfl⟩
      · rcases List.append_eq_append_iff.1 hbehind with ⟨b, rfl, _⟩ | ⟨b, hname, rfl⟩
        · exact h.no_tag w k hw ⟨u, b, by simp⟩
        · cases b with
          | nil =>
            rw [List.append_nil] at hname
            exact h.no_tag w k hw ⟨u, [], by rw [hname]; simp⟩
          | cons d b =>
            -- the name goes beyond the end, where the sign of a tag stands
            have hd : d = '<' := hrest d (by simp)
            exact lessThan_notMem_name k (by rw [hname, hd]; simp)
    · exact tagHere?_of_ne hc _ _

/-! ## Layouts -/

/-- What may stand in an opening tag after the name: nothing, or a blank character and further ones, but
no sign of a tag. -/
def IsAttributes (a : List Char) : Prop :=
  a.head?.all Text.isBlank = true ∧ '<' ∉ a ∧ '>' ∉ a

instance (a : List Char) : Decidable (IsAttributes a) :=
  inferInstanceAs (Decidable (_ ∧ _))

def openTag (k : Section) (attributes : List Char) : List Char :=
  '<' :: (k.name.toList ++ attributes ++ ['>'])

def closeTag (k : Section) : List Char :=
  '<' :: '/' :: (k.name.toList ++ ['>'])

theorem closeTail?_attributes {a : List Char} (h : IsAttributes a) (rest : List Char) :
    closeTail? (a ++ '>' :: rest) = some rest := by
  obtain ⟨hblank, _, hsign⟩ := h
  refine closeTail?_eq_some_iff.2 ⟨a ++ ['>'], ?_, by simp⟩
  cases a with
  | nil => exact .bare
  | cons c a =>
    rw [List.mem_cons, not_or] at hsign
    exact .spaced (by simpa using hblank) hsign.2

theorem tagHere?_openTag (k : Section) {a : List Char} (ha : IsAttributes a) (rest : List Char) :
    tagHere? k.name.toList (openTag k a ++ rest) = some rest := by
  have htext : openTag k a ++ rest = '<' :: (k.name.toList ++ (a ++ '>' :: rest)) := by simp [openTag]
  rw [htext, tagHere?, if_pos rfl, tagTail?_name, closeTail?_attributes ha]

theorem tagHere?_closeTag (k : Section) (rest : List Char) :
    tagHere? k.name.toList (closeTag k ++ rest) = some rest := by
  have htext : closeTag k ++ rest = '<' :: '/' :: (k.name.toList ++ '>' :: rest) := by simp [closeTag]
  rw [htext, tagHere?, if_pos rfl, tagTail?_cons (by decide), tagTail?_name]
  rfl

/-- A tag of another section is skipped. -/
theorem skips_tag {k : Section} {tag rest : List Char}
    (htag : tagTail? k.name.toList (tag ++ rest) = none) (hsign : '<' ∉ tag) :
    Skips k.name.toList ('<' :: tag) rest := by
  refine skips_of_tagHere? fun u v huv hv => ?_
  cases u with
  | nil =>
    rw [List.nil_append] at huv
    rw [huv, List.cons_append, tagHere?, if_pos rfl, htag]
  | cons d u =>
    rw [List.cons_append, List.cons.injEq] at huv
    cases v with
    | nil => exact absurd rfl hv
    | cons c v =>
      refine tagHere?_of_ne ?_ _ _
      rintro rfl
      exact hsign (by rw [← huv.2]; simp)

theorem skips_openTag {k k' : Section} (hne : k ≠ k') {a : List Char} (ha : IsAttributes a)
    (rest : List Char) : Skips k.name.toList (openTag k' a) rest := by
  refine skips_tag ?_ ?_
  · rw [List.append_assoc, List.append_assoc]
    exact tagTail?_other hne _
  · have hname := lessThan_notMem_name k'
    simp [hname, ha.2.1]

theorem skips_closeTag {k k' : Section} (hne : k ≠ k') (rest : List Char) :
    Skips k.name.toList (closeTag k') rest := by
  refine skips_tag ?_ ?_
  · rw [List.cons_append, tagTail?_cons (by decide), List.append_assoc]
    exact tagTail?_other hne _
  · have hname := lessThan_notMem_name k'
    simp [hname]

end Section

/-- How a source is laid out: the order of its sections, the attributes of their opening tags, the text
before the first section and the text after each of them. -/
structure Layout where
  order : List Section
  attributes : Section → List Char
  before : List Char
  after : Section → List Char
  order_perm : order.Perm Section.all
  isAttributes : ∀ k, Section.IsAttributes (attributes k)
  inert_before : Section.Inert before
  inert_after : ∀ k, Section.Inert (after k)

namespace Layout

open Section

variable (l : Layout) (body : Section → List Char)

/-- A section with the text after it. -/
def sectionText (k : Section) : List Char :=
  openTag k (l.attributes k) ++ (body k ++ (closeTag k ++ l.after k))

/-- The source with the given bodies of its sections. -/
def text : List Char :=
  l.before ++ l.order.flatMap (l.sectionText body)

theorem ended_sections (ks : List Section) : Ended (ks.flatMap (l.sectionText body)) := by
  cases ks with
  | nil => simp [Ended]
  | cons k ks => simp [Ended, sectionText, openTag]

variable {body} (hbody : ∀ k, Inert (body k))

include hbody

theorem skips_section {k k' : Section} (hne : k ≠ k') {rest : List Char} (hrest : Ended rest) :
    Skips k.name.toList (l.sectionText body k') rest := by
  refine (skips_openTag hne (l.isAttributes k') _).append ?_
  refine ((hbody k').skips ?_ k).append ?_
  · simp [Ended, closeTag]
  · exact (skips_closeTag hne _).append ((l.inert_after k').skips hrest k)

/-- The first tag of a section is its opening tag, and after it come its body and its closing tag. -/
theorem firstTag?_sections {k : Section} {ks : List Section} (hk : k ∈ ks) :
    ∃ pre rest, firstTag? k.name.toList (ks.flatMap (l.sectionText body)) =
      some (pre, body k ++ (closeTag k ++ rest)) := by
  induction ks with
  | nil => cases hk
  | cons k' ks ih =>
    rw [List.flatMap_cons]
    by_cases hne : k = k'
    · subst hne
      refine ⟨[], l.after k ++ ks.flatMap (l.sectionText body), ?_⟩
      have htag := tagHere?_openTag k (l.isAttributes k)
        (body k ++ (closeTag k ++ (l.after k ++ ks.flatMap (l.sectionText body))))
      simp only [sectionText, List.append_assoc]
      unfold openTag at htag ⊢
      rw [List.cons_append] at htag ⊢
      rw [firstTag?, htag]
    · obtain ⟨pre, rest, hfirst⟩ := ih ((List.mem_cons.1 hk).resolve_left hne)
      have hskips := l.skips_section hbody hne (l.ended_sections body ks)
      exact ⟨l.sectionText body k' ++ pre, rest, by rw [hskips, hfirst]; rfl⟩

theorem body?_text (k : Section) : body? k.name.toList (l.text body) = some (body k) := by
  have hk : k ∈ l.order := l.order_perm.symm.subset (by cases k <;> decide)
  obtain ⟨pre, rest, hfirst⟩ := l.firstTag?_sections hbody hk
  have hbefore := l.inert_before.skips (l.ended_sections body l.order) k
  have hinside : Skips k.name.toList (body k) (closeTag k ++ rest) :=
    (hbody k).skips (by simp [Ended, closeTag]) k
  have hclose : firstTag? k.name.toList (closeTag k ++ rest) = some ([], rest) := by
    have htag := tagHere?_closeTag k rest
    unfold closeTag at htag ⊢
    rw [List.cons_append] at htag ⊢
    rw [firstTag?, htag]
  unfold Skips at hbefore hinside
  rw [body?, text, hbefore, hfirst]
  simp only [Option.map_some]
  rw [hinside, hclose]
  simp

end Layout

/-- What the bodies of the three sections come to. Only that of the script can be malformed. -/
def Sections.ofBodies (body : Section → List Char) : Except Failure.Cause Sections :=
  (Section.script.reduce (body .script)).map fun script =>
    ⟨String.ofList (Section.shrink (body .template)), String.ofList script,
      String.ofList (Section.squeeze (body .style))⟩

theorem Sections.extract_of_body? {body : Section → List Char} {source : String}
    (h : ∀ k : Section, Section.body? k.name.toList source.toList = some (body k))
    (optional : List Section) : Sections.extract optional source = Sections.ofBodies body := by
  simp only [Sections.extract, Section.extract?, h, Sections.ofBodies]
  simp only [Section.reduce]
  cases Section.objectBody (Section.squeeze (body .script)) <;> rfl

namespace Layout

open Section

/-- The sections of a source have the bodies with which it was laid out, in every order, with all
attributes and all inert texts around them. So what is taken from the source, or why nothing can be
taken, depends on the bodies only. -/
theorem extract_of_layout (body : Section → List Char) (hbody : ∀ k, Inert (body k)) (l : Layout) :
    (∀ k, body? k.name.toList (l.text body) = some (body k)) ∧
    (∀ optional, Sections.extract optional (String.ofList (l.text body)) = Sections.ofBodies body) ∧
    ∀ (l' : Layout) (optional : List Section),
      Sections.extract optional (String.ofList (l.text body)) =
        Sections.extract optional (String.ofList (l'.text body)) := by
  have hextract : ∀ (l : Layout) (optional : List Section),
      Sections.extract optional (String.ofList (l.text body)) = Sections.ofBodies body := by
    intro l
    refine Sections.extract_of_body? fun k => ?_
    rw [String.toList_ofList]
    exact l.body?_text hbody k
  refine ⟨l.body?_text hbody, hextract l, fun l' optional => ?_⟩
  rw [hextract l, hextract l']

/-- Bodies with signs of tags and names of sections, but no tags of sections. -/
def sampleBody : Section → List Char
  | .template => "a < b <!--x--> <p>template</p".toList
  | .script => "if (1<_script) \x7b/* </scrip */ \x7d".toList
  | .style => "".toList

/-- The style first and the template last, with text everywhere. -/
def sampleLayout : Layout where
  order := [.style, .script, .template]
  attributes
    | .template => "".toList
    | .script => " lang='ts' script".toList
    | .style => "\n/".toList
  before := "<styl".toList
  after
    | .template => "template> <y".toList
    | .script => "style> <x".toList
    | .style => "".toList
  order_perm := by decide
  isAttributes k := by cases k <;> decide +kernel
  inert_before := by decide +kernel
  inert_after k := by cases k <;> decide +kernel

/-- The usual order, with nothing around. -/
def plainLayout : Layout where
  order := Section.all
  attributes _ := []
  before := []
  after _ := []
  order_perm := .refl _
  isAttributes _ := by decide
  inert_before := by decide
  inert_after _ := by decide

theorem extract_of_layout_sample :
    (∀ k, Inert (sampleBody k)) ∧
    String.ofList (sampleLayout.text sampleBody) ≠ String.ofList (plainLayout.text sampleBody) ∧
    (∀ k, body? k.name.toList (sampleLayout.text sampleBody) = some (sampleBody k)) ∧
    ∀ optional, Sections.extract optional (String.ofList (sampleLayout.text sampleBody)) =
      Sections.extract optional (String.ofList (plainLayout.text sampleBody)) := by
  have hbody : ∀ k, Inert (sampleBody k) := by
    intro k
    cases k <;> decide +kernel
  obtain ⟨hbodies, -, hsame⟩ := extract_of_layout sampleBody hbody sampleLayout
  exact ⟨hbody, by decide +kernel, hbodies, hsame plainLayout⟩

end Layout

end Bundler
