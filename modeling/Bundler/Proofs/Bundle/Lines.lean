import Bundler.Proofs.Bundle.Order
import Bundler.Proofs.Section
import Mathlib.Data.List.SplitBy

/-!
# Bundler.Proofs.Bundle.Lines

The lines of a bundle. A fragment begins with a line feed and has no other: templates lose theirs, scripts
lose all blank characters, and a declared label is a single word. So the fragments can be read off the
text of a bundle, and that of the root is the last of them.

* `Bundle.IsLine f`: a text that begins with a line feed and has no other.
* `Bundle.text s`: the text that a store adds to a bundle.
* `Builder.bundle_lines_of_compile`: the lines that a compilation appends.
-/

namespace Bundler

namespace Bundle

def IsLine (f : List Char) : Prop :=
  ∃ body, f = '\n' :: body ∧ '\n' ∉ body

theorem lineFeed_notMem_options {template script : String} (htemplate : '\n' ∉ template.toList)
    (hscript : '\n' ∉ script.toList) : '\n' ∉ (Fragment.options template script).toList := by
  -- the equation lemma of a text with so many parts is slow to derive
  delta Fragment.options
  simp only [String.toList_append, List.mem_append, not_or]
  exact ⟨⟨⟨⟨by decide, htemplate⟩, by decide⟩, hscript⟩, by decide⟩

theorem isLine_statement (kind : Kind) {runtime label template script : String}
    (hruntime : '\n' ∉ runtime.toList) (hlabel : '\n' ∉ label.toList)
    (htemplate : '\n' ∉ template.toList) (hscript : '\n' ∉ script.toList) :
    IsLine (Fragment.statement kind runtime label template script).toList := by
  have hfront : "\nconst ".toList = '\n' :: "const ".toList := by decide
  have hoptions := lineFeed_notMem_options htemplate hscript
  delta Fragment.statement
  cases kind with
  | root =>
    simp only [String.toList_append, hfront, List.cons_append]
    refine ⟨_, rfl, ?_⟩
    simp only [List.mem_append, not_or]
    exact ⟨⟨⟨⟨⟨⟨by decide, hlabel⟩, by decide⟩, hruntime⟩, by decide⟩, hoptions⟩, by decide⟩
  | named =>
    simp only [String.toList_append, hfront, List.cons_append]
    refine ⟨_, rfl, ?_⟩
    simp only [List.mem_append, not_or]
    exact ⟨⟨⟨⟨⟨⟨⟨⟨by decide, hlabel⟩, by decide⟩, hruntime⟩, by decide⟩, hlabel⟩, by decide⟩, hoptions⟩,
      by decide⟩

theorem IsLine.count_eq_one {f : List Char} (h : IsLine f) : f.count '\n' = 1 := by
  obtain ⟨body, rfl, hbody⟩ := h
  simp [List.count_eq_zero.2 hbody]

theorem count_flatten_lines {fs : List (List Char)} (h : ∀ f ∈ fs, IsLine f) :
    fs.flatten.count '\n' = fs.length := by
  induction fs with
  | nil => rfl
  | cons f fs ih =>
    rw [List.flatten_cons, List.count_append, (h f List.mem_cons_self).count_eq_one,
      ih fun g hg => h g (List.mem_cons_of_mem _ hg), List.length_cons]
    omega

theorem IsLine.isChain {f : List Char} (h : IsLine f) :
    f.IsChain fun _ c => (c != '\n') = true := by
  obtain ⟨body, rfl, hbody⟩ := h
  refine (List.pairwise_cons.2 ⟨?_, List.pairwise_of_forall_mem_list ?_⟩).isChain
  · intro c hc
    simpa using fun he : c = '\n' => hbody (he ▸ hc)
  · intro _ _ c hc
    simpa using fun he : c = '\n' => hbody (he ▸ hc)

/-- Lines that follow each other are found again by cutting before every line feed. -/
theorem splitBy_flatten_lines {fs : List (List Char)} (h : ∀ f ∈ fs, IsLine f) :
    fs.flatten.splitBy (fun _ c => c != '\n') = fs := by
  refine List.splitBy_flatten ?_ (fun f hf => (h f hf).isChain) ?_
  · intro hnil
    obtain ⟨body, hbody, _⟩ := h [] hnil
    cases hbody
  · refine (List.pairwise_of_forall_mem_list ?_).isChain
    intro f hf g hg
    obtain ⟨_, rfl, _⟩ := h f hf
    obtain ⟨_, rfl, _⟩ := h g hg
    exact ⟨List.cons_ne_nil _ _, List.cons_ne_nil _ _, by simp⟩

def text (s : Store) : String :=
  String.join (s.records.reverse.map fun c => c.fragment.getD "")

theorem toList_text (s : Store) :
    (text s).toList = (s.records.reverse.map fun c => (c.fragment.getD "").toList).flatten := by
  rw [text, String.toList_join, List.flatMap_map, List.flatMap_def]

theorem encode_text (s : Store) :
    Text.Utf8.encode (text s) = s.records.reverse.flatMap fragmentBytes := by
  rw [Text.Utf8.encode, text, String.toList_join, List.flatMap_map, List.flatMap_assoc]
  rfl

end Bundle

namespace Discovery

variable {W : Type} {env : Env W} {w : W} {root : Component} {rs : List Compiled} {t : State W}

/-- A label is that of the root or a declared one, which is a word. -/
theorem Runs.lineFeed_notMem_label (h : Runs env (start env w root) rs t)
    (hroot : '\n' ∉ root.label.toList) {r : Compiled} (hr : r ∈ rs) :
    '\n' ∉ r.component.label.toList := by
  obtain ⟨xs, ys, hrs⟩ := List.append_of_mem hr
  have hread := h.label_mem_readPairs hrs
  rw [mem_keys_readPairs] at hread
  rcases hread with hlabel | ⟨x, hx, hlabel⟩
  · rw [hlabel]
    exact hroot
  · obtain ⟨d, hd, hdlabel⟩ := List.mem_map.1 hlabel
    have hxrs : x ∈ rs := by
      rw [hrs]
      exact List.mem_append_left _ hx
    -- the declaration was scanned when the component that makes it was compiled
    obtain ⟨_, _, _, _, hturn⟩ := h.turn_of_mem hxrs
    obtain ⟨_, hc⟩ := hturn
    obtain ⟨source, _, _, _, hscan, _⟩ := compile_eq_ok_iff.1 hc
    rw [← hdlabel]
    intro hmem
    have hblank := Declaration.not_isBlank_of_mem_label hscan hd hmem
    simp [show Text.isBlank '\n' = true by decide] at hblank

/-- What a run has compiled has the statement of its kind as its fragment. -/
theorem Runs.fragment_eq (h : Runs env (start env w root) rs t) {r : Compiled} (hr : r ∈ rs) :
    r.component.fragment = some (Fragment.statement r.component.kind env.context.runtime
      r.component.label (r.component.template.getD "") (r.component.script.getD "")) := by
  obtain ⟨_, _, _, _, hturn⟩ := h.turn_of_mem hr
  obtain ⟨_, hc⟩ := hturn
  obtain ⟨_, sections, _, _, _, hcomponent⟩ := compile_eq_ok_iff.1 hc
  rw [hcomponent]
  rfl

theorem Runs.isLine_fragment (h : Runs env (start env w root) rs t)
    (hroot : '\n' ∉ root.label.toList) (hruntime : '\n' ∉ env.context.runtime.toList) {r : Compiled}
    (hr : r ∈ rs) : Bundle.IsLine (r.component.fragment.getD "").toList := by
  have hlabel := h.lineFeed_notMem_label hroot hr
  rw [h.fragment_eq hr, Option.getD_some]
  obtain ⟨_, _, _, _, hturn⟩ := h.turn_of_mem hr
  obtain ⟨_, hc⟩ := hturn
  obtain ⟨source, sections, _, hsections, _, hcomponent⟩ := compile_eq_ok_iff.1 hc
  refine Bundle.isLine_statement _ hruntime hlabel ?_ ?_
  · rw [hcomponent]
    exact Sections.lineFeed_notMem_template hsections
  · rw [hcomponent]
    exact Sections.lineFeed_notMem_script hsections

end Discovery

namespace Builder

open Discovery

/-- A compilation under a root label and a runtime without line feeds appends one line for each
component of the store: as many line feeds as components, each at the front of a fragment. Cutting the
text before its line feeds gives the fragments from the last component to the root. The root's makes an
instance of the runtime, the others register components. -/
theorem bundle_lines_of_compile (b : Builder) (label : Option String) (path outputDir : Option Path)
    (s : Session) {r : BuildResult} (h : (b.compile label path outputDir s).result = .ok r)
    (hlabel : '\n' ∉ (b.rootComponent label path).label.toList)
    (hruntime : '\n' ∉ b.settings.runtime.toList) :
    (∃ d l old, (b.outputBundle outputDir).append (Text.Utf8.encode (Bundle.text r.store))
        (b.parse label path s).session.disk = .ok () d ∧
      d.get? l = some (.file (old ++ Text.Utf8.encode (Bundle.text r.store))) ∧
      (s.journal.file = none → (b.compile label path outputDir s).session.disk = d)) ∧
    (Bundle.text r.store).toList.count '\n' = r.store.length ∧
    (∀ c ∈ r.store.records, Bundle.IsLine (c.fragment.getD "").toList) ∧
    (Bundle.text r.store).toList.splitBy (fun _ c => c != '\n') =
      r.store.records.reverse.map (fun c => (c.fragment.getD "").toList) ∧
    ∃ root others, r.store.records = root :: others ∧
      root.label = (b.rootComponent label path).label ∧
      root.fragment = some ("\nconst " ++ root.label ++ " = new " ++ b.settings.runtime ++ "(" ++
        Fragment.options (root.template.getD "") (root.script.getD "") ++ ")") ∧
      ∀ c ∈ others, c.fragment = some ("\nconst " ++ c.label ++ " = " ++ b.settings.runtime ++
        ".component(\"" ++ c.label ++ "\", " ++
        Fragment.options (c.template.getD "") (c.script.getD "") ++ ")") := by
  obtain ⟨hparse, d, happend, hdisk⟩ := compile_eq_ok h
  obtain ⟨l, old, hget⟩ := Bundle.append_eq_ok happend
  obtain ⟨t, hruns, hq, hstore⟩ := reaches_of_parse hparse
  rw [← hstore] at happend hget ⊢
  rw [← Bundle.encode_text] at happend hget
  have hshape := hruns.shape
  have hrecords := hshape.store_records
  have hlines : ∀ c ∈ t.store.records, Bundle.IsLine (c.fragment.getD "").toList := by
    intro c hc
    rw [hrecords] at hc
    obtain ⟨x, hx, rfl⟩ := List.mem_map.1 hc
    exact Runs.isLine_fragment hruns hlabel hruntime hx
  have hfragments : ∀ f ∈ t.store.records.reverse.map (fun c => (c.fragment.getD "").toList),
      Bundle.IsLine f := by
    intro f hf
    obtain ⟨c, hc, rfl⟩ := List.mem_map.1 hf
    exact hlines c (List.mem_reverse.1 hc)
  refine ⟨⟨d, l, old, happend, hget, hdisk⟩, ?_, hlines, ?_, ?_⟩
  · rw [Bundle.toList_text, Bundle.count_flatten_lines hfragments]
    simp [Store.records, Store.length]
  · rw [Bundle.toList_text, Bundle.splitBy_flatten_lines hfragments]
  · obtain ⟨c, cs, hfound, hpair, hroot, hcs⟩ := hshape.root_eq
    rw [hq, List.append_nil] at hfound
    have hstatement : ∀ x ∈ c :: cs, x.fragment = some (Fragment.statement x.kind b.settings.runtime
        x.label (x.template.getD "") (x.script.getD "")) := by
      intro x hx
      rw [← hfound] at hx
      obtain ⟨y, hy, rfl⟩ := List.mem_map.1 hx
      exact Runs.fragment_eq hruns hy
    refine ⟨c, cs, hrecords.trans hfound, congrArg Prod.fst hpair, ?_, ?_⟩
    · have hkind : c.kind = .root := by rw [Component.kind, hroot]; rfl
      rw [hstatement c List.mem_cons_self, hkind]
      rfl
    · intro x hx
      have hkind : x.kind = .named := by rw [Component.kind, hcs x hx]; rfl
      rw [hstatement x (List.mem_cons_of_mem _ hx), hkind]
      rfl

theorem bundle_lines_of_compile_sample :
    ∃ r, (sampleBuilder.compile none none none sampleSession).result = .ok r ∧
      '\n' ∉ (sampleBuilder.rootComponent none none).label.toList ∧
      '\n' ∉ sampleBuilder.settings.runtime.toList ∧
      (Bundle.text r.store).toList.count '\n' = r.store.length ∧
      (Bundle.text r.store).toList.splitBy (fun _ c => c != '\n') =
        r.store.records.reverse.map (fun c => (c.fragment.getD "").toList) := by
  have hbundle := sampleOutOfOrder_compile
  cases h : (sampleBuilder.compile none none none sampleSession).result with
  | error e =>
    rw [h] at hbundle
    cases hbundle
  | ok r =>
    have hlabel : '\n' ∉ (sampleBuilder.rootComponent none none).label.toList := by decide
    have hruntime : '\n' ∉ sampleBuilder.settings.runtime.toList := by decide
    obtain ⟨_, hcount, _, hcut, _⟩ :=
      bundle_lines_of_compile sampleBuilder none none none sampleSession h hlabel hruntime
    exact ⟨r, rfl, hlabel, hruntime, hcount, hcut⟩

end Builder

end Bundler
