import Bundler.Proofs.Bundle.Layout
import Bundler.Proofs.Discovery.Order
import Mathlib.Logic.Relation

/-!
# Bundler.Proofs.Bundle.Order

The order of the fragments in a bundle, against what the components import. The bundle is written from
the component found last to the root. That puts an imported component before the one that imports it
when its label was read later than that of the importer, and only then: a component that the root
imports early and a later sibling imports again comes after that sibling.

* `Discovery.Compiled.Imports`: one component declares the label of another.
* `Builder.precedes_iff_of_compile`: when an imported component precedes its importer.
* `Builder.sample_not_in_import_order`: a project without cycles in which one does not.
-/

namespace Bundler

namespace Discovery

def Compiled.Imports (u v : Compiled) : Prop :=
  v.component.label ≠ u.component.label ∧
    v.component.label ∈ u.declarations.map Declaration.label

instance (u v : Compiled) : Decidable (u.Imports v) :=
  inferInstanceAs (Decidable (_ ∧ _))

variable {W : Type} {env : Env W} {w : W} {root : Component} {rs : List Compiled} {t : State W}

theorem Runs.label_mem_readPairs (h : Runs env (start env w root) rs t) {xs ys : List Compiled}
    {r : Compiled} (hrs : rs = xs ++ r :: ys) :
    r.component.label ∈ Keyed.keys (readPairs root xs) := by
  induction h generalizing ys with
  | nil => simp at hrs
  | @snoc rs t u r' hruns hturn ih =>
    rcases List.eq_nil_or_concat ys with rfl | ⟨ys, y, rfl⟩
    · obtain ⟨rfl, hr⟩ := List.append_inj' hrs rfl
      cases hr
      obtain @⟨c, rest, _, hq, hc⟩ := hturn
      obtain ⟨_, _, _, _, _, hcomponent⟩ := compile_eq_ok_iff.1 hc
      rw [← Keyed.mem_keys_firsts, ← hruns.shape.labels_eq, hcomponent, complete_label, Queue.labels,
        pop?_eq_some_iff.1 hq]
      simp
    · rw [List.concat_eq_append, ← List.cons_append, ← List.append_assoc] at hrs
      exact ih (List.append_inj' hrs rfl).1

theorem Runs.fragmentBytes_ne_nil (h : Runs env (start env w root) rs t) {r : Compiled}
    (hr : r ∈ rs) : Bundle.fragmentBytes r.component ≠ [] := by
  obtain ⟨_, _, _, _, hturn⟩ := h.turn_of_mem hr
  obtain ⟨_, hc⟩ := hturn
  obtain ⟨_, sections, _, _, _, hcomponent⟩ := compile_eq_ok_iff.1 hc
  rw [hcomponent]
  exact Bundle.encode_statement_ne_nil _ _ _ _ _

/-- Of two components the one comes first whose label has been read first. -/
theorem Shape.idxOf_label_lt_iff (h : Shape env root rs t) (hq : t.queue.pending = []) (k l : String) :
    (t.store.records.map Component.label).idxOf k < (t.store.records.map Component.label).idxOf l ↔
      (Keyed.keys (readPairs root rs)).idxOf k < (Keyed.keys (readPairs root rs)).idxOf l := by
  have hlabels : t.store.records.map Component.label = Keyed.keys (Keyed.firsts (readPairs root rs)) := by
    rw [← h.labels_eq, Queue.labels, hq, h.store_records]
    simp [Function.comp_def]
  rw [hlabels, Keyed.idxOf_keys_firsts_lt_iff]

/-- What no component imports so far, the root apart, none has declared either: a component that
declares itself has been declared by another one before. -/
theorem Runs.notMem_declarations (h : Runs env (start env w root) rs t) {xs ys : List Compiled}
    {v : Compiled} (hrs : rs = xs ++ ys) (hroot : v.component.label ≠ root.label)
    (hfirst : ∀ x ∈ xs, ¬ x.Imports v) {x : Compiled} (hx : x ∈ xs) :
    v.component.label ∉ x.declarations.map Declaration.label := by
  intro hdeclared
  by_cases hlabel : v.component.label = x.component.label
  · obtain ⟨before, after, rfl⟩ := List.append_of_mem hx
    rw [List.append_assoc, List.cons_append] at hrs
    have hread := h.label_mem_readPairs hrs
    rw [← hlabel, mem_keys_readPairs] at hread
    rcases hread with hread | ⟨y, hy, hdeclares⟩
    · exact hroot hread
    · -- `y` was compiled before `x`, so it has another label
      have hnodup := h.shape.nodup.of_append_left
      rw [hrs, List.map_append, List.map_cons] at hnodup
      have hne : v.component.label ≠ y.component.label := by
        rw [hlabel]
        intro he
        exact List.disjoint_of_nodup_append hnodup (List.mem_map_of_mem hy)
          (List.mem_cons.2 (.inl he.symm))
      exact hfirst y (List.mem_append_left _ hy) ⟨hne, hdeclares⟩
  · exact hfirst x hx ⟨hlabel, hdeclared⟩

/-- A component that nothing imports before another one is compiled has been read after it. -/
theorem Runs.idxOf_lt_of_first (h : Runs env (start env w root) rs t) {xs ys : List Compiled}
    {u v : Compiled} (hrs : rs = xs ++ u :: ys) (hroot : v.component.label ≠ root.label)
    (hfirst : ∀ x ∈ xs, ¬ x.Imports v) :
    (Keyed.keys (readPairs root rs)).idxOf u.component.label <
      (Keyed.keys (readPairs root rs)).idxOf v.component.label := by
  have hu := h.label_mem_readPairs hrs
  have hv : v.component.label ∉ Keyed.keys (readPairs root xs) := by
    rw [mem_keys_readPairs, not_or]
    exact ⟨hroot, fun ⟨x, hx, hl⟩ => h.notMem_declarations hrs hroot hfirst hx hl⟩
  have hsplit : Keyed.keys (readPairs root rs) = Keyed.keys (readPairs root xs) ++
      (u :: ys).flatMap fun r => r.declarations.map Declaration.label := by
    rw [keys_readPairs, keys_readPairs, hrs, List.flatMap_append, List.cons_append]
  rw [hsplit, List.idxOf_append_of_mem hu, List.idxOf_append_of_notMem hv]
  have := List.idxOf_lt_length_of_mem hu
  omega

end Discovery

namespace Builder

open Discovery

def outputBundle (b : Builder) (outputDir : Option Path) : Bundle :=
  Bundle.inDirectory (outputDir.getD (b.root / b.settings.outputDir)) b.settings.outputFile

variable {b : Builder} {label : Option String} {path outputDir : Option Path} {s : Session}

theorem build_eq_ok {store : Store} {output : Path}
    (h : (b.build store outputDir s).result = .ok output) :
    ∃ d, (b.outputBundle outputDir).append (store.records.reverse.flatMap Bundle.fragmentBytes)
        s.disk = .ok () d ∧
      (s.journal.file = none → (b.build store outputDir s).session.disk = d ∧
        (b.build store outputDir s).session.journal.file = none) := by
  unfold build at h ⊢
  rw [← outputBundle] at h ⊢
  rcases hwrite : (b.outputBundle outputDir).write store s.disk with ⟨_ | p, bundle, entries, d⟩
  · simp only [hwrite] at h
    cases h
  · obtain ⟨happend, e, he⟩ := Bundle.write_eq_ok (congrArg Bundle.Written.result hwrite)
    rw [hwrite] at happend he
    simp only at he
    subst he
    simp only [hwrite]
    exact ⟨d, happend, fun hfile => Session.log_disk (s := { s with disk := d }) hfile _ _⟩

theorem compile_eq_ok {r : BuildResult} (h : (b.compile label path outputDir s).result = .ok r) :
    (b.parse label path s).result = .ok r.store ∧
    ∃ d, (b.outputBundle outputDir).append (r.store.records.reverse.flatMap Bundle.fragmentBytes)
        (b.parse label path s).session.disk = .ok () d ∧
      (s.journal.file = none → (b.compile label path outputDir s).session.disk = d) := by
  have hbuilder : (b.parse label path s).builder.outputBundle outputDir = b.outputBundle outputDir :=
    rfl
  obtain ⟨es, hsession⟩ := b.parse_session_eq label path s
  have hfile' : s.journal.file = none → (b.parse label path s).session.journal.file = none := by
    intro hfile
    rw [hsession]
    exact (Session.foldl_log_disk hfile _ es).2
  unfold compile at h ⊢
  rcases hparse : b.parse label path s with ⟨_ | store, b₁, s₁⟩
  · simp only [hparse] at h
    cases h
  · simp only [hparse] at h hbuilder hfile' ⊢
    rcases hbuild : b₁.build store outputDir s₁ with ⟨_ | output, b₂, s₂⟩
    · simp only [hbuild] at h
      cases h
    · simp only [hbuild] at h ⊢
      cases h
      obtain ⟨d, happend, hdisk⟩ := build_eq_ok (congrArg Done.result hbuild)
      rw [hbuild] at hdisk
      refine ⟨rfl, d, hbuilder ▸ happend, fun hfile => ?_⟩
      obtain ⟨hd, hfile₂⟩ := hdisk (hfile' hfile)
      exact (Session.log_disk hfile₂ _ _).1.trans hd

/-- The labels that a parse reads, in order: that of the root, then those that are declared. -/
def readLabels (b : Builder) (label : Option String) (path : Option Path) (s : Session) :
    List String :=
  (b.rootComponent label path).label ::
    (b.compiled label path s).flatMap fun r => r.declarations.map Declaration.label

/-- What a compilation appends to its bundle are the fragments of the stored components, and the
fragment of one component precedes that of another exactly when its label was read later. So an imported
component precedes the first one that imports it, but not always the others. -/
theorem precedes_iff_of_compile (b : Builder) (label : Option String) (path outputDir : Option Path)
    (s : Session) {r : BuildResult} (h : (b.compile label path outputDir s).result = .ok r) :
    r.store.records = (b.compiled label path s).map Compiled.component ∧
    (∃ d l old, (b.outputBundle outputDir).append
        (r.store.records.reverse.flatMap Bundle.fragmentBytes)
        (b.parse label path s).session.disk = .ok () d ∧
      d.get? l = some (.file (old ++ r.store.records.reverse.flatMap Bundle.fragmentBytes)) ∧
      (s.journal.file = none → (b.compile label path outputDir s).session.disk = d)) ∧
    (∀ c ∈ r.store.records, Bundle.fragmentBytes c ≠ [] ∧
      ((r.store.records.reverse.flatMap Bundle.fragmentBytes).drop
        (Bundle.offset r.store.records.reverse c.label)).take (Bundle.fragmentBytes c).length =
        Bundle.fragmentBytes c) ∧
    (∀ u ∈ b.compiled label path s, ∀ v ∈ b.compiled label path s,
      Bundle.Precedes r.store v.component u.component ↔
        (b.readLabels label path s).idxOf u.component.label <
          (b.readLabels label path s).idxOf v.component.label) ∧
    (∀ xs u ys, b.compiled label path s = xs ++ u :: ys → ∀ v ∈ b.compiled label path s,
      u.Imports v → v.component.label ≠ (b.rootComponent label path).label →
      (∀ x ∈ xs, ¬ x.Imports v) → Bundle.Precedes r.store v.component u.component) := by
  obtain ⟨hparse, d, happend, hdisk⟩ := compile_eq_ok h
  obtain ⟨l, old, hget⟩ := Bundle.append_eq_ok happend
  obtain ⟨t, hruns, hq, hstore⟩ := reaches_of_parse hparse
  rw [← hstore] at happend hget ⊢
  have hshape := hruns.shape
  have hnodup : (t.store.records.map Component.label).Nodup := by
    have := hshape.nodup.of_append_left
    simpa [hshape.store_records, Function.comp_def] using this
  have hmem : ∀ {u}, u ∈ b.compiled label path s → u.component ∈ t.store.records := fun hu => by
    rw [hshape.store_records]
    exact List.mem_map_of_mem hu
  have hbytes : ∀ c ∈ t.store.records, Bundle.fragmentBytes c ≠ [] := by
    intro c hc
    rw [hshape.store_records] at hc
    obtain ⟨u, hu, rfl⟩ := List.mem_map.1 hc
    exact hruns.fragmentBytes_ne_nil hu
  have hprecedes : ∀ u ∈ b.compiled label path s, ∀ v ∈ b.compiled label path s,
      Bundle.Precedes t.store v.component u.component ↔
        (b.readLabels label path s).idxOf u.component.label <
          (b.readLabels label path s).idxOf v.component.label := by
    intro u hu v hv
    rw [Bundle.precedes_iff hnodup (hmem hu) (hmem hv) hbytes, hshape.idxOf_label_lt_iff hq,
      keys_readPairs, readLabels]
  refine ⟨hshape.store_records, ⟨d, l, old, happend, hget, hdisk⟩, ?_, hprecedes, ?_⟩
  · intro c hc
    refine ⟨hbytes c hc, Bundle.take_drop_offset ?_ (List.mem_reverse.2 hc)⟩
    rw [List.map_reverse, List.nodup_reverse]
    exact hnodup
  · intro xs u ys hsplit v hv _ hroot hfirst
    have hu : u ∈ b.compiled label path s := by
      rw [hsplit]
      exact List.mem_append_right _ List.mem_cons_self
    rw [hprecedes u hu v hv, readLabels, ← keys_readPairs]
    exact Runs.idxOf_lt_of_first hruns hsplit hroot hfirst

theorem precedes_iff_of_compile_sample :
    ∃ r, (sampleBuilder.compile none none none sampleSession).result = .ok r ∧
      r.store.labels = ["App", "A", "B"] ∧
      ∀ u ∈ sampleBuilder.compiled none none sampleSession,
        ∀ v ∈ sampleBuilder.compiled none none sampleSession,
          Bundle.Precedes r.store v.component u.component ↔
            (sampleBuilder.readLabels none none sampleSession).idxOf u.component.label <
              (sampleBuilder.readLabels none none sampleSession).idxOf v.component.label := by
  have hlabels : (sampleBuilder.compile none none none sampleSession).result.toOption.map
      (fun r => r.store.labels) = some ["App", "A", "B"] := by decide +kernel
  cases h : (sampleBuilder.compile none none none sampleSession).result with
  | error e =>
    rw [h] at hlabels
    cases hlabels
  | ok r =>
    rw [h] at hlabels
    exact ⟨r, rfl, Option.some.inj hlabels,
      (precedes_iff_of_compile sampleBuilder none none none sampleSession h).2.2.2.1⟩

def sampleRank (l : String) : Nat :=
  if l = "App" then 2 else if l = "B" then 1 else 0

theorem sampleRank_lt_of_imports : ∀ u ∈ sampleBuilder.compiled none none sampleSession,
    ∀ v ∈ sampleBuilder.compiled none none sampleSession, u.Imports v →
      sampleRank v.component.label < sampleRank u.component.label := by decide +kernel

/-- Whether `B` imports `A` in the sample and comes first in the bundle. -/
def sampleOutOfOrder (r : BuildResult) : Bool :=
  decide (∃ u ∈ sampleBuilder.compiled none none sampleSession,
    ∃ v ∈ sampleBuilder.compiled none none sampleSession, u.component.label = "B" ∧
      v.component.label = "A" ∧ u.Imports v ∧ ¬ Bundle.Precedes r.store v.component u.component ∧
      Bundle.Precedes r.store u.component v.component)

theorem sampleOutOfOrder_compile :
    (sampleBuilder.compile none none none sampleSession).result.toOption.map sampleOutOfOrder =
      some true := by decide +kernel

/-- In the sample no component imports itself through others, and yet one comes before a component that
it imports: the root imports `A` and then `B`, and `B` imports `A`. -/
theorem sample_not_in_import_order :
    (∀ u, ¬ Relation.TransGen (fun u v => u ∈ sampleBuilder.compiled none none sampleSession ∧
      v ∈ sampleBuilder.compiled none none sampleSession ∧ u.Imports v) u u) ∧
    ∃ r, (sampleBuilder.compile none none none sampleSession).result = .ok r ∧
      ∃ u ∈ sampleBuilder.compiled none none sampleSession,
        ∃ v ∈ sampleBuilder.compiled none none sampleSession, u.component.label = "B" ∧
          v.component.label = "A" ∧ u.Imports v ∧ ¬ Bundle.Precedes r.store v.component u.component ∧
          Bundle.Precedes r.store u.component v.component := by
  constructor
  · have hlt : ∀ {u v}, Relation.TransGen (fun u v =>
        u ∈ sampleBuilder.compiled none none sampleSession ∧
        v ∈ sampleBuilder.compiled none none sampleSession ∧ u.Imports v) u v →
        sampleRank v.component.label < sampleRank u.component.label := by
      intro u v huv
      induction huv with
      | single h => exact sampleRank_lt_of_imports _ h.1 _ h.2.1 h.2.2
      | tail _ h ih => exact Nat.lt_trans (sampleRank_lt_of_imports _ h.1 _ h.2.1 h.2.2) ih
    exact fun u hu => Nat.lt_irrefl _ (hlt hu)
  · have hbundle := sampleOutOfOrder_compile
    cases h : (sampleBuilder.compile none none none sampleSession).result with
    | error e =>
      rw [h] at hbundle
      cases hbundle
    | ok r =>
      rw [h] at hbundle
      exact ⟨r, rfl, of_decide_eq_true (Option.some.inj hbundle)⟩

end Builder

end Bundler
