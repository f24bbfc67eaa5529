import Bundler.Builder
import Bundler.Proofs.Discovery.Run

/-!
# Bundler.Proofs.Discovery.Partition

The components that a discovery has in hand lie in three places: some wait in the queue, one may be in
work, and the others are in the store. `Partition` says that the three places share no label, that the
store has counted each of its components once, and that exactly one component is the root, which comes
first in the store.

* `Builder.Reaches`: the states that the discovery of a builder goes through.
* `Builder.partition_of_reaches`: the partition holds in all of them, also while a component is in
  work, and no label is ever taken twice.
-/

namespace Bundler

namespace Discovery

variable {W : Type} {env : Env W}

/-- The components in the store, in work and in the queue. -/
structure Partition (root : Component) (store : Store) (current : Option Component)
    (waiting : List Component) : Prop where
  nodup :
    (store.labels ++ current.toList.map Component.label ++ waiting.map Component.label).Nodup
  size_eq : store.size = store.length
  root_unique : ∃ c, (store.records ++ current.toList ++ waiting).filter Component.isRoot = [c] ∧
    c.pair = root.pair
  root_first : ∀ c ∈ store.records, c.isRoot = true → store.records.head? = some c

theorem filter_isRoot_of_prefix {c : Component} {cs found : List Component} (hroot : c.isRoot = true)
    (hcs : ∀ d ∈ cs, d.isRoot = false) (hfound : found <+: c :: cs) (hne : found ≠ []) :
    found.filter Component.isRoot = [c] := by
  cases found with
  | nil => exact absurd rfl hne
  | cons d ds =>
    rw [List.cons_prefix_cons] at hfound
    obtain ⟨rfl, hds⟩ := hfound
    have hnone : ds.filter Component.isRoot = [] := by
      refine List.filter_eq_nil_iff.2 fun x hx => ?_
      simp [hcs x (hds.subset hx)]
    rw [List.filter_cons_of_pos hroot, hnone]

theorem Shape.partition {root : Component} {rs done : List Compiled} {s t : State W}
    {current : Option Component} {waiting : List Component} (h : Shape env root rs t)
    (hdone : Shape env root done s) (hroot : root.isRoot = true)
    (hne : s.store.records ++ current.toList ++ waiting ≠ [])
    (hfound : s.store.records ++ current.toList ++ waiting <+:
      rs.map Compiled.component ++ t.queue.pending) :
    Partition root s.store current waiting := by
  obtain ⟨c, cs, heq, hpair, hisRoot, hcs⟩ := h.root_eq
  rw [hroot] at hisRoot
  have hlabels : s.store.labels = s.store.records.map Component.label := by
    rw [hdone.store_labels, hdone.store_records, List.map_map]
    rfl
  refine ⟨?_, ?_, ⟨c, ?_, hpair⟩, ?_⟩
  · have hnodup : ((rs.map Compiled.component ++ t.queue.pending).map Component.label).Nodup := by
      have := h.nodup
      rw [Queue.labels] at this
      simpa [Function.comp_def] using this
    have hsub := hnodup.sublist (hfound.sublist.map Component.label)
    simpa [hlabels] using hsub
  · rw [hdone.store_eq]
    simp [Store.length]
  · exact filter_isRoot_of_prefix hisRoot hcs (heq ▸ hfound) hne
  · intro d hd hdroot
    -- a prefix that holds a root begins with it
    have hbegins : s.store.records <+: c :: cs := by
      rw [← heq]
      refine List.IsPrefix.trans ?_ hfound
      rw [List.append_assoc]
      exact List.prefix_append _ _
    have hone := filter_isRoot_of_prefix hisRoot hcs hbegins (List.ne_nil_of_mem hd)
    have hmem : d ∈ s.store.records.filter Component.isRoot := List.mem_filter.2 ⟨hd, hdroot⟩
    rw [hone, List.mem_singleton] at hmem
    subst hmem
    cases hrecords : s.store.records with
    | nil => simp [hrecords] at hd
    | cons x xs =>
      rw [hrecords, List.cons_prefix_cons] at hbegins
      simp [hbegins.1]

variable {w : W} {root : Component} {rs : List Compiled} {t : State W}

theorem Runs.partition (h : Runs env (start env w root) rs t) (hroot : root.isRoot = true) :
    Partition root t.store none t.queue.pending := by
  have hshape := h.shape
  obtain ⟨c, cs, heq, _⟩ := hshape.root_eq
  refine hshape.partition hshape hroot ?_ ?_
  · rw [hshape.store_records, Option.toList_none, List.append_nil, heq]
    exact List.cons_ne_nil _ _
  · refine ⟨[], ?_⟩
    rw [List.append_nil, hshape.store_records, Option.toList_none, List.append_nil]

theorem Runs.partition_take (h : Runs env (start env w root) rs t) (hroot : root.isRoot = true)
    {c : Component} {rest : Queue} (hq : t.queue.pop? = some (c, rest)) :
    Partition root t.store (some c) rest.pending := by
  have hshape := h.shape
  refine hshape.partition hshape hroot (by simp) ?_
  refine ⟨[], ?_⟩
  rw [List.append_nil, hshape.store_records, pop?_eq_some_iff.1 hq, Option.toList_some,
    List.append_assoc, List.singleton_append]

/-- When the component has been compiled and some of its new declarations have joined the queue. -/
theorem Runs.partition_push (h : Runs env (start env w root) rs t) (hroot : root.isRoot = true)
    {c : Component} {rest : Queue} {r : Compiled} {new : List Declaration}
    (hq : t.queue.pop? = some (c, rest)) (hc : compile env (take env t c rest).world c = .ok r)
    (hnew : new <+: newDeclarations (take env t c rest) r) :
    Partition root t.store (some r.component) (rest.pending ++ new.map ofDeclaration) := by
  have hshape := h.shape
  have hnext := hshape.turn (.intro hq hc)
  refine hnext.partition hshape hroot (by simp) ?_
  rw [hshape.store_records, absorb_queue, take_queue, Option.toList_some, List.map_append,
    List.map_singleton, List.prefix_append_right_inj, List.prefix_append_right_inj]
  exact hnew.map ofDeclaration

end Discovery

namespace Builder

open Discovery

def rootEnv (b : Builder) (label : Option String) (path : Option Path) : Env Session :=
  b.env (b.rootComponent label path)

/-- The states that the discovery of a builder goes through, before a component is taken: `rs` has been
compiled in order, and `t` is the state. -/
def Reaches (b : Builder) (label : Option String) (path : Option Path) (s : Session)
    (rs : List Compiled) (t : State Session) : Prop :=
  Runs (b.rootEnv label path) (start (b.rootEnv label path) s (b.rootComponent label path)) rs t

/-- In every state of a discovery the components that wait, the one in work and those in the store
have different labels, the store has counted each component once, and the root is the only root and the
first in the store. So no label is taken, compiled or stored twice. -/
theorem partition_of_reaches (b : Builder) (label : Option String) (path : Option Path) (s : Session)
    {rs : List Compiled} {t : State Session} (h : b.Reaches label path s rs t) :
    Partition (b.rootComponent label path) t.store none t.queue.pending ∧
    (∀ c rest, t.queue.pop? = some (c, rest) →
      Partition (b.rootComponent label path) t.store (some c) rest.pending ∧
      c.label ∉ rs.map (fun r => r.component.label) ∧
      ∀ r, Discovery.compile (b.rootEnv label path) (take (b.rootEnv label path) t c rest).world c = .ok r →
        ∀ new, new <+: newDeclarations (take (b.rootEnv label path) t c rest) r →
          Partition (b.rootComponent label path) t.store (some r.component)
            (rest.pending ++ new.map ofDeclaration)) ∧
    (rs.map fun r => r.component.label).Nodup ∧ t.store.records = rs.map Compiled.component := by
  have hnodup := h.shape.nodup
  refine ⟨h.partition rfl, ?_, hnodup.of_append_left, h.shape.store_records⟩
  intro c rest hq
  refine ⟨h.partition_take rfl hq, ?_, fun r hc new hnew => h.partition_push rfl hq hc hnew⟩
  rw [Queue.labels, pop?_eq_some_iff.1 hq, List.map_cons] at hnodup
  exact fun hmem => List.disjoint_of_nodup_append hnodup hmem List.mem_cons_self

/-! ## A project of three components -/

/-- The root declares two components, and the second of them declares the first again. -/
def sampleDisk : Disk :=
  { entries :=
      [(["p"], .directory),
        (["p", "App.vue"],
          .file (Text.Utf8.encode "<template><script>\x7b\x7d\nimport A from './A'\nimport B from './B'")),
        (["p", "A"], .file (Text.Utf8.encode "<template><script>\x7b\x7d")),
        (["p", "B"], .file (Text.Utf8.encode "<template><script>\x7b\x7d\nimport A from './A'"))]
    cwd := ["p"] }

def sampleSession : Session :=
  { disk := sampleDisk, home := ⟨none, []⟩ }

def sampleBuilder : Builder :=
  { settings := { optionalSections := [.style] }, root := .ofParts ["p"], logger := {} }

def sampleState : State Session :=
  (run (sampleBuilder.rootEnv none none) 2
    (start (sampleBuilder.rootEnv none none) sampleSession (sampleBuilder.rootComponent none none))).state

theorem partition_of_reaches_sample :
    sampleState.store.labels = ["App", "A"] ∧ sampleState.queue.labels = ["B"] ∧
      Partition (sampleBuilder.rootComponent none none) sampleState.store none
        sampleState.queue.pending := by
  have hreaches : sampleBuilder.Reaches none none sampleSession _ sampleState :=
    runs_trace (by decide +kernel)
  exact ⟨by decide +kernel, by decide +kernel,
    (partition_of_reaches sampleBuilder none none sampleSession hreaches).1⟩

end Builder

end Bundler
