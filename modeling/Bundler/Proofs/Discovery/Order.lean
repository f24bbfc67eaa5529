import Bundler.Proofs.Discovery.Termination

/-!
# Bundler.Proofs.Discovery.Order

Which components a parse finds, and in which order. The labels and paths of the store are the first
ones of every label in a list that the store itself determines: the root, then what the stored
components declare, one after the other.

* `Builder.compiled`: the components that a parse compiles, with their declarations.
* `Builder.ReadsSource`: the source that a parse has read for a component.
* `Builder.parse_paths_eq_firsts`: the equation of the store.
-/

namespace Bundler

namespace Discovery

variable {W : Type} {env : Env W}

theorem Runs.turn_of_mem {s t : State W} {rs : List Compiled} {r : Compiled} (h : Runs env s rs t)
    (hr : r ∈ rs) : ∃ done u v, Runs env s done u ∧ Turn env u r v := by
  induction h with
  | nil => cases hr
  | snoc hruns hturn ih =>
    rcases List.mem_append.1 hr with hr | hr
    · exact ih hr
    · rw [List.mem_singleton] at hr
      subst hr
      exact ⟨_, _, _, hruns, hturn⟩

theorem Shape.store_paths_eq_firsts {root : Component} {rs : List Compiled} {t : State W}
    (h : Shape env root rs t) (hq : t.queue.pending = []) :
    t.store.paths = Keyed.firsts (readPairs root rs) := by
  rw [h.store_paths, ← h.pairs_eq, hq, List.append_nil]

end Discovery

namespace Builder

open Discovery

def compiled (b : Builder) (label : Option String) (path : Option Path) (s : Session) :
    List Compiled :=
  trace (b.rootEnv label path) (fuelFor s.disk)
    (start (b.rootEnv label path) s (b.rootComponent label path))

/-- A parse has read a source for a component, when the component was taken from the queue. -/
def ReadsSource (b : Builder) (label : Option String) (path : Option Path) (s : Session)
    (c : Component) (source : String) : Prop :=
  ∃ rs t taken rest, b.Reaches label path s rs t ∧ t.queue.pop? = some (taken, rest) ∧
    taken.pair = c.pair ∧
    Source.read (take (b.rootEnv label path) t taken rest).world.disk c.path = .ok source

variable {b : Builder} {label : Option String} {path : Option Path} {s : Session} {store : Store}

theorem run_of_parse (h : (b.parse label path s).result = .ok store) :
    ∃ t, run (b.rootEnv label path) (fuelFor s.disk)
        (start (b.rootEnv label path) s (b.rootComponent label path)) = ⟨t, none⟩ ∧
      b.Reaches label path s (b.compiled label path s) t ∧ t.queue.pending = [] ∧
      t.store = store := by
  obtain ⟨n, ⟨t, error⟩, hends, _, hrun⟩ := b.ends_discovery label path s
  rw [parse_result_of_run hrun] at h
  cases error with
  | some e => cases h
  | none =>
    cases h
    have hruns := runs_trace (congrArg Outcome.error hrun)
    rw [hrun] at hruns
    exact ⟨t, hrun, hruns, hends.pending_eq_nil, rfl⟩

theorem reaches_of_parse (h : (b.parse label path s).result = .ok store) :
    ∃ t, b.Reaches label path s (b.compiled label path s) t ∧ t.queue.pending = [] ∧
      t.store = store := by
  obtain ⟨t, _, ht⟩ := run_of_parse h
  exact ⟨t, ht⟩

theorem Reaches.readsSource {rs : List Compiled} {t : State Session} {r : Compiled}
    (h : b.Reaches label path s rs t) (hr : r ∈ rs) :
    ∃ source, b.ReadsSource label path s r.component source ∧
      Declaration.scan b.root source = .ok r.declarations := by
  obtain ⟨done, u, v, hruns, hturn⟩ := h.turn_of_mem hr
  obtain @⟨c, rest, _, hq, hc⟩ := hturn
  obtain ⟨source, sections, hread, _, hscan, hcomponent⟩ := compile_eq_ok_iff.1 hc
  have hpair : c.pair = r.component.pair := by rw [hcomponent, complete_pair]
  refine ⟨source, ⟨done, u, c, rest, hruns, hq, hpair, ?_⟩, hscan⟩
  rw [← (Prod.mk.inj hpair).2]
  exact hread

/-- Without a file of the journal the sources are those of the disk that the parse was given. -/
theorem ReadsSource.read_eq {c : Component} {source : String}
    (h : b.ReadsSource label path s c source) (hfile : s.journal.file = none) :
    Source.read s.disk c.path = .ok source := by
  obtain ⟨rs, t, taken, rest, hruns, _, _, hread⟩ := h
  obtain ⟨es, hworld⟩ := Runs.take_world_eq hruns taken rest
  rw [hworld] at hread
  exact (Session.foldl_log_disk hfile _ _).1 ▸ hread

/-- The labels and paths of a store that a parse has made are the first ones of every label among those
of the root and of the declarations in the sources of the stored components, in the order of the store.
So the root comes first, the stored labels are those of the root and of the declarations, and each
has the path of its first declaration. -/
theorem parse_paths_eq_firsts (b : Builder) (label : Option String) (path : Option Path) (s : Session)
    {store : Store} (h : (b.parse label path s).result = .ok store) :
    store.records = (b.compiled label path s).map Compiled.component ∧
    (∀ r ∈ b.compiled label path s, ∃ source, b.ReadsSource label path s r.component source ∧
      (s.journal.file = none → Source.read s.disk r.component.path = .ok source) ∧
      Declaration.scan b.root source = .ok r.declarations) ∧
    store.paths = Keyed.firsts ((b.rootComponent label path).pair ::
      (b.compiled label path s).flatMap fun r => r.declarations.map Declaration.pair) ∧
    store.paths.head? = some (b.rootComponent label path).pair ∧
    (∀ l, l ∈ store.labels ↔ l = (b.rootComponent label path).label ∨
      ∃ r ∈ b.compiled label path s, l ∈ r.declarations.map Declaration.label) ∧
    (∀ l, store.paths.lookup l = ((b.rootComponent label path).pair ::
      (b.compiled label path s).flatMap fun r => r.declarations.map Declaration.pair).lookup l) := by
  obtain ⟨t, hruns, hq, rfl⟩ := reaches_of_parse h
  have hshape := hruns.shape
  have hpaths := hshape.store_paths_eq_firsts hq
  refine ⟨hshape.store_records, ?_, hpaths, ?_, ?_, ?_⟩
  · intro r hr
    obtain ⟨source, hsource, hscan⟩ := hruns.readsSource hr
    exact ⟨source, hsource, hsource.read_eq, hscan⟩
  · rw [hpaths, readPairs, Keyed.firsts, List.head?_cons]
  · intro l
    have hlabels : t.store.labels = Keyed.keys t.store.paths := by
      simp [Store.labels, Store.paths, Keyed.keys]
    rw [hlabels, hpaths, Keyed.mem_keys_firsts, mem_keys_readPairs]
  · intro l
    rw [hpaths, Keyed.lookup_firsts, readPairs]

theorem parse_paths_eq_firsts_sample :
    ∃ store, (sampleBuilder.parse none none sampleSession).result = .ok store ∧
      store.labels = ["App", "A", "B"] ∧
      store.paths = Keyed.firsts ((sampleBuilder.rootComponent none none).pair ::
        (sampleBuilder.compiled none none sampleSession).flatMap
          fun r => r.declarations.map Declaration.pair) := by
  have hlabels : (sampleBuilder.parse none none sampleSession).result.toOption.map Store.labels =
      some ["App", "A", "B"] := by decide +kernel
  cases h : (sampleBuilder.parse none none sampleSession).result with
  | error e =>
    rw [h] at hlabels
    cases hlabels
  | ok store =>
    rw [h] at hlabels
    exact ⟨store, rfl, Option.some.inj hlabels,
      (parse_paths_eq_firsts sampleBuilder none none sampleSession h).2.2.1⟩

end Builder

end Bundler
