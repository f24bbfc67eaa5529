import Bundler.Proofs.Discovery.Clashes
import Bundler.Proofs.Discovery.Failure
import Mathlib.Algebra.GroupWithZero.Nat

/-!
# Bundler.Proofs.Discovery.Metrics

The counters of a discovery against its queue and its store. A component is counted as discovered when
it joins the queue and as compiled when it goes into the store, and every declaration either brings in
a component or is skipped.

* `Metrics.countCompiled`: the counters after a component, each of them set to a checked value.
* `Balanced m waiting`: the counters `m` agree while so many components wait.
* `countCompiled_eq_absorb`: no check refuses what a compiled component adds.
* `Runs.balanced`: the counters agree in every state of a run.
* `Builder.parse_metrics_balanced`: and also after a parse, whether it fails or not.
-/

namespace Bundler

namespace Metrics

def setTo (m : Metrics) (name : String) (n : Int) : Except CountError Metrics :=
  (m.assign name (.int n)).mapError .invalid

/-- Counts a compiled component by the number of its declarations, `seen`, and of those that are new.
The number of the others is a difference of integers. -/
def countCompiled (m : Metrics) (new seen : Nat) : Except CountError Metrics := do
  let m ← m.recordDiscovered (.int new)
  let m ← m.setTo "imports_seen" (m.importsSeen + seen)
  let m ← m.setTo "duplicates_skipped" (m.duplicatesSkipped + ((seen : Int) - new))
  m.setTo "components_compiled" (m.compiled + 1)

theorem checkCount_natCast (n : Nat) : checkCount (.int n) = .ok n := by
  have hn : ¬ (n : Int) < 0 := by omega
  simp only [checkCount, checkInteger, if_neg hn, Int.toNat_natCast]

theorem recordDiscovered_natCast (m : Metrics) (n : Nat) :
    m.recordDiscovered (.int n) = .ok { m with discovered := m.discovered + n } := by
  have hn : ¬ (n : Int) < 0 := by omega
  have hsum : increased m.discovered (.int n) = .ok (.int ((m.discovered + n : Nat) : Int)) := by
    simp only [increased, if_neg hn, Int.natCast_add]
  simp only [recordDiscovered, hsum, assign, checkCount_natCast]
  rfl

theorem countCompiled_of_le {m : Metrics} {new seen : Nat} (h : new ≤ seen) :
    m.countCompiled new seen =
      .ok { m with
        discovered := m.discovered + new
        compiled := m.compiled + 1
        importsSeen := m.importsSeen + seen
        duplicatesSkipped := m.duplicatesSkipped + (seen - new) } := by
  have hseen : (m.importsSeen : Int) + seen = ((m.importsSeen + seen : Nat) : Int) := by omega
  have hskipped : (m.duplicatesSkipped : Int) + ((seen : Int) - new) =
      ((m.duplicatesSkipped + (seen - new) : Nat) : Int) := by omega
  have hcompiled : (m.compiled : Int) + 1 = ((m.compiled + 1 : Nat) : Int) := by omega
  rw [countCompiled, recordDiscovered_natCast]
  simp only [bind, Except.bind, setTo, assign, hseen, hskipped, hcompiled, checkCount_natCast,
    Checked.within, Except.map, Except.mapError]

end Metrics

namespace Discovery

variable {W : Type} {env : Env W}

/-! ## Turns -/

@[simp] theorem take_metrics (s : State W) (c : Component) (rest : Queue) :
    (take env s c rest).metrics = s.metrics := rfl

theorem absorb_metrics (s : State W) (r : Compiled) :
    (absorb env s r).metrics =
      { s.metrics with
        discovered := s.metrics.discovered + (newDeclarations s r).length
        compiled := s.metrics.compiled + 1
        importsSeen := s.metrics.importsSeen + r.declarations.length
        duplicatesSkipped := s.metrics.duplicatesSkipped +
          (r.declarations.length - (newDeclarations s r).length) } := rfl

theorem length_newDeclarations_le (s : State W) (r : Compiled) :
    (newDeclarations s r).length ≤ r.declarations.length :=
  (Declaration.resolve_sublist _ _).length_le

/-- The checks of the counters accept what a compiled component adds to them. -/
theorem countCompiled_eq_absorb (s : State W) (r : Compiled) :
    s.metrics.countCompiled (newDeclarations s r).length r.declarations.length =
      .ok (absorb env s r).metrics := by
  rw [Metrics.countCompiled_of_le (length_newDeclarations_le s r), absorb_metrics]

/-! ## Runs -/

structure Balanced (m : Metrics) (waiting : Nat) : Prop where
  /-- What has been discovered has been compiled or waits. -/
  discovered_eq : m.discovered = m.compiled + waiting
  /-- A declaration is skipped or brings in a component; the root comes without one. -/
  importsSeen_eq : (m.importsSeen : Int) = m.duplicatesSkipped + m.discovered - 1

theorem Balanced.turn {s t : State W} {r : Compiled} (h : Balanced s.metrics s.queue.length)
    (hturn : Turn env s r t) : Balanced t.metrics t.queue.length := by
  obtain @⟨c, rest, _, hq, _⟩ := hturn
  obtain ⟨hdiscovered, himports⟩ := h
  have hle := length_newDeclarations_le (take env s c rest) r
  have hwaiting : (absorb env (take env s c rest) r).queue.length + 1 =
      s.queue.length + (newDeclarations (take env s c rest) r).length := by
    simp only [Queue.length, absorb_queue, take_queue, pop?_eq_some_iff.1 hq, List.length_append,
      List.length_map, List.length_cons]
    omega
  constructor
  · simp only [absorb_metrics, take_metrics]
    omega
  · simp only [absorb_metrics, take_metrics]
    omega

variable {w : W} {root : Component} {rs : List Compiled} {t : State W}

theorem Runs.balanced (h : Runs env (start env w root) rs t) :
    Balanced t.metrics t.queue.length := by
  induction h with
  | nil => exact ⟨rfl, rfl⟩
  | snoc _ hturn ih => exact ih.turn hturn

theorem Runs.importsSeen_eq (h : Runs env (start env w root) rs t) :
    t.metrics.importsSeen = (rs.map fun r => r.declarations.length).sum := by
  induction h with
  | nil => rfl
  | snoc _ hturn ih =>
    obtain ⟨_, _⟩ := hturn
    simp only [absorb_metrics, take_metrics, ih, List.map_append, List.map_cons, List.map_nil,
      List.sum_append, List.sum_cons, List.sum_nil, Nat.add_zero]

end Discovery

namespace Builder

open Discovery

/-- The counters of a discovery agree in each of its states before a component is taken, and no check
of a counter refuses what a component adds. They agree after a parse that fails, with the component that
failed among those not compiled, and after one that succeeds, when nothing waits; then they count the
stored components, and the declarations in the sources of these. What the builder counted before has no
part in it. -/
theorem parse_metrics_balanced (b : Builder) (label : Option String) (path : Option Path)
    (s : Session) :
    (∀ m, ({ b with metrics := m }.parse label path s).builder.metrics =
      (b.parse label path s).builder.metrics) ∧
    Metrics.ofTable [("components_discovered", .int 1)] =
      .ok (start (b.rootEnv label path) s (b.rootComponent label path)).metrics ∧
    (∀ rs t, b.Reaches label path s rs t → Balanced t.metrics t.queue.length ∧
      ∀ c rest r, t.queue.pop? = some (c, rest) →
        Discovery.compile (b.rootEnv label path) (take (b.rootEnv label path) t c rest).world c =
          .ok r →
        t.metrics.countCompiled (newDeclarations (take (b.rootEnv label path) t c rest) r).length
            r.declarations.length =
          .ok (absorb (b.rootEnv label path) (take (b.rootEnv label path) t c rest) r).metrics) ∧
    (∀ e, (b.parse label path s).result = .error e →
      ∃ rs t c rest, b.Reaches label path s rs t ∧ t.queue.pop? = some (c, rest) ∧
        Discovery.compile (b.rootEnv label path) (take (b.rootEnv label path) t c rest).world c =
          .error e ∧
        Balanced (b.parse label path s).builder.metrics (rest.length + 1)) ∧
    (∀ store, (b.parse label path s).result = .ok store →
      Balanced (b.parse label path s).builder.metrics 0 ∧
      (b.parse label path s).builder.metrics.compiled = store.length ∧ store.size = store.length ∧
      store.records = (b.compiled label path s).map Compiled.component ∧
      (∀ r ∈ b.compiled label path s, ∃ source, b.ReadsSource label path s r.component source ∧
        (s.journal.file = none → Source.read s.disk r.component.path = .ok source) ∧
        Declaration.scan b.root source = .ok r.declarations) ∧
      (b.parse label path s).builder.metrics.importsSeen =
        ((b.compiled label path s).map fun r => r.declarations.length).sum) := by
  refine ⟨fun _ => rfl, rfl, ?_, ?_, ?_⟩
  · intro rs t h
    refine ⟨Runs.balanced h, fun c rest r _ _ => ?_⟩
    exact countCompiled_eq_absorb (take (b.rootEnv label path) t c rest) r
  · intro e h
    rw [parse_result_of_run rfl] at h
    split at h
    · rename_i herror
      cases h
      obtain ⟨rs, t, c, rest, hruns, hq, hc, hstate⟩ := runs_of_run_error herror
      refine ⟨rs, t, c, rest, hruns, hq, hc, ?_⟩
      have hbalanced := hruns.balanced
      rw [Queue.length, pop?_eq_some_iff.1 hq, List.length_cons] at hbalanced
      rw [parse_metrics_of_run rfl, hstate]
      exact hbalanced
    · cases h
  · intro store h
    obtain ⟨t, hrun, hruns, hq, rfl⟩ := run_of_parse h
    have hshape := hruns.shape
    have hbalanced := Runs.balanced hruns
    rw [Queue.length, hq, List.length_nil] at hbalanced
    rw [parse_metrics_of_run hrun]
    refine ⟨hbalanced, ?_, ?_, hshape.store_records, ?_, Runs.importsSeen_eq hruns⟩
    · rw [Runs.compiled_eq hruns, hshape.store_eq, Store.length, List.length_map]
    · rw [hshape.store_eq, Store.length, List.length_map]
    · intro r hr
      obtain ⟨source, hsource, hscan⟩ := hruns.readsSource hr
      exact ⟨source, hsource, hsource.read_eq, hscan⟩

/-- With a clash, one declaration of three is skipped; without its braces the first component fails
while the second one waits. -/
theorem parse_metrics_balanced_sample :
    (∃ store, (sampleBuilder.parse none none clashSession).result = .ok store ∧ store.length = 3 ∧
      (sampleBuilder.parse none none clashSession).builder.metrics = ⟨3, 3, 3, 1, 0⟩ ∧
      Balanced (sampleBuilder.parse none none clashSession).builder.metrics 0) ∧
    (sampleBuilder.parse none none brokenSession).builder.metrics = ⟨3, 1, 2, 0, 0⟩ ∧
    ∃ e, (sampleBuilder.parse none none brokenSession).result = .error e ∧
      ∃ waiting,
        Balanced (sampleBuilder.parse none none brokenSession).builder.metrics (waiting + 1) := by
  have hclash := (Prod.mk.inj (Prod.mk.inj parse_clashSession).2).1
  have hbroken : (sampleBuilder.parse none none brokenSession).builder.metrics = ⟨3, 1, 2, 0, 0⟩ := by
    decide +kernel
  obtain ⟨-, -, -, -, hstored⟩ := parse_metrics_balanced sampleBuilder none none clashSession
  obtain ⟨-, -, -, hfailed, hnone⟩ := parse_metrics_balanced sampleBuilder none none brokenSession
  refine ⟨?_, hbroken, ?_⟩
  · obtain ⟨store, hresult, _⟩ := exists_parse_clashSession
    obtain ⟨hbalanced, hlength, -⟩ := hstored store hresult
    exact ⟨store, hresult, by rw [← hlength, hclash], hclash, hbalanced⟩
  · cases h : (sampleBuilder.parse none none brokenSession).result with
    | ok store =>
      -- a parse that succeeds leaves nothing to compile
      have hdiscovered := (hnone store h).1.discovered_eq
      rw [hbroken] at hdiscovered
      cases hdiscovered
    | error e =>
      obtain ⟨_, _, _, rest, _, _, _, hbalanced⟩ := hfailed e h
      exact ⟨e, rfl, rest.length, hbalanced⟩

end Builder

end Bundler
