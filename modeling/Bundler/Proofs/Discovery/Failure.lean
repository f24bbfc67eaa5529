import Bundler.Proofs.Discovery.Order
import Bundler.Proofs.Section

/-!
# Bundler.Proofs.Discovery.Failure

Which failure ends a discovery. The order of discovery is said without queue and store: the next
component is the first label that has been read and not been compiled.

* `stages optional source`: the faults of a source, stage by stage.
* `order root fs`: the labels and paths in the order of their discovery.
* `Found read optional base root fs`: the components of `fs` come first in that order, and none fails.
* `Builder.FailsAt`: the component after the first ones fails.
* `Builder.parse_fails_at_first`: a parse fails with the first component that does, and only then.
-/

namespace Bundler

namespace Discovery

variable {W : Type} {env : Env W}

/-! ## One component -/

/-- What the stages of compiling a source find wrong, in their order. -/
def stages (optional : List Section) (source : String) : List (Option Failure.Cause) :=
  [Section.template.fault? optional source.toList, Section.script.fault? optional source.toList,
    Section.style.fault? optional source.toList, Declaration.fault? source.toList]

/-- Why a component fails, by what reading its source gives. -/
def failure? (optional : List Section) (c : String × Path) :
    Except ReadError String → Option BuildError
  | .error e => some (Source.readFailure c.1 c.2 e)
  | .ok source =>
    ((stages optional source).findSome? id).map fun cause => .failure ⟨cause, c.1, c.2⟩

theorem failure?_eq_none_iff {optional : List Section} {c : String × Path}
    {read : Except ReadError String} :
    failure? optional c read = none ↔
      ∃ source, read = .ok source ∧ ∀ fault ∈ stages optional source, fault = none := by
  cases read with
  | error e => simp [failure?]
  | ok source =>
    rw [failure?, Option.map_eq_none_iff, List.findSome?_eq_none_iff]
    simp

theorem failure?_eq_failure {optional : List Section} {c : String × Path}
    {read : Except ReadError String} {f : Failure} (h : failure? optional c read = some (.failure f)) :
    f.label = some c.1 ∧ f.path = some c.2 ∧
      ((∃ e, read = .error e ∧
        f.cause = .unreadableSource ("Failed to read component source: " ++ e.message)) ∨
      ∃ source, read = .ok source ∧ (stages optional source).findSome? id = some f.cause) := by
  cases read with
  | error e =>
    cases e with
    | undecodable fault =>
      cases h
      exact ⟨rfl, rfl, .inl ⟨_, rfl, rfl⟩⟩
    | file e =>
      simp only [failure?, Source.readFailure] at h
      split at h
      · cases h
        exact ⟨rfl, rfl, .inl ⟨_, rfl, rfl⟩⟩
      · cases h
  | ok source =>
    simp only [failure?, Option.map_eq_some_iff] at h
    obtain ⟨cause, hcause, heq⟩ := h
    cases heq
    exact ⟨rfl, rfl, .inr ⟨source, rfl, hcause⟩⟩

theorem findSome?_stages (optional : List Section) (source : String) :
    (stages optional source).findSome? id =
      (Section.all.findSome? fun k => k.fault? optional source.toList).or
        (Declaration.fault? source.toList) := by
  simp only [stages, Section.all, List.findSome?_cons, List.findSome?_nil, id]
  cases Section.template.fault? optional source.toList <;>
    cases Section.script.fault? optional source.toList <;>
    cases Section.style.fault? optional source.toList <;>
    cases Declaration.fault? source.toList <;> rfl

/-- Rendering never fails, so the stages of a source decide. -/
theorem compile_eq_error_iff {w : W} {c : Component} {e : BuildError} :
    compile env w c = .error e ↔ failure? env.optional c.pair (env.read w c.path) = some e := by
  unfold compile
  cases env.read w c.path with
  | error re => simp [failure?, Component.pair]
  | ok source =>
    simp only [failure?, findSome?_stages]
    cases hsections : Sections.extract env.optional source with
    | error cause =>
      rw [Sections.extract_eq_error_iff.1 hsections]
      simp [Component.pair]
    | ok sections =>
      have hnone : Section.all.findSome? (fun k => k.fault? env.optional source.toList) = none := by
        refine Option.eq_none_iff_forall_ne_some.2 fun cause hcause => ?_
        rw [Sections.extract_eq_error_iff.2 hcause] at hsections
        cases hsections
      simp only [render_fill, hnone, Option.none_or]
      cases hscan : Declaration.scan env.context.projectRoot source with
      | error cause =>
        rw [Declaration.scan_eq_error_iff.1 hscan]
        simp [Component.pair]
      | ok ds =>
        have hfault : Declaration.fault? source.toList = none := by
          refine Option.eq_none_iff_forall_ne_some.2 fun cause hcause => ?_
          rw [Declaration.scan_eq_error_iff.2 hcause] at hscan
          cases hscan
        simp [hfault]

theorem exists_compile_eq_ok_iff {w : W} {c : Component} :
    (∃ r, compile env w c = .ok r) ↔
      ∃ source, env.read w c.path = .ok source ∧ ∀ fault ∈ stages env.optional source, fault = none := by
  rw [← failure?_eq_none_iff (c := c.pair)]
  cases hc : compile env w c with
  | error e =>
    rw [compile_eq_error_iff.1 hc]
    simp
  | ok r =>
    have hnone : ∀ e, failure? env.optional c.pair (env.read w c.path) ≠ some e := by
      intro e he
      rw [compile_eq_error_iff.2 he] at hc
      cases hc
    simpa using Option.eq_none_iff_forall_ne_some.2 hnone

/-! ## The order of discovery -/

/-- A component as a discovery finds it: its label and path, and what its source declares. -/
structure Find where
  pair : String × Path
  declarations : List Declaration

def Compiled.find (r : Compiled) : Find :=
  ⟨r.component.pair, r.declarations⟩

/-- The labels and paths in the order of their discovery: the root, then what the components declare,
each label as it comes first. -/
def order (root : String × Path) (fs : List Find) : List (String × Path) :=
  Keyed.firsts (root :: fs.flatMap fun f => f.declarations.map Declaration.pair)

/-- The components of the list are the first ones in the order of discovery, and none of them fails.
What reading gives depends on how many came before, since the journal may be a source. -/
inductive Found (read : Nat → Path → Except ReadError String) (optional : List Section) (base : Path)
    (root : String × Path) : List Find → Prop where
  | nil : Found read optional base root []
  | snoc {fs : List Find} {f : Find} {source : String} :
      Found read optional base root fs → (order root fs)[fs.length]? = some f.pair →
      read fs.length f.pair.2 = .ok source → (∀ fault ∈ stages optional source, fault = none) →
      Declaration.scan base source = .ok f.declarations → Found read optional base root (fs ++ [f])

theorem order_map_find (root : Component) (rs : List Compiled) :
    order root.pair (rs.map Compiled.find) = Keyed.firsts (readPairs root rs) := by
  rw [order, List.flatMap_map]
  rfl

/-- What waits first comes next in the order. -/
theorem Shape.order_getElem? {root : Component} {rs : List Compiled} {t : State W}
    (h : Shape env root rs t) :
    (order root.pair (rs.map Compiled.find))[rs.length]? =
      t.queue.pending.head?.map Component.pair := by
  rw [order_map_find, ← h.pairs_eq, List.map_append, List.getElem?_append_right (by simp)]
  simp [List.head?_eq_getElem?]

/-! ## Runs of a given length -/

theorem run_world_eq (env : Env W) (s : State W) (n : Nat) :
    ∃ es : List Journal.Entry, (run env n s).state.world = es.foldl env.record s.world := by
  induction n generalizing s with
  | zero => exact ⟨[], rfl⟩
  | succ n ih =>
    rcases step_cases env s with ⟨_, hs⟩ | ⟨c, rest, e, _, _, hs⟩ | ⟨r, t, hturn, hs⟩
    · exact ⟨[], by simp [run, hs]⟩
    · exact ⟨[dequeuedEntry c rest.length], by simp [run, hs, take, State.log]⟩
    · obtain ⟨es, hes⟩ := ih t
      obtain ⟨es', hes'⟩ := hturn.world_eq
      exact ⟨es' ++ es, by simp [run, hs, hes, hes', List.foldl_append]⟩

/-- The loop from the end of a run is the rest of the loop from its start. -/
theorem Runs.ends {s t : State W} {rs : List Compiled} (h : Runs env s rs t) :
    ∀ {n : Nat} {o : Outcome W}, Ends env t n o → Ends env s (rs.length + n) o := by
  induction h with
  | nil =>
    intro n o ho
    simpa using ho
  | @snoc rs t u r _ hturn ih =>
    intro n o ho
    have hnext := ih (Ends.advanced hturn.step_eq ho)
    have hlen : (rs ++ [r]).length + n = rs.length + (n + 1) := by simp; omega
    rw [hlen]
    exact hnext

theorem Ends.deterministic {s : State W} {n m : Nat} {o o' : Outcome W} (h : Ends env s n o)
    (h' : Ends env s m o') : o = o' := by
  have hn := h.run_eq (show n < n + m + 1 by omega)
  rw [← hn, h'.run_eq (show m < n + m + 1 by omega)]

/-- The world in which the component after the first `n` is compiled. -/
def worldAt (env : Env W) (s : State W) (n : Nat) : W :=
  let t := (run env n s).state
  match t.queue.pop? with
  | some (c, rest) => (take env t c rest).world
  | none => t.world

theorem Runs.worldAt_eq {s t : State W} {rs : List Compiled} (h : Runs env s rs t) {c : Component}
    {rest : Queue} (hq : t.queue.pop? = some (c, rest)) :
    worldAt env s rs.length = (take env t c rest).world := by
  have hrun : run env rs.length s = ⟨t, none⟩ := h.run_add 0
  simp only [worldAt, hrun, hq]

theorem worldAt_eq_foldl (env : Env W) (s : State W) (n : Nat) :
    ∃ es : List Journal.Entry, worldAt env s n = es.foldl env.record s.world := by
  obtain ⟨es, hes⟩ := run_world_eq env s n
  unfold worldAt
  simp only
  split
  · rename_i c rest _
    exact ⟨es ++ [dequeuedEntry c rest.length], by simp [take, State.log, hes, List.foldl_append]⟩
  · exact ⟨es, hes⟩

theorem Runs.compiled_eq {w : W} {root : Component} {rs : List Compiled} {t : State W}
    (h : Runs env (start env w root) rs t) : t.metrics.compiled = rs.length := by
  induction h with
  | nil => rfl
  | @snoc rs t u r _ hturn ih =>
    obtain ⟨_, _⟩ := hturn
    rw [List.length_append, List.length_singleton, ← ih]
    rfl

/-- A bounded run that fails has compiled some components and failed at the next one. -/
theorem runs_of_run_error {s : State W} {n : Nat} {e : BuildError} (h : (run env n s).error = some e) :
    ∃ rs t c rest, Runs env s rs t ∧ t.queue.pop? = some (c, rest) ∧
      compile env (take env t c rest).world c = .error e ∧ (run env n s).state = take env t c rest := by
  -- the run so far is carried along, since runs grow at their end and the loop goes on from its start
  suffices ∀ {s₀ done}, Runs env s₀ done s → ∃ rs t c rest, Runs env s₀ rs t ∧
      t.queue.pop? = some (c, rest) ∧ compile env (take env t c rest).world c = .error e ∧
      (run env n s).state = take env t c rest from this .nil
  induction n generalizing s with
  | zero => simp [run] at h
  | succ n ih =>
    intro s₀ done hdone
    rcases step_cases env s with ⟨_, hs⟩ | ⟨c, rest, e', hq, hc, hs⟩ | ⟨r, t, hturn, hs⟩
    · simp [run, hs] at h
    · simp only [run, hs, Option.some.injEq] at h ⊢
      subst h
      exact ⟨done, s, c, rest, hdone, hq, hc, rfl⟩
    · simp only [run, hs] at h ⊢
      exact ih h (hdone.snoc hturn)

/-! ## Runs and the order -/

section

variable {w : W} {root : Component}

def readAt (env : Env W) (w : W) (root : Component) (n : Nat) : Path → Except ReadError String :=
  env.read (worldAt env (start env w root) n)

theorem Runs.found {rs : List Compiled} {t : State W} (h : Runs env (start env w root) rs t) :
    Found (readAt env w root) env.optional env.context.projectRoot root.pair
      (rs.map Compiled.find) := by
  induction h with
  | nil => exact .nil
  | @snoc rs t u r hruns hturn ih =>
    obtain @⟨c, rest, _, hq, hc⟩ := hturn
    have hnone : failure? env.optional c.pair (env.read (take env t c rest).world c.path) = none := by
      refine Option.eq_none_iff_forall_ne_some.2 fun e he => ?_
      rw [compile_eq_error_iff.2 he] at hc
      cases hc
    obtain ⟨source, sections, hread, _, hscan, hcomponent⟩ := compile_eq_ok_iff.1 hc
    obtain ⟨_, hsource, hstages⟩ := failure?_eq_none_iff.1 hnone
    rw [hread] at hsource
    cases hsource
    have hpair : r.find.pair = c.pair := by rw [Compiled.find, hcomponent, complete_pair]
    rw [List.map_append, List.map_singleton]
    refine .snoc ih ?_ ?_ hstages hscan
    · rw [List.length_map, hruns.shape.order_getElem?, pop?_eq_some_iff.1 hq, hpair]
      rfl
    · rw [List.length_map, readAt, hruns.worldAt_eq hq, hpair]
      exact hread

theorem Runs.pop?_of_next {rs : List Compiled} {t : State W} {p : String × Path}
    (h : Runs env (start env w root) rs t)
    (hnext : (order root.pair (rs.map Compiled.find))[rs.length]? = some p) :
    ∃ c rest, t.queue.pop? = some (c, rest) ∧ c.pair = p ∧
      readAt env w root rs.length p.2 = env.read (take env t c rest).world c.path := by
  rw [h.shape.order_getElem?, Option.map_eq_some_iff] at hnext
  obtain ⟨c, hc, rfl⟩ := hnext
  obtain ⟨rest, hpending⟩ := List.head?_eq_some_iff.1 hc
  have hq : t.queue.pop? = some (c, ⟨rest⟩) := pop?_eq_some_iff.2 hpending
  exact ⟨c, ⟨rest⟩, hq, rfl, by rw [readAt, h.worldAt_eq hq]; rfl⟩

theorem Found.runs {fs : List Find}
    (h : Found (readAt env w root) env.optional env.context.projectRoot root.pair fs) :
    ∃ rs t, Runs env (start env w root) rs t ∧ rs.map Compiled.find = fs := by
  induction h with
  | nil => exact ⟨[], _, .nil, rfl⟩
  | @snoc fs f source _ hnext hread hstages hscan ih =>
    obtain ⟨rs, t, hruns, rfl⟩ := ih
    rw [List.length_map] at hnext hread
    obtain ⟨c, rest, hq, hpair, hreadAt⟩ := hruns.pop?_of_next hnext
    rw [hreadAt] at hread
    -- the component that waits is the one that the order names, so its stages decide
    cases hc : compile env (take env t c rest).world c with
    | error e =>
      rw [compile_eq_error_iff, failure?_eq_none_iff.2 ⟨source, hread, hstages⟩] at hc
      cases hc
    | ok r =>
      obtain ⟨_, sections, hread', _, hscan', hcomponent⟩ := compile_eq_ok_iff.1 hc
      rw [hread] at hread'
      cases hread'
      rw [hscan] at hscan'
      have hfind : r.find = f := by
        rw [Compiled.find, hcomponent, complete_pair, hpair, ← Except.ok.inj hscan']
      exact ⟨rs ++ [r], _, hruns.snoc (.intro hq hc), by rw [List.map_append, List.map_singleton, hfind]⟩

end

end Discovery

namespace Builder

open Discovery

/-- What a parse reads for the component after the first `n`. -/
def sourceAt (b : Builder) (label : Option String) (path : Option Path) (s : Session) (n : Nat) :
    Path → Except ReadError String :=
  readAt (b.rootEnv label path) s (b.rootComponent label path) n

/-- In a parse the components of `fs` are compiled, and the next one in the order of discovery, `c`,
fails. -/
structure FailsAt (b : Builder) (label : Option String) (path : Option Path) (s : Session)
    (fs : List Find) (c : String × Path) (e : BuildError) : Prop where
  found : Found (b.sourceAt label path s) b.settings.optionalSections b.root
    (b.rootComponent label path).pair fs
  next : (order (b.rootComponent label path).pair fs)[fs.length]? = some c
  failure : failure? b.settings.optionalSections c (b.sourceAt label path s fs.length c.2) = some e

variable {b : Builder} {label : Option String} {path : Option Path} {s : Session}

theorem sourceAt_eq (hfile : s.journal.file = none) (n : Nat) (p : Path) :
    b.sourceAt label path s n p = Source.read s.disk p := by
  obtain ⟨es, hes⟩ := worldAt_eq_foldl (b.rootEnv label path)
    (start (b.rootEnv label path) s (b.rootComponent label path)) n
  rw [sourceAt, readAt, hes]
  exact congrArg (Source.read · p) (Session.foldl_log_disk hfile _ es).1

theorem FailsAt.run_eq {fs : List Find} {c : String × Path} {e : BuildError}
    (h : b.FailsAt label path s fs c e) :
    ∃ rs t x rest, b.Reaches label path s rs t ∧ rs.map Compiled.find = fs ∧ x.pair = c ∧
      run (b.rootEnv label path) (fuelFor s.disk)
        (start (b.rootEnv label path) s (b.rootComponent label path)) =
        ⟨take (b.rootEnv label path) t x rest, some e⟩ := by
  obtain ⟨rs, t, hruns, rfl⟩ := h.found.runs
  have hnext := h.next
  have hfailure := h.failure
  rw [List.length_map] at hnext hfailure
  obtain ⟨x, rest, hq, hpair, hread⟩ := hruns.pop?_of_next hnext
  rw [sourceAt, hread, ← hpair] at hfailure
  have hc : Discovery.compile (b.rootEnv label path)
      (take (b.rootEnv label path) t x rest).world x = .error e := compile_eq_error_iff.2 hfailure
  -- the fuel of a discovery is enough for an end, and there is only one
  have hends := hruns.ends (.failed (step_of_compile_error hq hc))
  obtain ⟨n, o, hends', _, hrun⟩ := b.ends_discovery label path s
  rw [hends'.deterministic hends] at hrun
  exact ⟨rs, t, x, rest, hruns, rfl, hpair, hrun⟩

theorem parse_eq_error_iff {e : BuildError} :
    (b.parse label path s).result = .error e ↔ ∃ fs c, b.FailsAt label path s fs c e := by
  constructor
  · intro h
    rw [parse_result_of_run rfl] at h
    cases herror : (run (b.rootEnv label path) (fuelFor s.disk)
        (start (b.rootEnv label path) s (b.rootComponent label path))).error with
    | none =>
      rw [herror] at h
      cases h
    | some e' =>
      rw [herror] at h
      cases h
      obtain ⟨rs, t, c, rest, hruns, hq, hc, _⟩ := runs_of_run_error herror
      refine ⟨rs.map Compiled.find, c.pair, hruns.found, ?_, ?_⟩
      · rw [List.length_map, hruns.shape.order_getElem?, pop?_eq_some_iff.1 hq]
        rfl
      · rw [List.length_map, sourceAt, readAt, hruns.worldAt_eq hq]
        exact compile_eq_error_iff.1 hc
  · rintro ⟨fs, c, h⟩
    obtain ⟨rs, t, x, rest, _, _, _, hrun⟩ := h.run_eq
    rw [parse_result_of_run hrun]

/-- What comes first in the order is what has been compiled, and then the component that fails. -/
theorem FailsAt.prefix_order {fs : List Find} {c : String × Path} {e : BuildError}
    (h : b.FailsAt label path s fs c e) :
    fs.map Find.pair ++ [c] <+: order (b.rootComponent label path).pair fs := by
  obtain ⟨rs, t, hruns, rfl⟩ := h.found.runs
  have hnext := h.next
  rw [List.length_map] at hnext
  obtain ⟨x, rest, hq, rfl, _⟩ := hruns.pop?_of_next hnext
  rw [order_map_find, ← hruns.shape.pairs_eq, pop?_eq_some_iff.1 hq]
  exact ⟨rest.pending.map Component.pair, by simp [Compiled.find, Function.comp_def]⟩

theorem FailsAt.compiled_eq {fs : List Find} {c : String × Path} {e : BuildError}
    (h : b.FailsAt label path s fs c e) :
    (b.parse label path s).builder.metrics.compiled = fs.length := by
  obtain ⟨rs, t, x, rest, hruns, rfl, _, hrun⟩ := h.run_eq
  have hmetrics : (b.parse label path s).builder.metrics = t.metrics := parse_metrics_of_run hrun
  rw [hmetrics, Runs.compiled_eq hruns, List.length_map]

/-- A parse fails exactly when, after some components that come first in the order of discovery and
do not fail, the next one fails. The failure names that component and its cause is that of the first
stage with a fault: reading, template, script, style, declarations. The components before it are those
that have been counted as compiled. A parse in which no component fails succeeds. -/
theorem parse_fails_at_first (b : Builder) (label : Option String) (path : Option Path) (s : Session) :
    (∀ e, (b.parse label path s).result = .error e ↔ ∃ fs c, b.FailsAt label path s fs c e) ∧
    (∀ fs c f, b.FailsAt label path s fs c (.failure f) →
      fs.map Find.pair ++ [c] <+: order (b.rootComponent label path).pair fs ∧
      f.label = some c.1 ∧ f.path = some c.2 ∧
      ((∃ e, b.sourceAt label path s fs.length c.2 = .error e ∧
        f.cause = .unreadableSource ("Failed to read component source: " ++ e.message)) ∨
      ∃ source, b.sourceAt label path s fs.length c.2 = .ok source ∧
        (stages b.settings.optionalSections source).findSome? id = some f.cause) ∧
      (b.parse label path s).builder.metrics.compiled = fs.length) ∧
    ((∀ fs c e, ¬ b.FailsAt label path s fs c e) →
      ∃ store, (b.parse label path s).result = .ok store) ∧
    (s.journal.file = none → ∀ n p, b.sourceAt label path s n p = Source.read s.disk p) := by
  refine ⟨fun e => parse_eq_error_iff, ?_, ?_, sourceAt_eq⟩
  · intro fs c f h
    obtain ⟨hlabel, hpath, hcause⟩ := failure?_eq_failure h.failure
    exact ⟨h.prefix_order, hlabel, hpath, hcause, h.compiled_eq⟩
  · intro hnone
    cases h : (b.parse label path s).result with
    | ok store => exact ⟨store, rfl⟩
    | error e =>
      obtain ⟨fs, c, hfails⟩ := parse_eq_error_iff.1 h
      exact absurd hfails (hnone fs c e)

/-- The sample with a first component that lacks its braces and ends in a malformed line, and without
the second one. -/
def brokenSession : Session :=
  { disk :=
      { entries :=
          [(["p"], .directory),
            (["p", "App.vue"],
              .file (Text.Utf8.encode "<template><script>\x7b\x7d\nimport A from './A'\nimport B from './B'")),
            (["p", "A"], .file (Text.Utf8.encode "<template><script>\nimport A"))]
        cwd := ["p"] }
    home := ⟨none, []⟩ }

theorem parse_fails_at_first_broken :
    ∃ fs, sampleBuilder.FailsAt none none brokenSession fs ("A", .ofParts ["p", "A"])
        (.failure ⟨.malformedSection "script" "no opening brace", "A", Path.ofParts ["p", "A"]⟩) ∧
      fs.length = 1 := by
  have hresult : (sampleBuilder.parse none none brokenSession).result =
      .error (.failure ⟨.malformedSection "script" "no opening brace", "A",
        Path.ofParts ["p", "A"]⟩) := by decide +kernel
  have hcompiled : (sampleBuilder.parse none none brokenSession).builder.metrics.compiled = 1 := by
    decide +kernel
  obtain ⟨hiff, hfailure, _⟩ := parse_fails_at_first sampleBuilder none none brokenSession
  obtain ⟨fs, ⟨label, path⟩, hfails⟩ := (hiff _).1 hresult
  obtain ⟨_, hlabel, hpath, _, hlength⟩ := hfailure fs _ _ hfails
  cases hlabel
  cases hpath
  exact ⟨fs, hfails, by rw [← hlength, hcompiled]⟩

end Builder

end Bundler
