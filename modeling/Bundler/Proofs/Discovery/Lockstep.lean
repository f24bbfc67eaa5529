import Bundler.Proofs.Discovery.Clashes
import Bundler.Proofs.Discovery.Failure
import Bundler.Proofs.Discovery.Still

/-!
# Bundler.Proofs.Discovery.Lockstep

A discovery depends only on what it reads. What it reads next is found in what it has read before, so two
discoveries are followed side by side, component by component.

* `taken env fuel s`: the components that a bounded run takes from the queue.
* `Ends.lockstep`: two loops whose steps match end in the same way.
* `Builder.dequeued`: the components that a parse takes.
* `Builder.parse_eq_of_same_reads`: a parse that reads the same for every component that another one takes
  gives the same store or error, the same counters and the same entries of the journal.
-/

namespace Bundler

namespace Discovery

/-! ## Loops side by side -/

section

variable {W V : Type} {env : Env W} {env' : Env V} {E : BuildError → BuildError → Prop}
  {F : State W → State V → Prop}

/-- When the steps of two loops match in all states that are reached after equally many turns, the loops end
after equally many turns, and their outcomes match. -/
theorem Ends.lockstep {s₀ : State W} {t₀ : State V}
    (hstep : ∀ rs rs' s t, Runs env s₀ rs s → Runs env' t₀ rs' t → rs.length = rs'.length → F s t →
      Progress.Match E F (step env s) (step env' t))
    (hstart : F s₀ t₀) {n : Nat} {o : Outcome W} (h : Ends env s₀ n o) :
    ∃ o', Ends env' t₀ n o' ∧ Option.Rel E o.error o'.error ∧ F o.state o'.state := by
  -- the turns so far are carried along, since runs grow at their end and loops go on from their start
  suffices ∀ {s t rs rs' n o}, Runs env s₀ rs s → Runs env' t₀ rs' t → rs.length = rs'.length →
      F s t → Ends env s n o →
      ∃ o', Ends env' t n o' ∧ Option.Rel E o.error o'.error ∧ F o.state o'.state from
    this .nil .nil rfl hstart h
  intro s t rs rs' n o hruns hruns' hlen hst hends
  induction hends generalizing t rs rs' with
  | @finished s hs =>
    have hmatch := hstep rs rs' s t hruns hruns' hlen hst
    rw [hs] at hmatch
    generalize ht : step env' t = p at hmatch
    cases hmatch
    exact ⟨⟨t, none⟩, .finished ht, .none, hst⟩
  | @failed s u e hs =>
    have hmatch := hstep rs rs' s t hruns hruns' hlen hst
    rw [hs] at hmatch
    generalize ht : step env' t = p at hmatch
    cases hmatch with
    | failed herror hstate => exact ⟨_, .failed ht, .some herror, hstate⟩
  | @advanced s u n o hs _ ih =>
    have hmatch := hstep rs rs' s t hruns hruns' hlen hst
    rw [hs] at hmatch
    generalize ht : step env' t = p at hmatch
    cases hmatch with
    | advanced hstate =>
      obtain ⟨r, hturn⟩ := turn_of_step_advanced hs
      obtain ⟨r', hturn'⟩ := turn_of_step_advanced ht
      obtain ⟨o', hends', herror, ho'⟩ :=
        ih (hruns.snoc hturn) (hruns'.snoc hturn') (by simp [hlen]) hstate
      exact ⟨o', .advanced ht hends', herror, ho'⟩

end

/-! ## The components that are taken -/

variable {W : Type} {env : Env W}

/-- The components that a bounded run takes from the queue, in order. The last one may be that which
fails. -/
def taken (env : Env W) : (fuel : Nat) → State W → List Component
  | 0, _ => []
  | fuel + 1, s =>
    match s.queue.pop? with
    | none => []
    | some (c, rest) =>
      c ::
        match compile env (take env s c rest).world c with
        | .error _ => []
        | .ok r => taken env fuel (absorb env (take env s c rest) r)

theorem Turn.taken_succ {s t : State W} {r : Compiled} (h : Turn env s r t) (fuel : Nat) :
    ∃ c, taken env (fuel + 1) s = c :: taken env fuel t := by
  obtain @⟨c, rest, _, hq, hc⟩ := h
  exact ⟨c, by simp only [taken, hq, hc]⟩

theorem Runs.taken_add {s t : State W} {rs : List Compiled} (h : Runs env s rs t) :
    ∀ fuel, ∃ cs, cs.length = rs.length ∧
      taken env (rs.length + fuel) s = cs ++ taken env fuel t := by
  induction h with
  | nil => exact fun fuel => ⟨[], rfl, by simp⟩
  | @snoc rs t u r _ hturn ih =>
    intro fuel
    obtain ⟨c, hc⟩ := hturn.taken_succ fuel
    obtain ⟨cs, hcs, htaken⟩ := ih (fuel + 1)
    refine ⟨cs ++ [c], by simp [hcs], ?_⟩
    rw [List.length_append, List.length_singleton, Nat.add_assoc, Nat.add_comm 1 fuel, htaken, hc,
      List.append_assoc, List.singleton_append]

/-- The component that waits first after a run is the next one that is taken. -/
theorem Runs.taken_getElem? {s t : State W} {rs : List Compiled} (h : Runs env s rs t) {c : Component}
    {rest : Queue} (hq : t.queue.pop? = some (c, rest)) {fuel : Nat} (hfuel : rs.length < fuel) :
    (taken env fuel s)[rs.length]? = some c := by
  obtain ⟨k, rfl⟩ := Nat.exists_eq_add_of_lt hfuel
  obtain ⟨cs, hcs, htaken⟩ := h.taken_add (k + 1)
  rw [Nat.add_assoc, htaken, List.getElem?_append_right (Nat.le_of_eq hcs), hcs, Nat.sub_self]
  simp only [taken, hq, List.getElem?_cons_zero]

/-! ## What the world has been told -/

theorem run_world_eq_journal {w : W} {s : State W} (h : s.world = s.journal.foldl env.record w)
    (fuel : Nat) :
    (run env fuel s).state.world = (run env fuel s).state.journal.foldl env.record w := by
  induction fuel generalizing s with
  | zero => exact h
  | succ fuel ih =>
    rcases step_cases env s with ⟨_, hs⟩ | ⟨c, rest, e, _, _, hs⟩ | ⟨r, t, hturn, hs⟩
    · simpa only [run, hs] using h
    · simp only [run, hs]
      exact log_world h _
    · obtain ⟨_, _⟩ := hturn
      simp only [run, hs]
      exact ih (log_world (log_world h _) _)

end Discovery

namespace Builder

open Discovery

def dequeued (b : Builder) (label : Option String) (path : Option Path) (s : Session) :
    List Component :=
  taken (b.rootEnv label path) (fuelFor s.disk)
    (start (b.rootEnv label path) s (b.rootComponent label path))

variable {b b' : Builder} {label : Option String} {path : Option Path} {s s' : Session}

theorem Reaches.dequeued_getElem? {rs : List Compiled} {t : State Session}
    (h : b.Reaches label path s rs t) {c : Component} {rest : Queue}
    (hq : t.queue.pop? = some (c, rest)) : (b.dequeued label path s)[rs.length]? = some c :=
  Runs.taken_getElem? h hq (h.length_lt_fuelFor hq)

theorem Reaches.sourceAt_eq {rs : List Compiled} {t : State Session}
    (h : b.Reaches label path s rs t) {c : Component} {rest : Queue}
    (hq : t.queue.pop? = some (c, rest)) (p : Path) :
    b.sourceAt label path s rs.length p =
      (b.rootEnv label path).read (take (b.rootEnv label path) t c rest).world p := by
  rw [sourceAt, readAt, Runs.worldAt_eq h hq]

theorem lockstep {label' : Option String} {path' : Option Path} {E : BuildError → BuildError → Prop}
    {F : State Session → State Session → Prop}
    (hstep : ∀ rs rs' t t', b.Reaches label path s rs t → b'.Reaches label' path' s' rs' t' →
      rs.length = rs'.length → F t t' →
      Progress.Match E F (step (b.rootEnv label path) t) (step (b'.rootEnv label' path') t'))
    (hstart : F (start (b.rootEnv label path) s (b.rootComponent label path))
      (start (b'.rootEnv label' path') s' (b'.rootComponent label' path'))) :
    ∃ o o', run (b.rootEnv label path) (fuelFor s.disk)
        (start (b.rootEnv label path) s (b.rootComponent label path)) = o ∧
      run (b'.rootEnv label' path') (fuelFor s'.disk)
        (start (b'.rootEnv label' path') s' (b'.rootComponent label' path')) = o' ∧
      Option.Rel E o.error o'.error ∧ F o.state o'.state := by
  obtain ⟨n, o, hends, _, hrun⟩ := b.ends_discovery label path s
  obtain ⟨n', o', hends', _, hrun'⟩ := b'.ends_discovery label' path' s'
  obtain ⟨o'', hends'', herror, hstate⟩ := hends.lockstep hstep hstart
  rw [hends''.deterministic hends'] at herror hstate
  exact ⟨o, o', hrun, hrun', herror, hstate⟩

/-! ## Entries of the journal -/

theorem logged_of_run {o : Outcome Session}
    (h : run (b.rootEnv label path) (fuelFor s.disk)
      (start (b.rootEnv label path) s (b.rootComponent label path)) = o) :
    b.logged label path s =
      match o.error with
      | some _ => o.state.journal
      | none => o.state.journal ++ [Discovery.completeEntry o.state] := by
  unfold rootEnv at h
  obtain ⟨t, error⟩ := o
  cases error <;> simp only [logged, discover, explore, h, State.log]

theorem parse_session_eq_logged (b : Builder) (label : Option String) (path : Option Path)
    (s : Session) :
    (b.parse label path s).session =
      (b.logged label path s).foldl (b.rootEnv label path).record s := by
  have hstart : (start (b.rootEnv label path) s (b.rootComponent label path)).world =
      (start (b.rootEnv label path) s (b.rootComponent label path)).journal.foldl
        (b.rootEnv label path).record s := rfl
  have hworld := run_world_eq_journal hstart (fuelFor s.disk)
  obtain ⟨⟨t, error⟩, hrun⟩ : ∃ o, run (b.rootEnv label path) (fuelFor s.disk)
    (start (b.rootEnv label path) s (b.rootComponent label path)) = o := ⟨_, rfl⟩
  rw [logged_of_run hrun]
  rw [hrun] at hworld
  unfold rootEnv at hrun
  simp only [parse, discover, explore, hrun]
  cases error with
  | some e => exact hworld
  | none => exact log_world hworld _

/-! ## Parses that read the same -/

theorem parallel_rootEnv (hsettings : b.settings = b'.settings) (hroot : b.root = b'.root)
    (label : Option String) (path : Option Path) :
    Parallel (b.rootEnv label path) (b'.rootEnv label path) fun _ _ => True where
  record _ _ _ _ := trivial
  optional := by simp only [rootEnv, env, hsettings]
  context := by simp only [rootEnv, env, context, rootComponent, hsettings, hroot]

/-- A parse depends only on what it reads. When another parse, with the same settings, root, label and
entry, reads the same for every component that the first one takes, the same source or the same error,
then both give the same store or the same error, the same counters and the same entries of the journal.
What is read at a place depends on how many components came before, since the journal may be a source;
without a file of the journal it is what the disk has there. -/
theorem parse_eq_of_same_reads (b b' : Builder) (label : Option String) (path : Option Path)
    (s s' : Session) (hsettings : b.settings = b'.settings) (hroot : b.root = b'.root)
    (hread : ∀ n c, (b.dequeued label path s)[n]? = some c →
      b.sourceAt label path s n c.path = b'.sourceAt label path s' n c.path) :
    (b.parse label path s).result = (b'.parse label path s').result ∧
    (b.parse label path s).builder.metrics = (b'.parse label path s').builder.metrics ∧
    b.logged label path s = b'.logged label path s' ∧
    (b.parse label path s).session =
      (b.logged label path s).foldl (b.rootEnv label path).record s ∧
    (b'.parse label path s').session =
      (b'.logged label path s').foldl (b'.rootEnv label path).record s' ∧
    (s.journal.file = none → ∀ n p, b.sourceAt label path s n p = Source.read s.disk p) ∧
    (s'.journal.file = none → ∀ n p, b'.sourceAt label path s' n p = Source.read s'.disk p) := by
  have hparallel := parallel_rootEnv hsettings hroot label path
  have hcomponent : b.rootComponent label path = b'.rootComponent label path := by
    rw [rootComponent, rootComponent, hsettings, hroot]
  have hstart : Alike (fun _ _ => True) (start (b.rootEnv label path) s (b.rootComponent label path))
      (start (b'.rootEnv label path) s' (b'.rootComponent label path)) := by
    rw [← hcomponent]
    exact Alike.start hparallel trivial _
  have hstep : ∀ rs rs' t t', b.Reaches label path s rs t → b'.Reaches label path s' rs' t' →
      rs.length = rs'.length → Alike (fun _ _ => True) t t' →
      Progress.Match Eq (Alike fun _ _ => True) (step (b.rootEnv label path) t)
        (step (b'.rootEnv label path) t') := by
    intro rs rs' t t' hruns hruns' hlen hst
    refine hst.step hparallel fun c rest hq => ?_
    have hq' : t'.queue.pop? = some (c, rest) := by rw [← hst.queue, hq]
    rw [← hruns.sourceAt_eq hq, ← hruns'.sourceAt_eq hq', ← hlen]
    exact hread rs.length c (hruns.dequeued_getElem? hq)
  obtain ⟨⟨t, error⟩, ⟨t', error'⟩, hrun, hrun', herror, hstate⟩ := lockstep hstep hstart
  obtain rfl : error = error' := by
    cases herror with
    | none => rfl
    | some h => rw [h]
  have hentry : Discovery.completeEntry t = Discovery.completeEntry t' := by
    rw [Discovery.completeEntry, Discovery.completeEntry, hstate.store, hstate.metrics]
  refine ⟨?_, ?_, ?_, b.parse_session_eq_logged label path s,
    b'.parse_session_eq_logged label path s', sourceAt_eq, sourceAt_eq⟩
  · rw [parse_result_of_run hrun, parse_result_of_run hrun', hstate.store]
  · rw [parse_metrics_of_run hrun, parse_metrics_of_run hrun', hstate.metrics]
  · rw [logged_of_run hrun, logged_of_run hrun', hstate.journal, hentry]

/-- The sample on another disk: the first component is a link to a file elsewhere, there is one file
more, and the current directory is the root. -/
def linkedSession : Session :=
  { disk :=
      { entries :=
          [(["q"], .file (Text.Utf8.encode "<template><script>\x7b\x7d")),
            (["p"], .directory),
            (["p", "A"], .link "../q"),
            (["p", "C"], .file (Text.Utf8.encode "import")),
            (["p", "App.vue"],
              .file (Text.Utf8.encode "<template><script>\x7b\x7d\nimport A from './A'\nimport B from './B'")),
            (["p", "B"], .file (Text.Utf8.encode "<template><script>\x7b\x7d\nimport A from './A'"))] }
    home := ⟨none, []⟩ }

theorem dequeued_sample :
    (sampleBuilder.dequeued none none sampleSession).map Component.pair =
      [("App", .ofParts ["p", "App.vue"]), ("A", .ofParts ["p", "A"]), ("B", .ofParts ["p", "B"])] := by
  decide +kernel

theorem parse_eq_of_same_reads_linked :
    linkedSession.disk ≠ sampleSession.disk ∧
    (∀ n c, (sampleBuilder.dequeued none none sampleSession)[n]? = some c →
      sampleBuilder.sourceAt none none sampleSession n c.path =
        sampleBuilder.sourceAt none none linkedSession n c.path) ∧
    (sampleBuilder.parse none none sampleSession).result =
      (sampleBuilder.parse none none linkedSession).result ∧
    (sampleBuilder.parse none none sampleSession).builder.metrics =
      (sampleBuilder.parse none none linkedSession).builder.metrics ∧
    sampleBuilder.logged none none sampleSession = sampleBuilder.logged none none linkedSession := by
  have hfile : sampleSession.journal.file = none := rfl
  have hfile' : linkedSession.journal.file = none := rfl
  have hdisk : ∀ p ∈ [("App", Path.ofParts ["p", "App.vue"]), ("A", .ofParts ["p", "A"]),
      ("B", .ofParts ["p", "B"])],
      Source.read sampleSession.disk p.2 = Source.read linkedSession.disk p.2 := by decide +kernel
  have hread : ∀ n c, (sampleBuilder.dequeued none none sampleSession)[n]? = some c →
      sampleBuilder.sourceAt none none sampleSession n c.path =
        sampleBuilder.sourceAt none none linkedSession n c.path := by
    intro n c hc
    rw [sourceAt_eq hfile, sourceAt_eq hfile']
    rw [← dequeued_sample] at hdisk
    exact hdisk c.pair (List.mem_map_of_mem (List.mem_of_getElem? hc))
  have hsame := parse_eq_of_same_reads sampleBuilder sampleBuilder none none sampleSession linkedSession
    rfl rfl hread
  exact ⟨by decide +kernel, hread, hsame.1, hsame.2.1, hsame.2.2.1⟩

end Builder

end Bundler
