import Bundler.Proofs.Discovery.Termination

/-!
# Bundler.Proofs.Discovery.Still

A discovery reads its world but depends on nothing else in it. Two worlds that show the same sources, and
go on to do so whatever is recorded, give the same components.

* `Parallel env env' R`: worlds that `R` relates stay related, whatever is recorded.
* `Alike.step`: a step in one world is matched by a step in the other, if both read the same.
* `Mirrors env env' R`: worlds that `R` relates show the same sources.
* `Alike.run`: a run in one world is matched by a run in the other.
* `Builder.parse_result_eq`: without a file of the journal a parse depends on the disk only.
-/

namespace Bundler.Discovery

variable {W V : Type} {env : Env W} {env' : Env V} {R : W → V → Prop}

/-- Two discoveries that differ in their worlds only. Worlds that are related stay so when an entry is
recorded. -/
structure Parallel (env : Env W) (env' : Env V) (R : W → V → Prop) : Prop where
  record : ∀ w v e, R w v → R (env.record w e) (env'.record v e)
  optional : env.optional = env'.optional
  context : env.context = env'.context

/-- Two discoveries in which worlds that are related show the same sources. -/
structure Mirrors (env : Env W) (env' : Env V) (R : W → V → Prop) : Prop extends
    Parallel env env' R where
  read : ∀ w v, R w v → env.read w = env'.read v

structure Alike (R : W → V → Prop) (s : State W) (t : State V) : Prop where
  queue : s.queue = t.queue
  store : s.store = t.store
  metrics : s.metrics = t.metrics
  journal : s.journal = t.journal
  world : R s.world t.world

/-- Two steps that come to the same, up to errors that `E` relates and states that `F` relates. -/
inductive Progress.Match (E : BuildError → BuildError → Prop) (F : State W → State V → Prop) :
    Progress W → Progress V → Prop where
  | finished : Match E F .finished .finished
  | failed {e e' : BuildError} {s : State W} {t : State V} :
      E e e' → F s t → Match E F (.failed e s) (.failed e' t)
  | advanced {s : State W} {t : State V} : F s t → Match E F (.advanced s) (.advanced t)

theorem Parallel.compile_eq (h : Parallel env env' R) {w : W} {v : V} {c : Component}
    (hread : env.read w c.path = env'.read v c.path) : compile env w c = compile env' v c := by
  rw [compile, compile, hread, h.optional, h.context]

theorem Parallel.foldl_record (h : Parallel env env' R) (es : List Journal.Entry) {w : W} {v : V}
    (hworld : R w v) : R (es.foldl env.record w) (es.foldl env'.record v) := by
  induction es generalizing w v with
  | nil => exact hworld
  | cons e es ih => exact ih (h.record w v e hworld)

namespace Alike

variable {s : State W} {t : State V}

theorem start (h : Parallel env env' R) {w : W} {v : V} (hworld : R w v) (root : Component) :
    Alike R (Discovery.start env w root) (Discovery.start env' v root) :=
  ⟨rfl, by rw [Discovery.start, Discovery.start, h.context], rfl, rfl, hworld⟩

theorem log (h : Parallel env env' R) (hs : Alike R s t) (es : List Journal.Entry) :
    Alike R (s.log env es) (t.log env' es) where
  queue := hs.queue
  store := hs.store
  metrics := hs.metrics
  journal := by rw [State.log, State.log, hs.journal]
  world := h.foldl_record es hs.world

theorem take (h : Parallel env env' R) (hs : Alike R s t) (c : Component) (rest : Queue) :
    Alike R (Discovery.take env s c rest) (Discovery.take env' t c rest) := by
  refine log h ?_ _
  exact ⟨rfl, hs.store, hs.metrics, hs.journal, hs.world⟩

theorem absorb (h : Parallel env env' R) (hs : Alike R s t) (r : Compiled) :
    Alike R (Discovery.absorb env s r) (Discovery.absorb env' t r) := by
  have hknown : known s r.component = known t r.component := by rw [known, known, hs.queue, hs.store]
  unfold Discovery.absorb
  simp only [hknown]
  refine log h ?_ _
  exact ⟨by rw [hs.queue], by rw [hs.store], by rw [hs.metrics], hs.journal, hs.world⟩

/-- A step is matched when both states read the same source for the component that they take. -/
theorem step (h : Parallel env env' R) (hs : Alike R s t)
    (hread : ∀ c rest, s.queue.pop? = some (c, rest) →
      env.read (Discovery.take env s c rest).world c.path =
        env'.read (Discovery.take env' t c rest).world c.path) :
    Progress.Match Eq (Alike R) (Discovery.step env s) (Discovery.step env' t) := by
  rcases hq : s.queue.pop? with _ | ⟨c, rest⟩
  · simp only [Discovery.step, ← hs.queue, hq]
    exact .finished
  · have htake := hs.take h c rest
    simp only [Discovery.step, ← hs.queue, hq, h.compile_eq (hread c rest hq)]
    cases compile env' (Discovery.take env' t c rest).world c with
    | error e => exact .failed rfl htake
    | ok r => exact .advanced (htake.absorb h r)

theorem run (h : Mirrors env env' R) (fuel : Nat) (hs : Alike R s t) :
    (Discovery.run env fuel s).error = (Discovery.run env' fuel t).error ∧
      Alike R (Discovery.run env fuel s).state (Discovery.run env' fuel t).state := by
  induction fuel generalizing s t with
  | zero => exact ⟨rfl, hs⟩
  | succ fuel ih =>
    have hstep := hs.step h.toParallel fun c rest _ => by
      rw [h.read _ _ (hs.take h.toParallel c rest).world]
    rw [Discovery.run, Discovery.run]
    generalize Discovery.step env s = p at hstep ⊢
    generalize Discovery.step env' t = p' at hstep ⊢
    cases hstep with
    | finished => exact ⟨rfl, hs⟩
    | failed herror htake => exact ⟨congrArg some herror, htake⟩
    | advanced hnext => exact ih hnext

theorem explore (h : Mirrors env env' R) (d : Disk) {w : W} {v : V} (hworld : R w v)
    (root : Component) :
    (Discovery.explore d env w root).error = (Discovery.explore d env' v root).error ∧
      (Discovery.explore d env w root).state.store = (Discovery.explore d env' v root).state.store := by
  obtain ⟨herror, hstate⟩ := (start h.toParallel hworld root).run h (fuelFor d)
  unfold Discovery.explore
  simp only [herror]
  cases (Discovery.run env' (fuelFor d) (Discovery.start env' v root)).error with
  | some e => exact ⟨herror, hstate.store⟩
  | none => exact ⟨rfl, hstate.store⟩

end Alike

end Bundler.Discovery

namespace Bundler.Builder

open Discovery

/-- Two sessions with the same disk, to which nothing is logged. -/
def SameDisk (s s' : Session) : Prop :=
  s.disk = s'.disk ∧ s.journal.file = none ∧ s'.journal.file = none

theorem mirrors_env {b b' : Builder} (hsettings : b.settings = b'.settings) (hroot : b.root = b'.root)
    (root : Component) : Mirrors (b.env root) (b'.env root) SameDisk where
  read s s' h := by simp only [env, h.1]
  record s s' e h := by
    obtain ⟨hdisk, hfile, hfile'⟩ := h
    obtain ⟨hd, hf⟩ := Session.log_disk hfile (b.logger.bind [("root", .str root.label)]) e
    obtain ⟨hd', hf'⟩ := Session.log_disk hfile' (b'.logger.bind [("root", .str root.label)]) e
    exact ⟨hd.trans (hdisk.trans hd'.symm), hf, hf'⟩
  optional := by simp only [env, hsettings]
  context := by simp only [env, context, hsettings, hroot]

/-- Without a file of the journal a parse depends on the disk only, and of the builder on its settings and
its root. -/
theorem parse_result_eq {b b' : Builder} {s s' : Session} (hsettings : b.settings = b'.settings)
    (hroot : b.root = b'.root) (h : SameDisk s s') (label : Option String) (path : Option Path) :
    (b.parse label path s).result = (b'.parse label path s').result := by
  have hcomponent : b.rootComponent label path = b'.rootComponent label path := by
    rw [rootComponent, rootComponent, hsettings, hroot]
  obtain ⟨herror, hstore⟩ := Alike.explore
    (mirrors_env hsettings hroot (b.rootComponent label path)) s.disk h (b.rootComponent label path)
  simp only [parse, discover, ← hcomponent, ← h.1, herror, hstore]

end Bundler.Builder
