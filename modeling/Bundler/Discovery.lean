import Bundler.Fragment
import Bundler.Metrics
import Bundler.Queue
import Bundler.Section
import Bundler.Source
import Bundler.Store

/-!
# Bundler.Discovery

Finding and compiling all components that a root component needs. The components wait in a queue;
the oldest one is read, cut into sections, rendered and searched for declarations, the components
with new labels join the queue, and the finished component goes into the store.

* `compile`: what one component becomes, or why it fails.
* `step`: one component taken from the queue.
* `run`: steps until the queue is empty or a component fails.
* `fuelFor`: a number of steps that is always enough on a disk.
-/

namespace Bundler.Discovery

/-- What a discovery depends on: how sources are read, where journal entries go, which sections may be
absent, and what all components share. Reading and the journal share a world `W`, since the file of
the journal may itself be a source. -/
structure Env (W : Type) where
  read : W → Path → Except ReadError String
  record : W → Journal.Entry → W
  optional : List Section
  context : Context

structure State (W : Type) where
  queue : Queue
  store : Store
  metrics : Metrics
  journal : List Journal.Entry
  world : W

variable {W : Type}

def State.log (env : Env W) (es : List Journal.Entry) (s : State W) : State W :=
  { s with journal := s.journal ++ es, world := es.foldl env.record s.world }

structure Compiled where
  component : Component
  declarations : List Declaration

/-- Reads, cuts, renders and scans one component; the first stage that fails is reported. -/
def compile (env : Env W) (w : W) (c : Component) : Except BuildError Compiled :=
  match env.read w c.path with
  | .error e => .error (Source.readFailure c.label c.path e)
  | .ok source =>
    match Sections.extract env.optional source with
    | .error cause => .error (.failure ⟨cause, c.label, c.path⟩)
    | .ok sections =>
      let filled := sections.fill c
      match Fragment.render env.context.runtime filled with
      | .error f => .error (.failure f)
      | .ok fragment =>
        match Declaration.scan env.context.projectRoot source with
        | .error cause => .error (.failure ⟨cause, c.label, c.path⟩)
        | .ok declarations => .ok ⟨{ filled with fragment := fragment }, declarations⟩

/-! ## Journal entries -/

def dequeuedEntry (c : Component) (pending : Nat) : Journal.Entry :=
  ⟨.debug, "component-dequeued",
    [("label", .str c.label), ("path", .str c.path.text), ("pending", .int pending)]⟩

def importsEntry (c : Component) (new : List Declaration) : Journal.Entry :=
  ⟨.debug, "imports-resolved",
    [("label", .str c.label), ("discovered", .list (new.map fun d => .str d.label))]⟩

def compiledEntry (c : Component) : Journal.Entry :=
  ⟨.info, "component-compiled",
    [("label", .str c.label), ("path", .str c.path.text), ("kind", .str c.kind.text)]⟩

def completeEntry (s : State W) : Journal.Entry :=
  ⟨.info, "parse-complete",
    [("components", .int s.store.length), ("imports", .int s.metrics.importsSeen),
      ("duplicates", .int s.metrics.duplicatesSkipped)]⟩

/-! ## Steps -/

/-- The labels in use while a component is compiled, with their paths. -/
def known (s : State W) (c : Component) : List (String × Option Path) :=
  ((c.label, c.path) :: (s.queue.paths ++ s.store.paths)).map fun p => (p.1, some p.2)

def ofDeclaration (d : Declaration) : Component :=
  { label := d.label, path := d.path }

def absorb (env : Env W) (s : State W) (r : Compiled) : State W :=
  let c := r.component
  let (new, clashes) := Declaration.resolve (known s c) r.declarations
  { s with
    queue := s.queue.pushAll (new.map ofDeclaration)
    store := s.store.put c.label c
    metrics :=
      { s.metrics with
        discovered := s.metrics.discovered + new.length
        compiled := s.metrics.compiled + 1
        importsSeen := s.metrics.importsSeen + r.declarations.length
        duplicatesSkipped := s.metrics.duplicatesSkipped + (r.declarations.length - new.length) } }.log
    env (clashes.map (Declaration.Clash.entry (some c.path)) ++ [importsEntry c new, compiledEntry c])

inductive Progress (W : Type) where
  | finished
  | failed (e : BuildError) (s : State W)
  | advanced (s : State W)

def take (env : Env W) (s : State W) (c : Component) (rest : Queue) : State W :=
  { s with queue := rest }.log env [dequeuedEntry c rest.length]

def step (env : Env W) (s : State W) : Progress W :=
  match s.queue.pop? with
  | none => .finished
  | some (c, rest) =>
    let s := take env s c rest
    match compile env s.world c with
    | .error e => .failed e s
    | .ok r => .advanced (absorb env s r)

structure Outcome (W : Type) where
  state : State W
  error : Option BuildError

/-- Steps until nothing waits or a component fails, at most `fuel` times. -/
def run (env : Env W) : (fuel : Nat) → State W → Outcome W
  | 0, s => ⟨s, none⟩
  | fuel + 1, s =>
    match step env s with
    | .finished => ⟨s, none⟩
    | .failed e s => ⟨s, some e⟩
    | .advanced s => run env fuel s

def start (env : Env W) (world : W) (root : Component) : State W :=
  { queue := ⟨[root]⟩
    store := { context := env.context, root := root }
    metrics := { discovered := 1 }
    journal := []
    world := world }

/-- One step for the root, one for every label that some file declares, one for a label that a first
journal line completes at the end of a file, and one to see that nothing waits. No other line of a
journal declares a label. -/
def fuelFor (d : Disk) : Nat :=
  (Source.declaredLabels d).length + 3

/-- All components that the root needs. The journal ends with a summary when no component fails. -/
def explore (d : Disk) (env : Env W) (world : W) (root : Component) : Outcome W :=
  let r := run env (fuelFor d) (start env world root)
  match r.error with
  | some _ => r
  | none => { r with state := r.state.log env [completeEntry r.state] }

end Bundler.Discovery
