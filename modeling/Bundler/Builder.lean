import Bundler.Bundle
import Bundler.Discovery
import Bundler.Project
import Bundler.Session

/-!
# Bundler.Builder

Building a project: discovery of the components, then writing of the bundle. A builder keeps its
settings, its root and the counters of its last discovery, and can be used again.

* `Builder.parse`: the store of all components.
* `Builder.build`: the bundle of a store.
* `Builder.compile`: both.
* `runBuild`: a whole build of a project from its configuration.
-/

namespace Bundler

structure Builder where
  settings : Settings
  root : Path
  logger : Journal.Logger
  metrics : Metrics := {}

structure BuildResult where
  store : Store
  outputPath : Path
  metrics : Metrics

namespace Builder

def create (root : Option Path) (settings : Settings) (logger : Option Journal.Logger)
    (s : Session) : Except FileError Builder :=
  let start : Except FileError Path :=
    match root with
    | some p => .ok p
    | none => s.disk.cwdPath
  match start with
  | .error e => .error e
  | .ok p =>
    match s.disk.resolve p with
    | .error e => .error e
    | .ok root =>
      .ok
        { settings := settings
          root := root
          logger := logger.getD (s.journal.logger [("component", .str "compiler-service")]) }

/-- The root component. An empty label counts as none. -/
def rootComponent (b : Builder) (label : Option String) (path : Option Path) : Component :=
  { label := (label.filter (· != "")).getD b.settings.rootLabel
    path := b.root / path.getD (Path.ofString b.settings.entry)
    isRoot := true }

def context (b : Builder) (root : Component) : Context :=
  { runtime := b.settings.runtime, rootLabel := root.label, projectRoot := b.root }

/-- What the discovery of this builder depends on. Sources are read from the disk of a session, to
which each journal entry is given as it comes. -/
def env (b : Builder) (root : Component) : Discovery.Env Session :=
  let logger := b.logger.bind [("root", .str root.label)]
  { read := fun s => Source.read s.disk
    record := fun s e => s.log logger e
    optional := b.settings.optionalSections
    context := b.context root }

def discover (b : Builder) (label : Option String) (path : Option Path) (s : Session) :
    Discovery.Outcome Session :=
  let root := b.rootComponent label path
  Discovery.explore s.disk (b.env root) s root

structure Done (α : Type) where
  result : Except BuildError α
  builder : Builder
  session : Session

/-- Finds and compiles all components. The counters are kept also when a component fails. -/
def parse (b : Builder) (label : Option String) (path : Option Path) (s : Session) : Done Store :=
  let outcome := b.discover label path s
  { result :=
      match outcome.error with
      | some e => .error e
      | none => .ok outcome.state.store
    builder := { b with metrics := outcome.state.metrics }
    session := outcome.state.world }

/-- Writes the bundle of a store; without a directory it goes where the settings say. -/
def build (b : Builder) (store : Store) (outputDir : Option Path) (s : Session) : Done Path :=
  let bundle :=
    Bundle.inDirectory (outputDir.getD (b.root / b.settings.outputDir)) b.settings.outputFile
  let w := bundle.write store s.disk
  let s := { s with disk := w.disk }.logAll (b.logger.bind [("component", .str "emitter")]) w.entries
  match w.result with
  | .error e => ⟨.error e, b, s⟩
  | .ok path =>
    ⟨.ok path, { b with metrics := { b.metrics with bytesWritten := w.bundle.bytesWritten } }, s⟩

def completeEntry (store : Store) (output : Path) : Journal.Entry :=
  ⟨.info, "build-complete", [("components", .int store.length), ("output", .str output.text)]⟩

def compile (b : Builder) (label : Option String) (path : Option Path) (outputDir : Option Path)
    (s : Session) : Done BuildResult :=
  match b.parse label path s with
  | ⟨.error e, b, s⟩ => ⟨.error e, b, s⟩
  | ⟨.ok store, b, s⟩ =>
    match b.build store outputDir s with
    | ⟨.error e, b, s⟩ => ⟨.error e, b, s⟩
    | ⟨.ok output, b, s⟩ =>
      ⟨.ok ⟨store, output, b.metrics⟩, b, s.log b.logger (completeEntry store output)⟩

end Builder

/-- Builds a located project. The output directory is emptied first if the settings say so. -/
def buildProject (p : Project) (config : Config) (logger : Option Journal.Logger) :
    SessionM BuildResult := fun s =>
  let reset : EStateM.Result Error Disk Unit :=
    if config.build.clean then
      match p.resetOutput s.disk with
      | .ok _ d => .ok () d
      | .error e d => .error e d
    else .ok () s.disk
  match reset with
  | .error e d => .error e { s with disk := d }
  | .ok _ d =>
    let s := { s with disk := d }
    match Builder.create p.root config.build logger s with
    | .error e => .error (.file e) s
    | .ok b =>
      match p.entryPath s.home config.build.entry with
      | .error e => .error (.file e) s
      | .ok entry =>
        match b.compile none entry p.outputDir s with
        | ⟨.error e, _, s⟩ => .error (.ofBuild e) s
        | ⟨.ok r, _, s⟩ => .ok r s

def runBuild (root : Option Path) (config : Config) : SessionM BuildResult := fun s =>
  match Project.locate s.home root config.build s.disk with
  | .error e => .error e s
  | .ok p => buildProject p config none s

end Bundler
