import Bundler.Builder
import Bundler.Command.Request
import Bundler.Text.Style

/-!
# Bundler.Command.Run

The commands of the program and what they print.

* `Report`: the exit code and the text of a command.
* `run`: a command line carried out in a session. Errors that no command explains to its user are
  errors of the run.
* `places`: the paths that a command line leads to.
-/

namespace Bundler.Command

structure Report where
  exitCode : Nat
  lines : List String := []
deriving Repr, DecidableEq

/-- The printed text; every line ends in a line feed, and style codes of terminals are left out. -/
def Report.text (r : Report) : String :=
  Text.dropStyles (String.join (r.lines.map (· ++ "\n")))

def summary (r : BuildResult) (cleaned : Bool) : List String :=
  ["Build complete"] ++
    (r.store.root.map fun c => "  root: " ++ c.label ++ " (" ++ c.path.text ++ ")").toList ++
    ["  components: " ++ toString r.store.length, "  output: " ++ r.outputPath.text] ++
    (if cleaned then ["  note: output directory reset before build"] else []) ++
    ["Components (emit order):"] ++
    r.store.records.reverse.map fun c => "  - " ++ c.label ++ ": " ++ c.kind.text

def failedEntry (f : Failure) : Journal.Entry :=
  ⟨.error, "build-failed",
    [("error", .str f.reason), ("label", (f.label.map Value.str).getD .null),
      ("path", (f.path.map fun p => Value.str p.text).getD .null)]⟩

def summaryEntry (r : BuildResult) : Journal.Entry :=
  ⟨.info, "build-summary",
    [("components", .int r.store.length), ("output", .str r.outputPath.text),
      ("metrics", .table r.metrics.toTable)]⟩

def prepare (o : BuildOptions) (environ : Table) (root : Path) (s : Session) :
    Except Error (Config × Project) :=
  match Project.loadConfig root (o.configFile.map Path.ofString) o.flags.layer environ s.disk with
  | .error e => .error e
  | .ok config =>
    match Project.locate s.home root config.build s.disk with
    | .error e => .error e
    | .ok p => .ok (config, p)

/-- The root that an option names; without it the current directory. -/
def rootOf (root : Option String) (d : Disk) : Except FileError Path :=
  match root with
  | some r => .ok (Path.ofString r)
  | none => d.cwdPath

def buildPrepared (config : Config) (p : Project) : SessionM Report := fun s =>
  match Session.configure config.logLevel (some p.logsDir) s with
  | .error e s => .error e s
  | .ok _ s =>
    let logger := s.journal.logger [("command", .str "build")]
    match buildProject p config (some logger) s with
    | .ok r s => .ok ⟨0, summary r config.build.clean⟩ (s.log logger (summaryEntry r))
    | .error (.failure f) s => .ok ⟨1, ["Build failed: " ++ f.message]⟩ (s.log logger (failedEntry f))
    | .error e s =>
      if e.family = .value then .ok ⟨1, ["Output error: " ++ e.message]⟩ s else .error e s

def runBuildCommand (o : BuildOptions) (environ : Table) : SessionM Report := fun s =>
  match rootOf o.root s.disk with
  | .error e => .error (.file e) s
  | .ok root =>
    match prepare o environ root s with
    | .ok (config, p) => buildPrepared config p s
    | .error e =>
      if e.family = .value || e.family = .sort || e.family = .system then
        .ok ⟨1, ["Configuration error: " ++ e.message]⟩ s
      else .error e s

def runInitCommand (o : InitOptions) : SessionM Report := fun s =>
  match rootOf o.root s.disk with
  | .error e => .ok ⟨1, ["Failed to initialize project: " ++ e.message]⟩ s
  | .ok root =>
    match Project.create s.home root o.force o.flags.layer s.disk with
    | .ok (config, p) d =>
      .ok
        ⟨0,
          ["Project initialized", "  config: " ++ p.configFile.text,
            "  entry: " ++ config.build.rootLabel ++ " (" ++ config.build.entry ++ ")",
            "  output: " ++ p.outputFile.text]⟩
        { s with disk := d }
    | .error e d =>
      let s := { s with disk := d }
      match e with
      | .projectFileExists path =>
        .ok ⟨1, ["Config already exists: " ++ path.text ++ " (use --force to overwrite)"]⟩ s
      | e =>
        if e.family = .value || e.family = .system then
          .ok ⟨1, ["Failed to initialize project: " ++ e.message]⟩ s
        else .error e s

def run (args : List String) (environ : Table) : SessionM Report := fun s =>
  match request args with
  | .misuse => .ok ⟨2, []⟩ s
  | .help => .ok ⟨0, []⟩ s
  | .build o => runBuildCommand o environ s
  | .init o => runInitCommand o s

/-! ## Places -/

def buildPlaces (config : Config) (p : Project) (s : Session) : List Path :=
  p.all ++ [p.logsDir / Journal.fileName] ++
    (p.entryPath s.home config.build.entry).toOption.toList ++ Source.declaredPaths p.root s.disk

/-- The paths that a command line leads to, as far as they can be told from the files of a session: a
configuration file or a source that is not there yet may lead to further ones. -/
def places (args : List String) (environ : Table) (s : Session) : List Path :=
  match request args with
  | .misuse => []
  | .help => []
  | .build o =>
    match rootOf o.root s.disk with
    | .error _ => []
    | .ok root =>
      [root, (o.configFile.map Path.ofString).getD (root / projectFileName)] ++
        match prepare o environ root s with
        | .error _ => []
        | .ok (config, p) => buildPlaces config p s
  | .init o =>
    match rootOf o.root s.disk with
    | .error _ => []
    | .ok root =>
      match Config.load [Config.defaults, o.flags.layer] with
      | .error _ => [root]
      | .ok config =>
        root :: ((Project.locate s.home root config.build s.disk).toOption.map Project.all).getD []

/-- The output directory, if a command line empties it first. -/
def emptied? (args : List String) (environ : Table) (s : Session) : Option Path :=
  match request args with
  | .build o => do
    let root ← (rootOf o.root s.disk).toOption
    let (config, p) ← (prepare o environ root s).toOption
    let output ← (s.disk.resolve p.outputDir).toOption
    if config.build.clean && !p.root.isBelow output then some output else none
  | _ => none

end Bundler.Command
