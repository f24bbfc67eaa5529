import Bundler.Disk.Change
import Bundler.Disk.Resolve
import Bundler.Error
import Bundler.Settings.Defaults
import Bundler.Settings.ProjectFile
import Bundler.Toml.Document

/-!
# Bundler.Project

A project on a disk: its root, its configuration file, its output directory and its journal.

* `Project.locate`: the places of a project.
* `Project.resetOutput`: an empty output directory in place of the old one.
* `Project.loadConfig`: the configuration of a project from all layers.
* `Project.create`: a configuration file for a new project.
-/

namespace Bundler

abbrev DiskTask := EStateM Error Disk

namespace DiskTask

def ask {α : Type} (f : Disk → Except FileError α) : DiskTask α := fun d =>
  match f d with
  | .ok a => .ok a d
  | .error e => .error (.file e) d

def change {α : Type} (m : DiskM α) : DiskTask α := fun d =>
  match m d with
  | .ok a d => .ok a d
  | .error e d => .error (.file e) d

end DiskTask

structure Project where
  root : Path
  configFile : Path
  outputDir : Path
  outputFile : Path
  logsDir : Path
deriving Repr, DecidableEq

namespace Project

def atRoot (root : Path) (s : Settings) : Project :=
  let outputDir := root / s.outputDir
  { root := root
    configFile := root / projectFileName
    outputDir := outputDir
    outputFile := outputDir / s.outputFile
    logsDir := root / ".vno" / "logs" }

def all (p : Project) : List Path :=
  [p.root, p.configFile, p.outputDir, p.outputFile, p.logsDir]

/-- The path of an entry component: below the root unless it has a base of its own. -/
def entryPath (p : Project) (home : Home) (entry : String) : Except FileError Path :=
  (home.expand (Path.ofString entry)).map fun e => p.root / e

/-- The absolute path without links of a directory; without one it is the current directory. -/
def resolveRoot (home : Home) (root : Option Path) (d : Disk) : Except FileError Path :=
  match root with
  | none =>
    match d.cwdPath with
    | .error e => .error e
    | .ok cwd => d.resolve cwd
  | some p =>
    match home.expand p with
    | .error e => .error e
    | .ok p =>
      if p.isAbsolute then d.resolve p
      else
        match d.cwdPath with
        | .error e => .error e
        | .ok cwd => d.resolve (cwd / p)

def locate (home : Home) (root : Option Path) (s : Settings) (d : Disk) : Except Error Project :=
  match resolveRoot home root d with
  | .error e => .error (.file e)
  | .ok root =>
    match d.isFile root with
    | .error e => .error (.file e)
    | .ok true => .error (.rootIsFile root)
    | .ok false => .ok (atRoot root s)

/-- Removes the output directory with its contents and makes it anew. A directory that holds the root
of the project is left alone. -/
def resetOutput (p : Project) : DiskTask Path := do
  let output ← DiskTask.ask (·.resolve p.outputDir)
  let root ← DiskTask.ask (·.resolve p.root)
  if root.isBelow output then throw (.holdsRoot output)
  if ← DiskTask.ask (·.isPresent p.outputDir) then
    if !(← DiskTask.ask (·.isDirectory p.outputDir)) then throw (.outputOccupied p.outputDir)
    DiskTask.change (Disk.removeTree p.outputDir)
  DiskTask.change (Disk.makeDirectories p.outputDir)
  return p.outputDir

/-! ## Configuration -/

def readConfigFile (path : Path) (d : Disk) : Except Error Table :=
  match d.isPresent path with
  | .error e => .error (.file e)
  | .ok false => .ok []
  | .ok true =>
    match d.readText path with
    | .error e => .error (.ofRead e)
    | .ok text =>
      match Toml.parse text with
      | .error e => .error (.toml e)
      | .ok t => .ok t

/-- The configuration of the project at a root. Packaged defaults, configuration file, environment and
options are laid on each other in this order. -/
def loadConfig (root : Path) (configFile : Option Path) (options : Table) (environ : Table)
    (d : Disk) : Except Error Config :=
  match readConfigFile (configFile.getD (root / projectFileName)) d with
  | .error e => .error e
  | .ok fromFile =>
    match Config.load [Config.defaults, fromFile, environmentLayer environ, options] with
    | .error e => .error (.config e)
    | .ok c => .ok c

/-- Writes the configuration file of a new project. A file that is there stays unless `force` is
set. -/
def create (home : Home) (root : Option Path) (force : Bool) (options : Table) :
    DiskTask (Config × Project) := fun d =>
  match Config.load [Config.defaults, options] with
  | .error e => .error (.config e) d
  | .ok config =>
    match locate home root config.build d with
    | .error e => .error e d
    | .ok p =>
      match d.isPresent p.configFile with
      | .error e => .error (.file e) d
      | .ok present =>
        if present && !force then .error (.projectFileExists p.configFile) d
        else
          let write : DiskM Unit := do
            Disk.makeDirectories p.root
            Disk.writeFile p.configFile (Text.Utf8.encode (config.render true))
          match write d with
          | .error e d => .error (.file e) d
          | .ok _ d => .ok (config, p) d

end Project

end Bundler
