import Bundler.Settings.Config
import Bundler.Source
import Bundler.Toml.Problem

/-!
# Bundler.Error

Everything that can end a task of the program, with its message. The family of an error decides what
a command makes of it.
-/

namespace Bundler

inductive Error where
  | failure (f : Failure)
  | file (e : FileError)
  | undecodable (f : Text.Utf8.Fault)
  | toml (e : Toml.Error)
  | config (e : Config.LoadError)
  | rootIsFile (root : Path)
  /-- The output directory to be emptied holds the root of the project. -/
  | holdsRoot (outputDir : Path)
  | outputOccupied (outputDir : Path)
  | unsupportedLevel (name : String)
  | projectFileExists (path : Path)

namespace Error

def ofBuild : BuildError → Error
  | .failure f => .failure f
  | .file e => .file e

def ofRead : ReadError → Error
  | .file e => .file e
  | .undecodable f => .undecodable f

def message : Error → String
  | .failure f => f.message
  | .file e => e.message
  | .undecodable f => f.message
  | .toml e => e.message
  | .config e => e.message
  | .rootIsFile root => "Project root must be a directory: " ++ root.text
  | .holdsRoot dir => "Refusing to reset '" ++ dir.text ++ "': it contains the project root."
  | .outputOccupied dir => "Output path '" ++ dir.text ++ "' exists but is not a directory."
  | .unsupportedLevel name => "Unsupported log level: " ++ Text.quoted name
  | .projectFileExists path => path.text

inductive Family where
  | build
  | value
  | sort
  | system
  /-- The machine is in no state for the task. -/
  | state
deriving Repr, DecidableEq

def family : Error → Family
  | .failure _ => .build
  | .file e =>
    match e with
    | .system .. => .system
    | .linking .. => .system
    | .treeIsLink => .system
    | .nullByte => .value
    | .linkLoop _ => .state
    | .noHome => .state
  | .undecodable _ => .value
  | .toml _ => .value
  | .config (.payload _) => .sort
  | .config .unwritable => .value
  | .config (.invalid _) => .value
  | .rootIsFile _ => .value
  | .holdsRoot _ => .value
  | .outputOccupied _ => .value
  | .unsupportedLevel _ => .value
  | .projectFileExists _ => .system

end Error

end Bundler
