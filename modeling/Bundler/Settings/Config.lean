import Bundler.Settings.Basic

/-!
# Bundler.Settings.Config

The configuration of the program: the level of the journal and the settings of the build. It is read
from layers: packaged defaults, project file, environment, command line, where a later layer wins.

* `Config.ofTable`, `Config.assign`: as for settings. Both end with `Config.finish`, which writes the
  level in upper case whichever field has been set.
* `Config.load`: the configuration that a stack of layers gives.
* `Flags.layer`, `environmentLayer`: the layers of a command line and of an environment.
-/

namespace Bundler

structure Config where
  logLevel : String := "INFO"
  build : Settings := {}
deriving Repr, DecidableEq

namespace Config

/-- What follows every check of a configuration, also when another field than the level is set. -/
def finish (c : Config) : Config :=
  { c with logLevel := Text.upper c.logLevel }

def checkBuild : Value → Checked Settings
  | .table t => Settings.ofTable t
  | v => reject .modelType v

def ofTable (t : Table) : Checked Config :=
  let default : Config := {}
  match
    Checked.field t "log_level" default.logLevel Settings.checkString,
    Checked.field t "build" default.build checkBuild with
  | .ok logLevel, .ok build => .ok (finish ⟨logLevel, build⟩)
  | a, b => .error (a.faults ++ b.faults)

def assign (c : Config) (name : String) (v : Value) : Checked Config :=
  match name with
  | "log_level" =>
    ((Settings.checkString v).within (.field name)).map fun x => finish { c with logLevel := x }
  | "build" => ((checkBuild v).within (.field name)).map fun x => finish { c with build := x }
  | _ => (reject (.noSuchAttribute name) v).within (.field name)

def assignBuild (c : Config) (name : String) (v : Value) : Checked Config :=
  (c.build.assign name v).map fun s => { c with build := s }

end Config

/-! ## Layers -/

/-- What the options of a command line can set. Like those of the other layers, the values are checked
when the configuration is loaded. -/
structure Flags where
  label : Option Value := none
  entry : Option Value := none
  outputDir : Option Value := none
  outputFile : Option Value := none
  runtime : Option Value := none
  clean : Option Value := none
  logLevel : Option Value := none

def keyed? (key : String) (v : Option Value) : Table :=
  (v.map fun v => (key, v)).toList

def Flags.buildLayer (f : Flags) : Table :=
  keyed? "root_label" f.label ++ keyed? "entry" f.entry ++ keyed? "output_dir" f.outputDir ++
    keyed? "output_file" f.outputFile ++ keyed? "runtime" f.runtime ++ keyed? "clean" f.clean

def nonemptyTable (key : String) (t : Table) : Table :=
  if t.isEmpty then [] else [(key, .table t)]

/-- A value that is there and says something. -/
def telling? (v : Option Value) : Option Value :=
  v.filter fun v => !v.isVoid

/-- The layer of a command line; an empty level is no level. -/
def Flags.layer (f : Flags) : Table :=
  keyed? "log_level" (telling? f.logLevel) ++ nonemptyTable "build" f.buildLayer

/-- The variables that set a field, with the empty value counting as unset. -/
def levelVariable : String := "VNO_LOG_LEVEL"

def outputDirVariable : String := "VNO_OUTPUT_DIR"

def rootLabelVariable : String := "VNO_ROOT_LABEL"

def environmentLayer (environ : Table) : Table :=
  keyed? "log_level" (telling? (environ.lookup levelVariable)) ++
    nonemptyTable "build"
      (keyed? "output_dir" (telling? (environ.lookup outputDirVariable)) ++
        keyed? "root_label" (telling? (environ.lookup rootLabelVariable)))

/-! ## Loading -/

namespace Config

inductive LoadError where
  | payload (v : Value)
  /-- The build entry is no table and holds an integer that is too long to be shown. -/
  | unwritable
  | invalid (e : Invalid)

def LoadError.message : LoadError → String
  | .payload v => "Unsupported build configuration payload: " ++ v.text
  | .unwritable =>
    "Exceeds the limit (" ++ toString Number.Integer.maxDigits ++ " digits) for integer string " ++
      "conversion; use sys.set_int_max_str_digits() to increase the limit"
  | .invalid e => e.message

def stack (layers : List Table) : Table :=
  layers.foldl (fun base layer => Table.merge layer base) []

/-- The build settings of a stack. Without an entry they are `given`; an empty entry stands for the
default settings. -/
def loadBuild (given : Settings) (t : Table) : Except LoadError Settings :=
  match t.lookup "build" with
  | none => .ok given
  | some .null => .ok {}
  | some (.table b) =>
    match Settings.ofTable b with
    | .ok s => .ok s
    | .error fs => .error (.invalid ⟨"BuildSettings", fs⟩)
  | some v => .error (if v.isWritable then .payload v else .unwritable)

/-- The configuration of a stack of values; a build entry is checked before the level. -/
def ofStack (given : Settings) (t : Table) : Except LoadError Config :=
  match loadBuild given t with
  | .error e => .error e
  | .ok build =>
    match Checked.field t "log_level" ({} : Config).logLevel Settings.checkString with
    | .ok logLevel => .ok (finish ⟨logLevel, build⟩)
    | .error fs => .error (.invalid ⟨"VnoConfig", fs⟩)

def load (layers : List Table) : Except LoadError Config :=
  ofStack {} (stack layers)

/-- As `load`, where the weakest layer holds finished build settings. They are used as they are,
unless a later layer has a build entry. -/
def loadOver (given : Settings) (layers : List Table) : Except LoadError Config :=
  ofStack given (stack layers)

end Config

end Bundler
