import Bundler.Record
import Bundler.Settings.Config

/-!
# Bundler.Settings.Edit

Changing settings and configurations by name. The build settings of a configuration are a record of
their own below it.

* `Settings.kind`, `Config.kind`: the records.
* `ConfigDraft.assignAt`: a configuration changed at a path.
-/

namespace Bundler

def Settings.sortOf? (name : String) : Option String :=
  if ["root_label", "entry", "output_dir", "output_file", "runtime"].contains name then some "str"
  else if name = "clean" then some "bool"
  else if name = "optional_sections" then some "tuple"
  else none

def Settings.kind : Record.Kind Settings :=
  { name := "BuildSettings", assign := Settings.assign, sortOf? := Settings.sortOf? }

def Config.sortOf? (name : String) : Option String :=
  if name = "log_level" then some "str" else if name = "build" then some Settings.kind.name else none

def Config.kind : Record.Kind Config :=
  { name := "VnoConfig", assign := Config.assign, sortOf? := Config.sortOf? }

/-- A configuration with its notes and those of its build settings. -/
structure ConfigDraft where
  config : Config
  notes : Table := []
  buildNotes : Table := []

namespace ConfigDraft

/-- Sets what is at the end of a path. New build settings come without notes. -/
def assignAt (given : Record.Surroundings) (c : ConfigDraft) (v : Value) (path : List String) :
    Record.Outcome ConfigDraft :=
  match path with
  | "build" :: name :: rest =>
    (Record.assignAt Settings.kind given ⟨c.config.build, c.buildNotes⟩ v (name :: rest)).map fun d =>
      { c with config := { c.config with build := d.record }, buildNotes := d.notes }
  | path =>
    (Record.assignAt Config.kind given ⟨c.config, c.notes⟩ v path).map fun d =>
      { config := d.record
        notes := d.notes
        buildNotes := if path = ["build"] then [] else c.buildNotes }

end ConfigDraft

end Bundler
