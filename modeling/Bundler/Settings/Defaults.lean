import Bundler.Disk.Basic
import Bundler.Settings.Config

/-!
# Bundler.Settings.Defaults

What comes with the program: a configuration file with the defaults, and the directory in which it
lies.

* `Config.defaultsText`, `Config.defaults`: the text of the file and the layer that it writes.
* `Resource.find?`: the packaged file that a name stands for.
-/

namespace Bundler

namespace Config

def defaultsText : String :=
  String.intercalate "\n"
    ["# Packaged defaults for the vno component compiler.",
      "#",
      "# Project settings live in `vno.toml` at the project root and are layered on",
      "# top of these values, followed by VNO_* environment variables and CLI flags.",
      "",
      "log_level = \"INFO\"",
      "",
      "[build]",
      "# Label given to the entry component; it is compiled as the root instance.",
      "root_label = \"App\"",
      "# Entry component path, relative to the project root.",
      "entry = \"App.vue\"",
      "# Directory (relative to the project root) receiving the bundle.",
      "output_dir = \"vno-build\"",
      "# Bundle file name inside `output_dir`. Builds append to it.",
      "output_file = \"build.js\"",
      "# Global identifier of the component runtime used in generated code.",
      "runtime = \"Vue\"",
      "# Remove and recreate `output_dir` before each build.",
      "clean = true",
      "# Sections allowed to be absent from a component (template, script, style).",
      "optional_sections = []",
      ""]

def defaults : Table :=
  [("log_level", .str "INFO"),
    ("build", .table
      [("root_label", .str "App"), ("entry", .str "App.vue"), ("output_dir", .str "vno-build"),
        ("output_file", .str "build.js"), ("runtime", .str "Vue"), ("clean", .bool true),
        ("optional_sections", .list [])])]

end Config

namespace Resource

def defaultsName : String := "vno.defaults.toml"

/-- The file that a name stands for, read from the directory of the packaged files. -/
def find? (d : Disk) (directory : Location) (name : String) : Option Path :=
  let p := Path.ofParts directory / name
  match d.isFile p with
  | .ok true => some p
  | _ => none

end Resource

end Bundler
