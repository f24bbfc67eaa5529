import Bundler.Settings.Config
import Bundler.Toml.Str

/-!
# Bundler.Settings.ProjectFile

The text of a project's configuration file: the level of the journal and a table with all build
settings, under an optional comment.
-/

namespace Bundler

def projectFileName : String := "vno.toml"

namespace Config

def commentLines : List String :=
  ["# Generated by vno init",
    "# Precedence: CLI flags > env vars > vno.toml > defaults",
    "# Environment overrides:"] ++
    [levelVariable, outputDirVariable, rootLabelVariable].map ("#   " ++ ·) ++ [""]

def stringLine (key value : String) : String :=
  key ++ " = " ++ Toml.stringText value

def buildLines (s : Settings) : List String :=
  ["[build]",
    stringLine "root_label" s.rootLabel,
    stringLine "entry" s.entry,
    stringLine "output_dir" s.outputDir,
    stringLine "output_file" s.outputFile,
    stringLine "runtime" s.runtime,
    "clean = " ++ (if s.clean then "true" else "false"),
    "optional_sections = [" ++
      String.intercalate ", " (s.optionalSections.map fun k => Toml.stringText k.name) ++ "]"]

/-- The configuration file that sets all of a configuration. -/
def render (comments : Bool) (c : Config) : String :=
  let lines :=
    (if comments then commentLines else []) ++ [stringLine "log_level" c.logLevel, ""] ++
      buildLines c.build
  String.join (lines.map (· ++ "\n"))

end Config

end Bundler
