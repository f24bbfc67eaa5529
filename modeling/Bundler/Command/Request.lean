import Bundler.Command.Arguments
import Bundler.Settings.Config

/-!
# Bundler.Command.Request

What a command line asks for: to build a project, to begin a new one, help, or nothing that makes
sense.

* `request`: the request of a command line.
* `usage`: the lines of the help text, made from the options that the commands accept.
-/

namespace Bundler

def version : String := "0.1.0"

namespace Command

structure BuildOptions where
  flags : Flags := {}
  root : Option String := none
  configFile : Option String := none

structure InitOptions where
  flags : Flags := {}
  root : Option String := none
  force : Bool := false

inductive Request where
  | misuse
  | help
  | build (o : BuildOptions)
  | init (o : InitOptions)

def helpForm : OptionForm :=
  { key := "help", names := ["--help"], flag := some "" }

def buildForms : List OptionForm :=
  [{ key := "label", names := ["--label", "-n"] },
    { key := "root", names := ["--root", "-r"] },
    { key := "config", names := ["--config", "-c"] },
    { key := "out", names := ["--out", "-o"] },
    { key := "file", names := ["--file"] },
    { key := "runtime", names := ["--runtime"] },
    { key := "clean", names := ["--clean"], flag := some "true" },
    { key := "clean", names := ["--no-clean"], flag := some "false" },
    { key := "log-level", names := ["--log-level", "-l"] },
    helpForm]

def initForms : List OptionForm :=
  [{ key := "root", names := ["--root", "-r"] },
    { key := "force", names := ["--force", "-f"], flag := some "" },
    { key := "label", names := ["--label", "-n"] },
    { key := "entry", names := ["--entry", "-e"] },
    helpForm]

def hasNull (s : Option String) : Bool :=
  (s.map fun s => s.contains '\x00').getD false

def Arguments.value? (a : Arguments) (key : String) : Option Value :=
  (a.get? key).map .str

def buildOptions (a : Arguments) : BuildOptions :=
  { flags :=
      { label := a.value? "label"
        entry := a.others.head?.map .str
        outputDir := a.value? "out"
        outputFile := a.value? "file"
        runtime := a.value? "runtime"
        clean := (a.get? "clean").map fun s => .bool (s == "true")
        logLevel := a.value? "log-level" }
    root := a.get? "root"
    configFile := a.get? "config" }

def initOptions (a : Arguments) : InitOptions :=
  { flags := { label := a.value? "label", entry := a.value? "entry" }
    root := a.get? "root"
    force := a.has "force" }

/-- The request of the build command: at most one argument besides the options. -/
def buildRequest (args : List String) : Request :=
  match parse? buildForms true args with
  | none => .misuse
  | some a =>
    if a.has "help" then .help
    else
      let o := buildOptions a
      if hasNull o.root || hasNull o.configFile || 1 < a.others.length then .misuse else .build o

/-- The request of the command for new projects: no argument besides the options. -/
def initRequest (args : List String) : Request :=
  match parse? initForms true args with
  | none => .misuse
  | some a =>
    if a.has "help" then .help
    else
      let o := initOptions a
      if hasNull o.root || a.others != [] then .misuse else .init o

/-- Whether a word could be an option: it begins with no letter or digit. -/
def mayBeOption (word : String) : Bool :=
  match word.toList with
  | [] => false
  | c :: _ => !c.isAlphanum

/-- The request of a command line: options of the program, then a command with its own arguments. A
word in the place of the command that is none is read as an option once more. -/
def request (args : List String) : Request :=
  match args, parse? [helpForm] false args with
  | [], _ => .misuse
  | _, none => .misuse
  | _, some a =>
    if a.has "help" then .help
    else
      match a.others with
      | [] => .misuse
      | command :: rest =>
        if command = "build" then buildRequest rest
        else if command = "init" then initRequest rest
        else if mayBeOption command then
          match parse? [helpForm] false a.others with
          | some again => if again.has "help" then .help else .misuse
          | none => .misuse
        else .misuse

/-! ## Help -/

/-- One line for an option; an option without a fixed value takes one. -/
def OptionForm.line (f : OptionForm) : String :=
  "    " ++ String.intercalate ", " f.names ++ (if f.flag.isNone then " VALUE" else "")

def usage : List String :=
  ["vno " ++ version, "", "  build [ENTRY]"] ++ buildForms.map OptionForm.line ++
    ["", "  init"] ++ initForms.map OptionForm.line

end Command

end Bundler
