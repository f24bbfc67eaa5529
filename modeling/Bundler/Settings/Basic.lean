import Bundler.Fault
import Bundler.Path
import Bundler.Section
import Bundler.Text.Case

/-!
# Bundler.Settings.Basic

The settings of a build and the checks on their fields.

* `Settings.ofTable`: settings from a table of values; an absent field has its default and an
  unknown key has no effect.
* `Settings.assign`: one field set anew; the others stay as they are.
-/

namespace Bundler

structure Settings where
  rootLabel : String := "App"
  entry : String := "App.vue"
  outputDir : String := "vno-build"
  outputFile : String := "build.js"
  runtime : String := "Vue"
  clean : Bool := true
  optionalSections : List Section := []
deriving Repr, DecidableEq

namespace Settings

/-! ## Texts -/

def checkString : Value → Checked String
  | .str s => .ok (Text.trimWhite s)
  | v => reject .stringType v

def checkText (v : Value) : Checked String :=
  match checkString v with
  | .error fs => .error fs
  | .ok s => if s = "" then reject .blank v else .ok s

/-! ## The output directory -/

/-- A name of the form `\\machine\share`, by its characters. -/
def isShareName : List Char → Bool
  | '\\' :: '\\' :: '\\' :: _ => false
  | '\\' :: '\\' :: s =>
    match s.dropWhile (· != '\\') with
    | [] => false
    | _ :: '\\' :: _ => false
    | _ :: _ => true
  | _ => false

def dropDeviceMark : List Char → Bool × List Char
  | '\\' :: '\\' :: '?' :: '\\' :: 'U' :: 'N' :: 'C' :: '\\' :: s => (true, '\\' :: '\\' :: s)
  | '\\' :: '\\' :: '?' :: '\\' :: s => (true, s)
  | s => (false, s)

/-- Whether a name is absolute where drives have letters: a root after a drive or a share. Both
slashes separate parts. -/
def isDriveAbsolute (s : List Char) : Bool :=
  let (device, s) := dropDeviceMark (s.map fun c => if c = '/' then '\\' else c)
  if isShareName s then true
  else
    match s with
    | c :: ':' :: rest =>
      if c.isAlpha then rest.head? == some '\\' else device && c == '\\'
    | c :: _ => device && c == '\\'
    | [] => false

/-- Whether a name, with backslashes read as slashes, leads out of the directory it starts in. -/
def leavesBase (s : String) : Bool :=
  let p := (Path.ofString (String.ofList (s.toList.map fun c => if c = '\\' then '/' else c))).normalize
  !p.isAbsolute && p.parts.head? == some ".."

def hasOwnBase (s : String) : Bool :=
  s.toList.head? == some '~' || (Path.ofString s).isAbsolute || isDriveAbsolute s.toList

/-- The name of an output directory: relative, and not leading out of the project root. -/
def checkOutputDir (v : Value) : Checked String :=
  match checkText v with
  | .error fs => .error fs
  | .ok s =>
    if hasOwnBase s then reject (.outputNotRelative s) v
    else if leavesBase s then reject (.outputOutside s) v
    else .ok s

/-! ## Flags and sections -/

def flagWords : List (String × Bool) :=
  [("0", false), ("off", false), ("f", false), ("false", false), ("n", false), ("no", false),
    ("1", true), ("on", true), ("t", true), ("true", true), ("y", true), ("yes", true)]

def isWord64 (n : Int) : Bool :=
  -Int.pow 2 63 ≤ n && n < Int.pow 2 63

def checkBit (n : Int) (v : Value) : Checked Bool :=
  if n = 0 then .ok false else if n = 1 then .ok true else reject .boolParsing v

/-- A flag: a truth value, zero or one, or one of the words for them. -/
def checkFlag (v : Value) : Checked Bool :=
  match v with
  | .bool b => .ok b
  | .int n => if isWord64 n then checkBit n v else reject .boolType v
  | .float x =>
    match x.toInt? with
    | some n => if -Int.pow 2 63 < n && n < Int.pow 2 63 then checkBit n v else reject .boolType v
    | none => reject .boolType v
  | .str s =>
    match flagWords.lookup (String.ofList (s.toList.map Char.toLower)) with
    | some b => .ok b
    | none => reject .boolParsing v
  | _ => reject .boolType v

/-- The strings of a list, with the faults of its other members. -/
def checkStrings (i : Nat) : List Value → Checked (List String)
  | [] => .ok []
  | v :: vs =>
    match (checkString v).within (.index i), checkStrings (i + 1) vs with
    | .ok s, .ok ss => .ok (s :: ss)
    | a, b => .error (Checked.faults a ++ Checked.faults b)

def firstOccurrences {α : Type} [BEq α] (xs : List α) : List α :=
  xs.foldl (fun acc x => if acc.contains x then acc else acc ++ [x]) []

def sectionName (s : String) : String :=
  Text.lower (Text.trimBlank s)

/-- A list of section names, each taken once. -/
def checkSections (v : Value) : Checked (List Section) :=
  match v with
  | .list vs =>
    match checkStrings 0 vs with
    | .error fs => .error fs
    | .ok ss =>
      let names := firstOccurrences (ss.map sectionName)
      match names.filter fun s => (Section.ofName? s).isNone with
      | [] => .ok (names.filterMap Section.ofName?)
      | unknown => reject (.unknownSections (unknown.mergeSort fun a b => a ≤ b)) v
  | _ => reject .tupleType v

/-! ## Records -/

def ofTable (t : Table) : Checked Settings :=
  let default : Settings := {}
  match
    Checked.field t "root_label" default.rootLabel checkText,
    Checked.field t "entry" default.entry checkText,
    Checked.field t "output_dir" default.outputDir checkOutputDir,
    Checked.field t "output_file" default.outputFile checkText,
    Checked.field t "runtime" default.runtime checkText,
    Checked.field t "clean" default.clean checkFlag,
    Checked.field t "optional_sections" default.optionalSections checkSections with
  | .ok rootLabel, .ok entry, .ok outputDir, .ok outputFile, .ok runtime, .ok clean,
      .ok optionalSections =>
    .ok ⟨rootLabel, entry, outputDir, outputFile, runtime, clean, optionalSections⟩
  | a, b, c, d, e, f, g =>
    .error (a.faults ++ b.faults ++ c.faults ++ d.faults ++ e.faults ++ f.faults ++ g.faults)

def assign (s : Settings) (name : String) (v : Value) : Checked Settings :=
  match name with
  | "root_label" => ((checkText v).within (.field name)).map fun x => { s with rootLabel := x }
  | "entry" => ((checkText v).within (.field name)).map fun x => { s with entry := x }
  | "output_dir" => ((checkOutputDir v).within (.field name)).map fun x => { s with outputDir := x }
  | "output_file" => ((checkText v).within (.field name)).map fun x => { s with outputFile := x }
  | "runtime" => ((checkText v).within (.field name)).map fun x => { s with runtime := x }
  | "clean" => ((checkFlag v).within (.field name)).map fun x => { s with clean := x }
  | "optional_sections" =>
    ((checkSections v).within (.field name)).map fun x => { s with optionalSections := x }
  | _ => (reject (.noSuchAttribute name) v).within (.field name)

end Settings

end Bundler
