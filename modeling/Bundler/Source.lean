import Bundler.Declaration
import Bundler.Disk.Basic

/-!
# Bundler.Source

The sources of components: the texts of files, in which every line ends in a line feed.

* `Source.read`: the source at a path of a disk.
* `Source.declaredLabels`, `Source.declaredPaths`: what all files of a disk declare.
-/

namespace Bundler

inductive BuildError where
  | failure (f : Failure)
  /-- A file error that no failure reports. -/
  | file (e : FileError)
deriving Repr, DecidableEq

namespace Source

/-- The text of a source, with line feeds at the ends of lines. -/
def ofText (s : String) : String :=
  String.ofList (Text.unifyNewlines s.toList)

def read (d : Disk) (p : Path) : Except ReadError String :=
  (d.readText p).map ofText

def readFailure (label : String) (path : Path) (e : ReadError) : BuildError :=
  let failure := .failure
    ⟨.unreadableSource ("Failed to read component source: " ++ e.message), label, path⟩
  match e with
  | .undecodable _ => failure
  | .file e => if e.isSystem then failure else .file e

/-! ## Labels and paths -/

/-- The label that a line declares; its last word does not matter. -/
def lineLabel? (line : List Char) : Option String :=
  match Text.words line with
  | w :: label :: _ :: _ => if w = Declaration.keyword then some (String.ofList label) else none
  | _ => none

def labelsOf (source : String) : List String :=
  (Text.lines source.toList).filterMap lineLabel?

def textOf? : Entry → Option String
  | .file bytes =>
    match Text.Utf8.decode bytes with
    | .ok cs => some (ofText (String.ofList cs))
    | .error _ => none
  | _ => none

def declaredLabels (d : Disk) : List String :=
  (d.entries.flatMap fun p => ((textOf? p.2).map labelsOf).getD []).eraseDups

/-- The paths that a source declares. Malformed lines are passed over. -/
def pathsOf (root : Path) (source : String) : List Path :=
  (Text.lines source.toList).filterMap fun line =>
    match Declaration.ofWords (Text.words line) with
    | some (.ok (_, specifier)) => some (root.locate (String.ofList specifier))
    | _ => none

def declaredPaths (root : Path) (d : Disk) : List Path :=
  (d.entries.flatMap fun p => ((textOf? p.2).map (pathsOf root)).getD []).eraseDups

end Source

end Bundler
