import Bundler.Disk.Error
import Bundler.Keyed

/-!
# Bundler.Disk.Basic

The files of a machine: directories, files and links at locations, and a current directory. A
location is the list of names from the root down, through directories only; the root itself is always
a directory. A directory or file in use that is removed stays out of reach, also when another one
takes its place.

* `Disk.get?`: what lies at a location.
* `Disk.walk`: what a path name leads to, through links; at most forty links are followed.
* `Disk.isPresent`, `Disk.isDirectory`, `Disk.isFile`, `Disk.readText`: questions to a path name.
-/

namespace Bundler

abbrev Location := List String

inductive Entry where
  | directory
  | file (bytes : List UInt8)
  | link (target : String)
deriving Repr, DecidableEq

/-- The entries, the current directory and the files in use. The current directory is the one at
`cwd`, unless it has been removed: then `cwd` is the nearest directory above it that is still there,
and `lost` has the names from there down. The files at `held` have been opened and not been removed
since. -/
structure Disk where
  entries : List (Location × Entry) := []
  cwd : Location := []
  lost : List String := []
  held : List Location := []
deriving Repr, DecidableEq

/-- What is meant by a path name that ends in a link. -/
inductive Final where
  | itself
  | followed
  /-- What the link leads to, as a file that is made if it is not there. Its name must not end in a
  slash. -/
  | created
deriving Repr, DecidableEq

/-- What a path name leads to: an entry, or a free name in a directory. -/
inductive Spot where
  | found (location : Location) (entry : Entry)
  | vacant (parent : Location) (name : String)
deriving Repr, DecidableEq

namespace Disk

def get? (d : Disk) (l : Location) : Option Entry :=
  if l = [] then some .directory else d.entries.lookup l

def maxName : Nat := 255

/-- The number of bytes that a path name does not reach. -/
def maxPath : Nat := 4096

def maxLinks : Nat := 40

def parentOf (l : Location) : Location :=
  l.dropLast

/-- The names in the target of a link; an empty name or a dot stands for the directory itself. -/
def targetParts (target : String) : List String :=
  (Text.fields (· == '/') target.toList).map String.ofList

def targetBase (target : String) (dir : Location) : Location :=
  if (Path.ofString target).isAbsolute then [] else dir

/-- Whether only slashes come after the last name. -/
def endsInSlash (rest : List String) : Bool :=
  rest != [] && rest.all (· == "")

/-- Follows names from a location on. A link in the middle is handed to `follow`, with its directory
and the names still to come; a link at the end only if `final` says so. -/
def walkParts (d : Disk) (final : Final)
    (follow : Location → List String → Except SystemError Spot) :
    Location → List String → Except SystemError Spot
  | l, [] =>
    match d.get? l with
    | some e => .ok (.found l e)
    | none => .error .notFound
  | l, name :: rest =>
    match d.get? l with
    | none => .error .notFound
    | some .directory =>
      if name = "" || name = "." then walkParts d final follow l rest
      else if name = ".." then walkParts d final follow (parentOf l) rest
      else if final = .created && endsInSlash rest then .error .isDirectory
      else if maxName < name.utf8ByteSize then .error .nameTooLong
      else
        match d.get? (l ++ [name]) with
        | none => if rest = [] then .ok (.vacant l name) else .error .notFound
        | some (.link target) =>
          if rest = [] && final = .itself then .ok (.found (l ++ [name]) (.link target))
          else follow (targetBase target l) (targetParts target ++ rest)
        | some _ => walkParts d final follow (l ++ [name]) rest
    | some _ => .error .notDirectory

/-- As `walkParts`, with at most `links` links followed. -/
def walkFrom (d : Disk) (final : Final) :
    (links : Nat) → Location → List String → Except SystemError Spot
  | 0 => walkParts d final fun _ _ => .error .tooManyLinks
  | links + 1 => walkParts d final (walkFrom d final links)

/-- Follows names from the current directory on. From a removed directory only the way up is left. -/
def walkFromCwd (d : Disk) (final : Final) :
    (lost : List String) → List String → Except SystemError Spot
  | [], parts => walkFrom d final maxLinks d.cwd parts
  | lost, [] => .ok (.found (d.cwd ++ lost) .directory)
  | lost, part :: rest =>
    if part = ".." then walkFromCwd d final lost.dropLast rest else .error .notFound

def walk (d : Disk) (final : Final) (p : Path) : Except FileError Spot :=
  if p.hasNull then .error .nullByte
  else if maxPath ≤ p.text.utf8ByteSize then .error (.system .nameTooLong p.text)
  else
    let reached :=
      if p.isAbsolute then walkFrom d final maxLinks [] p.parts
      else walkFromCwd d final d.lost p.parts
    match reached with
    | .ok spot => .ok spot
    | .error code => .error (.system code p.text)

def stat (d : Disk) (final : Final) (p : Path) : Except FileError (Location × Entry) :=
  match d.walk final p with
  | .error e => .error e
  | .ok (.found l e) => .ok (l, e)
  | .ok (.vacant _ _) => .error (.system .notFound p.text)

/-- Whether an error only says that there is nothing at a path. -/
def meansAbsent : FileError → Bool
  | .system .notFound _ => true
  | .system .notDirectory _ => true
  | .system .tooManyLinks _ => true
  | .nullByte => true
  | _ => false

/-- The entry at a path, if there is one; a name that is too long is an error. -/
def lookup (d : Disk) (p : Path) : Except FileError (Option Entry) :=
  match d.stat .followed p with
  | .ok (_, e) => .ok (some e)
  | .error e => if meansAbsent e then .ok none else .error e

def isPresent (d : Disk) (p : Path) : Except FileError Bool :=
  (d.lookup p).map Option.isSome

def isDirectory (d : Disk) (p : Path) : Except FileError Bool :=
  (d.lookup p).map fun e => e == some .directory

def isFile (d : Disk) (p : Path) : Except FileError Bool :=
  (d.lookup p).map fun e =>
    match e with
    | some (.file _) => true
    | _ => false

def readBytes (d : Disk) (p : Path) : Except FileError (List UInt8) :=
  match d.stat .followed p with
  | .error e => .error e
  | .ok (_, .file bytes) => .ok bytes
  | .ok _ => .error (.system .isDirectory p.text)

def readText (d : Disk) (p : Path) : Except ReadError String :=
  match d.readBytes p with
  | .error e => .error (.file e)
  | .ok bytes =>
    match Text.Utf8.decode bytes with
    | .error f => .error (.undecodable f)
    | .ok cs => .ok (String.ofList cs)

/-- The absolute path of the current directory, as long as it is there. -/
def cwdPath (d : Disk) : Except FileError Path :=
  if d.lost = [] then .ok (.ofParts d.cwd) else .error (.system .notFound none)

def enter (d : Disk) (l : Location) : Disk :=
  { d with cwd := l, lost := [] }

def enterAt (d : Disk) (p : Path) : Except FileError Disk :=
  match d.stat .followed p with
  | .ok (l, .directory) => .ok (d.enter l)
  | .ok _ => .error (.system .notDirectory p.text)
  | .error e => .error e

def hold (d : Disk) (l : Location) : Disk :=
  { d with held := l :: d.held }

end Disk

end Bundler
