import Bundler.Disk.Basic

/-!
# Bundler.Disk.Change

Operations that change a disk. An operation that fails leaves behind what it has done before.
Directories are made however many of them are missing: that the depth of calls may be limited, to some
990 missing levels, is left out.

* `DiskM`: a computation on a disk that may fail.
* `makeDirectories`, `writeFile`, `appendFile`, `removeTree`, `makeLink`, `unlink`.
-/

namespace Bundler

abbrev DiskM := EStateM FileError Disk

namespace Disk

def set (d : Disk) (l : Location) (e : Entry) : Disk :=
  { d with entries := Keyed.put l e d.entries }

def isInside (base l : Location) : Bool :=
  base.isPrefixOf l && l.length != base.length

/-- The disk when all but the first `n` directories on the way to the current one are out of reach. -/
def strand (d : Disk) (n : Nat) : Disk :=
  { d with cwd := d.cwd.take n, lost := d.cwd.drop n ++ d.lost }

def clearBelow (d : Disk) (l : Location) : Disk :=
  let kept := if isInside l d.cwd then d.strand l.length else d
  { kept with
    entries := d.entries.filter fun p => !isInside l p.1
    held := d.held.filter fun h => !isInside l h }

def erase (d : Disk) (l : Location) : Disk :=
  let kept := if l.isPrefixOf d.cwd then d.strand (l.length - 1) else d
  { kept with
    entries := Keyed.erase l d.entries
    held := d.held.filter (· != l) }

def ask {α : Type} (f : Disk → Except FileError α) : DiskM α := fun d =>
  match f d with
  | .ok a => .ok a d
  | .error e => .error e d

def makeDirectory (p : Path) : DiskM Unit := fun d =>
  match d.walk .itself p with
  | .error e => .error e d
  | .ok (.found _ _) => .error (.system .alreadyExists p.text) d
  | .ok (.vacant parent name) => .ok () (d.set (parent ++ [name]) .directory)

/-- Makes one directory unless there is one; another entry in its place is an error. -/
def ensureDirectory (p : Path) : DiskM Unit := fun d =>
  match makeDirectory p d with
  | .ok _ d => .ok () d
  | .error (.system code path) d =>
    if code = .notFound then .error (.system code path) d
    else
      match d.isDirectory p with
      | .ok true => .ok () d
      | .ok false => .error (.system code path) d
      | .error e => .error e d
  | .error e d => .error e d

/-- Makes a directory and the directories above it; `fuel` bounds their number. -/
def makeDirectoriesFrom : (fuel : Nat) → Path → DiskM Unit
  | 0, p => ensureDirectory p
  | fuel + 1, p => fun d =>
    match ensureDirectory p d with
    | .ok _ d => .ok () d
    | .error (.system .notFound path) d =>
      if p.parent = p then .error (.system .notFound path) d
      else
        match makeDirectoriesFrom fuel p.parent d with
        | .ok _ d => ensureDirectory p d
        | .error e d => .error e d
    | .error e d => .error e d

def makeDirectories (p : Path) : DiskM Unit :=
  makeDirectoriesFrom (p.parts.length + 1) p

/-- The location of a file to be written and the bytes it has; a file that is not there is made. -/
def openFile (p : Path) : DiskM (Location × List UInt8) := fun d =>
  match d.walk .created p with
  | .error e => .error e d
  | .ok (.found l (.file bytes)) => .ok (l, bytes) d
  | .ok (.found _ _) => .error (.system .isDirectory p.text) d
  | .ok (.vacant parent name) => .ok (parent ++ [name], []) (d.set (parent ++ [name]) (.file []))

def writeFile (p : Path) (bytes : List UInt8) : DiskM Unit := fun d =>
  match openFile p d with
  | .error e d => .error e d
  | .ok (l, _) d => .ok () (d.set l (.file bytes))

def appendFile (p : Path) (bytes : List UInt8) : DiskM Unit := fun d =>
  match openFile p d with
  | .error e d => .error e d
  | .ok (l, old) d => .ok () (d.set l (.file (old ++ bytes)))

/-- Removes an empty directory. The name of the current directory and a name that ends in a double dot
are refused. -/
def removeDirectory (p : Path) : DiskM Unit := fun d =>
  match d.stat .itself p with
  | .error e => .error e d
  | .ok (l, .directory) =>
    if p.parts = [] then .error (.system .invalidArgument p.text) d
    else if p.parts.getLast? == some ".." || d.entries.any fun q => isInside l q.1 then
      .error (.system .notEmpty p.text) d
    else .ok () (d.erase l)
  | .ok _ => .error (.system .notDirectory p.text) d

/-- Removes a directory with all that lies in it. First its contents go, then the directory, whose
name is read again. -/
def removeTree (p : Path) : DiskM Unit := fun d =>
  match d.stat .itself p with
  | .error e => .error e d
  | .ok (l, .directory) => removeDirectory p (d.clearBelow l)
  | .ok (_, .link _) =>
    match d.stat .followed p with
    | .error e => .error e d
    | .ok _ => .error .treeIsLink d
  | .ok (_, .file _) => .error (.system .notDirectory p.text) d

def unlink (p : Path) : DiskM Unit := fun d =>
  match d.stat .itself p with
  | .error e => .error e d
  | .ok (_, .directory) => .error (.system .isDirectory p.text) d
  | .ok (l, _) => .ok () (d.erase l)

def remove (p : Path) : DiskM Unit := fun d =>
  match d.stat .itself p with
  | .error e => .error e d
  | .ok (_, .directory) => removeTree p d
  | .ok _ => unlink p d

def writeFileBelow (p : Path) (bytes : List UInt8) : DiskM Unit := do
  makeDirectories p.parent
  writeFile p bytes

/-- What forbids a text as the target of a link. Whether there is anything at the target does not
matter. -/
def targetFault? (target : String) : Option SystemError :=
  if target = "" then some .notFound
  else if maxPath ≤ target.utf8ByteSize then some .nameTooLong
  else none

def makeLink (p : Path) (target : String) : DiskM Unit := fun d =>
  if p.hasNull || target.contains '\x00' then .error .nullByte d
  else
    match targetFault? target with
    | some code => .error (.linking code target p.text) d
    | none =>
      match d.walk .itself p with
      | .error (.system code _) => .error (.linking code target p.text) d
      | .error e => .error e d
      | .ok (.found _ _) => .error (.linking .alreadyExists target p.text) d
      | .ok (.vacant parent name) => .ok () (d.set (parent ++ [name]) (.link target))

end Disk

end Bundler
