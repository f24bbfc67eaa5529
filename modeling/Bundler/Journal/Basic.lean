import Bundler.Disk.Change
import Bundler.Disk.Resolve
import Bundler.Journal.Archive
import Bundler.Journal.Line
import Bundler.Text.Digit

/-!
# Bundler.Journal.Basic

The journal of the program: which entries are kept and where. Before it is set up nothing is kept.
Setting it up chooses a level and, if a directory is given, a file that receives one line per entry.
While the journal is being recorded, entries are collected instead.

The file is moved into the archive only by the step `Session.rollOver`. A journal in service takes this
step by itself, with the first entry after midnight (UTC) or over a file of an earlier day; logging an
entry does not do so here, whatever `now` says.

* `Logger`: where entries come from; it adds its context to each of them and belongs to the setup
  under which it was made.
* `Journal.log`: an entry given to a logger.
* `Journal.rollOver`: the file moved into the archive of the day.
-/

namespace Bundler

namespace Journal

structure Logger where
  setup : Nat := 0
  context : Table := []

def Logger.bind (l : Logger) (fields : Table) : Logger :=
  { l with context := Keyed.putAll fields l.context }

/-- The file of the journal: opened with its first line, and lost when it is removed while open. -/
inductive Stream where
  | closed
  | opened (location : Location)
deriving Repr, DecidableEq

structure LogFile where
  path : Path
  level : Nat
  stream : Stream := .closed
deriving Repr, DecidableEq

end Journal

/-- The number of setups so far, the least level that is kept, the level of the console and the file,
and the entries collected while recording. -/
structure Journal where
  setup : Nat := 0
  level : Nat := 30
  console : Option Nat := none
  file : Option Journal.LogFile := none
  recording : Bool := false
  recorded : List Journal.Entry := []
  /-- The time that lines carry, as year, month, day and so on. -/
  now : String := ""

namespace Journal

def fileStem : String := "vno"

def fileExtension : String := ".log"

def fileName : String := fileStem ++ fileExtension

/-- Adds a line to the file of the journal. A file that cannot be opened takes no line, and an opened
file that has been removed neither, even when there is another file in its place. -/
def LogFile.write (f : LogFile) (line : String) (d : Disk) : LogFile × Disk :=
  let bytes := Text.Utf8.encode line
  match f.stream with
  | .closed =>
    match Disk.openFile f.path d with
    | .ok (l, old) d => ({ f with stream := .opened l }, (d.set l (.file (old ++ bytes))).hold l)
    | .error _ d => (f, d)
  | .opened l =>
    match d.get? l with
    | some (.file old) => if d.held.contains l then (f, d.set l (.file (old ++ bytes))) else (f, d)
    | _ => (f, d)

def deliver (j : Journal) (rank : Int) (line : String) (d : Disk) : Journal × Disk :=
  match j.file with
  | none => (j, d)
  | some f =>
    if (j.level : Int) ≤ rank && (f.level : Int) ≤ rank then
      let (f, d) := f.write line d
      ({ j with file := f }, d)
    else (j, d)

/-- Logs an entry. It is collected when the journal is recorded under the logger's setup; a logger
from before the first setup reaches no file. -/
def log (j : Journal) (l : Logger) (e : Entry) (d : Disk) : Journal × Disk :=
  let e := e.within l.context
  if j.recording && l.setup = j.setup then ({ j with recorded := j.recorded ++ [e] }, d)
  else if l.setup = 0 then (j, d)
  else j.deliver e.severity.rank (e.line j.now) d

def logAll (j : Journal) (l : Logger) (es : List Entry) (d : Disk) : Journal × Disk :=
  es.foldl (fun acc e => acc.1.log l e acc.2) (j, d)

/-- Whether the console shows entries of a severity. Before the first setup it shows all of them. -/
def isShown (j : Journal) (s : Severity) : Bool :=
  j.setup = 0 || ((j.console.map fun n => j.level ≤ s.rank && n ≤ s.rank).getD false)

/-- Logs an entry unless the console cannot show it; the console comes before the file. -/
def tryLog (j : Journal) (l : Logger) (e : Entry) (d : Disk) : Except Unshown (Journal × Disk) :=
  match (e.within l.context).unshown? with
  | none => .ok (j.log l e d)
  | some u => if j.isShown e.severity then .error u else .ok (j.log l e d)

def logForeign (j : Journal) (level : Int) (message : String) (d : Disk) : Journal × Disk :=
  if 0 < level then j.deliver level (fieldsLine message (levelName level) j.now []) d else (j, d)

def logger (j : Journal) (context : Table) : Logger :=
  ⟨j.setup, context⟩

/-! ## Setting up -/

/-- The journal at the start of a setup; the file stays until the setup ends. -/
def beginSetup (j : Journal) (level : Nat) : Journal :=
  { j with setup := j.setup + 1, level := level }

def endSetup (j : Journal) (file : Option Path) : Journal :=
  { j with console := j.level, file := file.map fun p => ⟨p, j.level, .closed⟩ }

/-! ## Archives -/

def day (j : Journal) : String :=
  String.ofList (j.now.toList.take 10)

def archivePath (j : Journal) (file : Path) : Path :=
  file.parent / (file.name ++ "." ++ j.day ++ ".gz")

def maxArchives : Nat := 7

/-- Whether a text has the form of a day; a line feed may stand after it. -/
def isDay (s : List Char) : Bool :=
  match s with
  | a :: b :: c :: d :: '-' :: e :: f :: '-' :: g :: h :: rest =>
    [a, b, c, d, e, f, g, h].all Char.isDigit && (rest == [] || rest == ['\n'])
  | _ => false

/-- Whether a name ends as that of the journal file does without beginning like it, and has no digit
at the second place after the point: such a file is not taken for an archive. -/
def isOtherJournal (name : List Char) : Bool :=
  !fileName.toList.isPrefixOf name && fileExtension.toList.isSuffixOf name &&
    ((name[fileStem.length + 2]?.map fun c => !Text.isDigit c).getD false)

/-- Whether a name is that of an archive: after the stem a day stands between points. -/
def isArchiveName (name : String) : Bool :=
  match (fileStem ++ ".").toList.isPrefixOf? name.toList with
  | none => false
  | some rest => !isOtherJournal name.toList && (Text.fields (· == '.') rest).any isDay

/-- The names of the archives in a directory beyond the number that is kept, the first ones in
order. -/
def surplusArchives (d : Disk) (dir : Location) : List String :=
  let names := d.entries.filterMap fun p =>
    if p.1 != [] && p.1.dropLast == dir then some (p.1.getLastD "") else none
  let sorted := (names.filter isArchiveName).mergeSort fun a b => a ≤ b
  sorted.take (sorted.length - maxArchives)

def unlinkAll : List Path → DiskM Unit
  | [] => fun d => .ok () d
  | p :: ps => fun d =>
    match Disk.unlink p d with
    | .error e d => .error e d
    | .ok _ d => unlinkAll ps d

def prune (dir : Path) : DiskM Unit := fun d =>
  match d.stat .followed dir with
  | .error e => .error e d
  | .ok (l, _) => unlinkAll ((surplusArchives d l).map fun (name : String) => dir / name) d

def unlinkPresent (p : Path) : DiskM Unit := fun d =>
  match d.isPresent p with
  | .ok true => Disk.unlink p d
  | _ => .ok () d

/-- Moves the journal file into the archive of the day; an archive that is there is replaced, and the
first archives are removed when there are too many. -/
def rollOver (j : Journal) (f : LogFile) : DiskM Unit := do
  let archive := j.archivePath f.path
  unlinkPresent archive
  let bytes ← Disk.ask (·.readBytes f.path)
  Disk.writeFile archive (Archive.pack bytes)
  Disk.unlink f.path
  prune f.path.parent

def closeFile (j : Journal) : Journal :=
  { j with file := j.file.map fun f => { f with stream := .closed } }

end Journal

end Bundler
