import Bundler.Error
import Bundler.Journal.Basic

/-!
# Bundler.Session

What the program works on: a disk, the home directories and the journal.

* `Session.logAll`: entries given to a logger.
* `Session.configure`: the journal set up anew.
* `Session.rollOver`: the journal file moved into the archive of the day.
-/

namespace Bundler

structure Session where
  disk : Disk
  home : Home
  journal : Journal := {}

/-- A task in a session. What it has done stays when it fails. -/
abbrev SessionM := EStateM Error Session

namespace Session

def logAll (s : Session) (l : Journal.Logger) (es : List Journal.Entry) : Session :=
  let (j, d) := s.journal.logAll l es s.disk
  { s with journal := j, disk := d }

def log (s : Session) (l : Journal.Logger) (e : Journal.Entry) : Session :=
  s.logAll l [e]

def tryLog (s : Session) (l : Journal.Logger) (e : Journal.Entry) : Except Journal.Unshown Session :=
  (s.journal.tryLog l e s.disk).map fun (j, d) => { s with journal := j, disk := d }

def logForeign (s : Session) (level : Int) (message : String) : Session :=
  let (j, d) := s.journal.logForeign level message s.disk
  { s with journal := j, disk := d }

def openJournal (home : Home) (dir : Path) : DiskM Path := fun d =>
  match home.expand dir with
  | .error e => .error e d
  | .ok dir =>
    match d.resolve dir with
    | .error e => .error e d
    | .ok dir =>
      match Disk.makeDirectories dir d with
      | .error e d => .error e d
      | .ok _ d => .ok (dir / Journal.fileName) d

/-- Sets the journal up with a level and, if a directory is given, a file in it. -/
def configure (level : String) (dir : Option Path) : SessionM Unit := fun s =>
  match Journal.levelOfName? level with
  | none => .error (.unsupportedLevel level) s
  | some n =>
    let s := { s with journal := s.journal.beginSetup n }
    match dir with
    | none => .ok () { s with journal := s.journal.endSetup none }
    | some dir =>
      match openJournal s.home dir s.disk with
      | .error e d => .error (.file e) { s with disk := d }
      | .ok file d => .ok () { s with disk := d, journal := s.journal.endSetup file }

def rollOver : SessionM Unit := fun s =>
  match s.journal.file with
  | none => .ok () s
  | some f =>
    let s := { s with journal := s.journal.closeFile }
    match s.journal.rollOver f s.disk with
    | .error e d => .error (.file e) { s with disk := d }
    | .ok _ d => .ok () { s with disk := d }

end Session

end Bundler
