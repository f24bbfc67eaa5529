import Bundler.Command.Run
import Std.Time

/-!
# Bundler.Main

The program. It makes a picture of the part of the disk that a command line leads to, carries the
command out on that picture, and then brings the disk to the state that the command has left.

The picture grows with what it shows: the configuration file says where the entry component and the
output lie, and every source says where further components lie. Links have their final targets in it;
a link that leads nowhere and a file that cannot be read are left out.
-/

namespace Bundler.Main

def pathText (l : Location) : String :=
  (Path.ofParts l).text

/-- The location of a file that is there, with links replaced. -/
def locationOf? (path : String) : IO (Option Location) := do
  try
    let p ← IO.FS.realPath path
    pure (some (Path.ofString p.toString).parts)
  catch _ => pure none

/-- One entry of the disk, if it can be read. A link is read as one to its final target. -/
def entryAt? (l : Location) : IO (Option Entry) := do
  try
    let p := (← IO.currentDir) / pathText l
    match (← p.symlinkMetadata).type with
    | .dir => pure (some .directory)
    | .file => pure (some (.file (← IO.FS.readBinFile p).toList))
    | .symlink => pure (some (.link (← IO.FS.realPath p).toString))
    | .other => pure none
  catch _ => pure none

def namesIn (l : Location) : IO (List String) := do
  try
    let p := (← IO.currentDir) / pathText l
    pure ((← p.readDir).toList.map fun e => e.fileName)
  catch _ => pure []

partial def entriesFrom (l : Location) : IO (List (Location × Entry)) := do
  match ← entryAt? l with
  | none => pure []
  | some .directory =>
    let below ← (← namesIn l).mapM fun name => entriesFrom (l ++ [name])
    pure ((l, .directory) :: below.flatten)
  | some e => pure [(l, e)]

def above (l : Location) : List (Location × Entry) :=
  (List.range l.length).filterMap fun n =>
    if n = 0 then none else some (l.take n, .directory)

/-- What lies on the way that names lead from a location, as far as there is something. -/
def entriesAlong : Location → List String → IO (List (Location × Entry))
  | _, [] => pure []
  | l, name :: rest =>
    if name = ".." then entriesAlong (Disk.parentOf l) rest
    else do
      let here := l ++ [name]
      match ← entryAt? here with
      | none => pure []
      | some (.link target) =>
        let final := (Path.ofString target).parts
        let found := (← entryAt? final).map fun e => (final, e)
        pure ((here, .link target) :: above final ++ found.toList ++ (← entriesAlong final rest))
      | some e => pure ((here, e) :: (← entriesAlong here rest))

def addEntries (read : List (Location × Entry)) (d : Disk) : Disk :=
  { d with entries := Keyed.putAll read d.entries }

def addPath (d : Disk) (p : Path) : IO Disk := do
  let base := if p.isAbsolute then [] else d.cwd
  pure (addEntries (← entriesAlong base p.parts) d)

/-- Adds the places of a command line until the picture shows no new ones. -/
partial def addPlaces (args : List String) (environ : Table) (known : List Path) (s : Session) :
    IO Session := do
  match (Command.places args environ s).filter fun p => !known.contains p with
  | [] => pure s
  | new =>
    let disk ← new.foldlM addPath s.disk
    addPlaces args environ (new ++ known) { s with disk := disk }

def readSession (args : List String) (environ : Table) (home : Home) (now : String) : IO Session := do
  let cwd := (← locationOf? ".").getD []
  let start : Disk := { entries := above cwd ++ [(cwd, .directory)], cwd := cwd }
  let s ← addPlaces args environ [] { disk := start, home := home, journal := { now := now } }
  match Command.emptied? args environ s with
  | none => pure s
  | some output => pure { s with disk := addEntries (← entriesFrom output.parts) s.disk }

/-- Takes an entry away that the new state does not have, or has in another form. -/
def clear (new : Disk) (l : Location) (e : Entry) : IO Unit :=
  match e, new.get? l with
  | .directory, some .directory => pure ()
  | .directory, _ => IO.FS.removeDir (pathText l)
  | .file _, some (.file _) => pure ()
  | .link _, some (.link _) => pure ()
  | _, _ => IO.FS.removeFile (pathText l)

def place (old : Disk) (l : Location) (e : Entry) : IO Unit :=
  if old.get? l = some e then pure ()
  else
    match e with
    | .directory => IO.FS.createDir (pathText l)
    | .file bytes => IO.FS.writeBinFile (pathText l) bytes.toByteArray
    | .link _ => pure ()

/-- Brings the disk from one state to another: what goes is removed from below, what comes is made
from above. -/
def commit (old new : Disk) : IO Unit := do
  let depth (p q : Location × Entry) : Bool := p.1.length ≤ q.1.length
  for (l, e) in (old.entries.mergeSort depth).reverse do
    clear new l e
  for (l, e) in new.entries.mergeSort depth do
    place old l e

def readAccounts : IO (List (String × Path)) := do
  try
    let text ← IO.FS.readFile "/etc/passwd"
    pure ((text.splitOn "\n").filterMap fun line =>
      match line.splitOn ":" with
      | name :: _ :: _ :: _ :: _ :: home :: _ => some (name, Path.ofString home)
      | _ => none)
  catch _ => pure []

def readHome : IO Home := do
  pure { own := Home.ofVariable ((← IO.getEnv "HOME").getD ""), accounts := ← readAccounts }

def readEnvironment : IO Table := do
  [levelVariable, outputDirVariable, rootLabelVariable].filterMapM fun name => do
    pure ((← IO.getEnv name).map fun value => (name, .str value))

def readNow : IO String := do
  let t ← Std.Time.Timestamp.now
  pure ((Std.Time.DateTime.ofTimestamp t .UTC).format "uuuu-MM-dd'T'HH:mm:ss.SSSSSS'Z'")

def conclude (request : Command.Request) (r : Command.Report) : IO UInt32 := do
  match request with
  | .help => IO.print (String.join (Command.usage.map (· ++ "\n")))
  | .misuse => IO.eprint (String.join (Command.usage.map (· ++ "\n")))
  | _ => IO.print r.text
  pure (UInt32.ofNat r.exitCode)

def runProgram (args : List String) : IO UInt32 := do
  let environ ← readEnvironment
  let session ← readSession args environ (← readHome) (← readNow)
  match Command.run args environ session with
  | .ok report s =>
    commit session.disk s.disk
    conclude (Command.request args) report
  | .error e s =>
    commit session.disk s.disk
    IO.eprintln e.message
    pure 1

end Bundler.Main

def main (args : List String) : IO UInt32 :=
  Bundler.Main.runProgram args
