import Bundler.Disk.Change
import Bundler.Journal.Entry
import Bundler.Source
import Bundler.Store

/-!
# Bundler.Bundle

The bundle: one file with the fragments of all components of a store. The component found last comes
first, so that the root comes last. Writing adds to the end of the file; the number of bytes added by
the last successful writing is kept.

* `Bundle.fragments`: what a store contributes, in the order of the bundle.
* `Bundle.write`: the fragments added to the file.
-/

namespace Bundler

structure Bundle where
  directory : Path
  file : Path
  bytesWritten : Nat := 0
deriving Repr, DecidableEq

namespace Bundle

def inDirectory (directory : Path) (name : String) : Bundle :=
  { directory := directory, file := directory / name }

def fragmentsOf : List Component → Except Failure (List String)
  | [] => .ok []
  | c :: cs =>
    match c.fragment with
    | none => .error ⟨.other "Component has no generated instance", c.label, c.path⟩
    | some f =>
      match fragmentsOf cs with
      | .error e => .error e
      | .ok fs => .ok (f :: fs)

/-- The fragments of a store, last component first. -/
def fragments (s : Store) : Except Failure (List String) :=
  fragmentsOf s.records.reverse

def bytesOf (fs : List String) : List UInt8 :=
  fs.flatMap Text.Utf8.encode

structure Written where
  result : Except BuildError Path
  bundle : Bundle
  entries : List Journal.Entry
  disk : Disk

def writtenEntry (b : Bundle) (components : Nat) : Journal.Entry :=
  ⟨.info, "output-written",
    [("path", .str b.file.text), ("components", .int components), ("bytes", .int b.bytesWritten)]⟩

def failedEntry (b : Bundle) (e : FileError) : Journal.Entry :=
  ⟨.error, "output-write-failed", [("path", .str b.file.text), ("error", .str e.message)]⟩

def append (b : Bundle) (bytes : List UInt8) : DiskM Unit := do
  Disk.makeDirectories b.directory
  Disk.appendFile b.file bytes

/-- Adds the fragments of a store to the bundle. Nothing happens when one is missing. -/
def write (b : Bundle) (s : Store) (d : Disk) : Written :=
  match fragments s with
  | .error f => ⟨.error (.failure f), b, [], d⟩
  | .ok fs =>
    let bytes := bytesOf fs
    match b.append bytes d with
    | .ok _ d =>
      let b := { b with bytesWritten := bytes.length }
      ⟨.ok b.file, b, [b.writtenEntry fs.length], d⟩
    | .error e d =>
      let b := { b with bytesWritten := 0 }
      if e.isSystem then
        ⟨.error (.failure ⟨.outputWrite ("Failed to write bundle: " ++ e.message), none, b.file⟩), b,
          [b.failedEntry e], d⟩
      else ⟨.error (.file e), b, [], d⟩

end Bundle

end Bundler
