import Bundler.Component
import Bundler.Keyed

/-!
# Bundler.Store

Finished components under their labels, in the order of their first insertion. Writing a label again
replaces the component and keeps its place; `size` counts the insertions.
-/

namespace Bundler

/-- What all components of one build share. -/
structure Context where
  runtime : String
  rootLabel : String
  projectRoot : Path
deriving Repr, DecidableEq

structure Store where
  context : Context
  entries : List (String × Component) := []
  root : Option Component := none
  size : Nat := 0
deriving Repr, DecidableEq

namespace Store

def put (s : Store) (label : String) (c : Component) : Store :=
  { s with entries := Keyed.put label c s.entries, size := s.size + 1 }

def get? (s : Store) (label : String) : Option Component :=
  s.entries.lookup label

def labels (s : Store) : List String :=
  Keyed.keys s.entries

def records (s : Store) : List Component :=
  s.entries.map Prod.snd

/-- The path of the component under each label. -/
def paths (s : Store) : List (String × Path) :=
  s.entries.map fun p => (p.1, p.2.path)

def length (s : Store) : Nat :=
  s.entries.length

def contains (s : Store) (label : String) : Bool :=
  s.labels.contains label

end Store

end Bundler
