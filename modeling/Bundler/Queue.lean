import Bundler.Component
import Bundler.Keyed

/-!
# Bundler.Queue

Components that wait to be compiled, taken in the order in which they came.
-/

namespace Bundler

structure Queue where
  pending : List Component := []
deriving Repr, DecidableEq

namespace Queue

def push (q : Queue) (c : Component) : Queue :=
  ⟨q.pending ++ [c]⟩

def pushAll (q : Queue) (cs : List Component) : Queue :=
  ⟨q.pending ++ cs⟩

/-- The oldest component and the others; `none` when nothing waits. -/
def pop? (q : Queue) : Option (Component × Queue) :=
  match q.pending with
  | [] => none
  | c :: cs => some (c, ⟨cs⟩)

def labels (q : Queue) : List String :=
  q.pending.map Component.label

/-- The path under each label; a label that waits twice has its first place and its last path. -/
def paths (q : Queue) : List (String × Path) :=
  Keyed.putAll (q.pending.map fun c => (c.label, c.path)) []

def contains (q : Queue) (label : String) : Bool :=
  q.labels.contains label

def length (q : Queue) : Nat :=
  q.pending.length

end Queue

end Bundler
