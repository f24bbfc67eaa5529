import Bundler.Path

/-!
# Bundler.Component

A component is one source file of a project under the label by which other components name it. It
begins with label and path; its sections and its fragment of the bundle are filled in when it is
compiled.
-/

namespace Bundler

/-- The two forms that a component takes in the bundle. -/
inductive Kind where
  | root
  | named
deriving Repr, DecidableEq

def Kind.text : Kind → String
  | .root => "root"
  | .named => "named"

structure Component where
  label : String
  path : Path
  isRoot : Bool := false
  template : Option String := none
  script : Option String := none
  style : Option String := none
  fragment : Option String := none
  extracted : Bool := false
deriving Repr, DecidableEq

def Component.kind (c : Component) : Kind :=
  if c.isRoot then .root else .named

end Bundler
