import Bundler.Component
import Bundler.Failure

/-!
# Bundler.Fragment

The fragment of the bundle that a component becomes: one statement after a line feed. The root
component makes an instance of the runtime, every other component is registered with it by its
label.
-/

namespace Bundler.Fragment

def options (template script : String) : String :=
  "\x7btemplate: `" ++ template ++ "`," ++ script ++ "\x7d"

def statement (kind : Kind) (runtime label template script : String) : String :=
  match kind with
  | .root => "\nconst " ++ label ++ " = new " ++ runtime ++ "(" ++ options template script ++ ")"
  | .named =>
    "\nconst " ++ label ++ " = " ++ runtime ++ ".component(\"" ++ label ++ "\", " ++
      options template script ++ ")"

/-- The fragment of a component whose sections have been taken; an absent section is empty. -/
def render (runtime : String) (c : Component) : Except Failure String :=
  if c.extracted then
    .ok (statement c.kind runtime c.label (c.template.getD "") (c.script.getD ""))
  else
    .error ⟨.other "Component sections must be extracted before instantiation", c.label, c.path⟩

end Bundler.Fragment
