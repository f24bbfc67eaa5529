import Bundler.Path
import Bundler.Text.Blank
import Bundler.Text.Quoted

/-!
# Bundler.Failure

The failures that end a build. A failure has a cause and, where they are known, the label and the
path of the component concerned; its message is the reason followed by that context.
-/

namespace Bundler

namespace Failure

inductive Cause where
  | missingSection (name : String)
  | malformedSection (name detail : String)
  /-- A line that begins with the word `import` declares nothing. -/
  | malformedImport (line : String) (number : Int)
  | unreadableSource (reason : String)
  | outputWrite (reason : String)
  | other (reason : String)
deriving Repr, DecidableEq

def Cause.reason : Cause → String
  | .missingSection name => "Missing <" ++ name ++ "> section"
  | .malformedSection name detail => "Malformed <" ++ name ++ "> section: " ++ detail
  | .malformedImport line number =>
    "Malformed import on line " ++ toString number ++ ": " ++ Text.quoted (Text.trimBlank line)
  | .unreadableSource reason => reason
  | .outputWrite reason => reason
  | .other reason => reason

end Failure

structure Failure where
  cause : Failure.Cause
  label : Option String := none
  path : Option Path := none
deriving Repr, DecidableEq

namespace Failure

def reason (f : Failure) : String :=
  f.cause.reason

def context (f : Failure) : List String :=
  (f.label.map fun l => "component=" ++ Text.quoted l).toList ++
    (f.path.map fun p => "path=" ++ p.text).toList

def message (f : Failure) : String :=
  match f.context with
  | [] => f.reason
  | cs => f.reason ++ " (" ++ String.intercalate ", " cs ++ ")"

end Failure

end Bundler
