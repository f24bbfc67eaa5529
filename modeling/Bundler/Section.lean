import Bundler.Component
import Bundler.Failure
import Bundler.Text.Blank
import Bundler.Text.Word

/-!
# Bundler.Section

The sections of a component source: template, script and style. A section begins after the first tag
with its name and ends before the next such tag, or with the source. Tags are not nested and an
opening tag is not told from a closing one.

A tag is a `<`, then characters that belong to no word, then the name, then either `>` at once or a
blank character and everything up to the next `>`; where several readings are possible the one with
the most characters before the name holds.

* `body? name source`, `bodyOf name source`: the text of a section.
* `shrink`, `squeeze`: the two ways in which blank characters are removed.
* `Sections.extract`: all three sections of a source, shortened.
-/

namespace Bundler

inductive Section where
  | template
  | script
  | style
deriving Repr, DecidableEq

namespace Section

def name : Section → String
  | .template => "template"
  | .script => "script"
  | .style => "style"

/-- All sections, in the order in which they are taken from a source. -/
def all : List Section :=
  [.template, .script, .style]

def ofName? (s : String) : Option Section :=
  all.find? fun k => k.name == s

/-! ## Tags -/

def closeTail? : List Char → Option (List Char)
  | [] => none
  | c :: s =>
    if c = '>' then some s
    else if Text.isBlank c then
      match s.dropWhile (· != '>') with
      | [] => none
      | _ :: rest => some rest
    else none

def nameTail? (name s : List Char) : Option (List Char) :=
  match name.isPrefixOf? s with
  | some rest => closeTail? rest
  | none => none

/-- What follows a tag whose `<` has just been read. The longest run of characters before the name
is tried first. -/
def tagTail? (name : List Char) : List Char → Option (List Char)
  | [] => nameTail? name []
  | c :: s =>
    if Text.isWord c then nameTail? name (c :: s)
    else
      match tagTail? name s with
      | some rest => some rest
      | none => nameTail? name (c :: s)

def tagHere? (name : List Char) : List Char → Option (List Char)
  | [] => none
  | c :: s => if c = '<' then tagTail? name s else none

def firstTag? (name : List Char) : List Char → Option (List Char × List Char)
  | [] => none
  | c :: s =>
    match tagHere? name (c :: s) with
    | some rest => some ([], rest)
    | none =>
      match firstTag? name s with
      | some (before, rest) => some (c :: before, rest)
      | none => none

/-- The text between the first tag and the next one, or the end; `none` without a tag. -/
def body? (name source : List Char) : Option (List Char) :=
  match firstTag? name source with
  | none => none
  | some (_, rest) =>
    match firstTag? name rest with
    | some (body, _) => some body
    | none => some rest

/-- The text of the section under a name, which may be any text; without a tag the section is missing. -/
def bodyOf (name : String) (source : List Char) : Except Failure.Cause (List Char) :=
  match body? name.toList source with
  | none => .error (.missingSection name)
  | some body => .ok body

/-! ## Blank characters -/

def startsBlank : List Char → Bool
  | [] => false
  | c :: _ => Text.isBlank c

/-- The text without line feeds and runs of blank characters; `dropping` says whether the
characters before it belong to such a run. -/
def shrinkFrom : (dropping : Bool) → List Char → List Char
  | _, [] => []
  | dropping, c :: s =>
    if !Text.isBlank c then c :: shrinkFrom false s
    else if dropping then shrinkFrom true s
    else if c = '\n' then shrinkFrom false s
    else if startsBlank s then shrinkFrom true s
    else c :: shrinkFrom false s

/-- The text without line feeds and without runs of two or more blank characters. -/
def shrink (s : List Char) : List Char :=
  shrinkFrom false s

def squeeze (s : List Char) : List Char :=
  s.filter fun c => !Text.isBlank c

/-! ## Extraction -/

/-- The text strictly between the first opening brace and the last closing brace. -/
def objectBody (s : List Char) : Except Failure.Cause (List Char) :=
  match s.dropWhile (· != '{') with
  | [] => .error (.malformedSection "script" "no opening brace")
  | _ :: rest =>
    match rest.reverse.dropWhile (· != '}') with
    | [] => .error (.malformedSection "script" "closing brace precedes opening brace")
    | _ :: inner => .ok inner.reverse

def reduce : Section → List Char → Except Failure.Cause (List Char)
  | .template, s => .ok (shrink s)
  | .script, s => objectBody (squeeze s)
  | .style, s => .ok (squeeze s)

def extract (k : Section) (source : List Char) : Except Failure.Cause (List Char) :=
  match body? k.name.toList source with
  | none => .error (.missingSection k.name)
  | some body => k.reduce body

def extract? (optional : List Section) (k : Section) (source : List Char) :
    Except Failure.Cause (Option (List Char)) :=
  match body? k.name.toList source with
  | none => if k ∈ optional then .ok none else .error (.missingSection k.name)
  | some body =>
    match k.reduce body with
    | .ok s => .ok (some s)
    | .error cause => .error cause

end Section

structure Sections where
  template : Option String
  script : Option String
  style : Option String
deriving Repr, DecidableEq

namespace Sections

/-- Takes template, script and style from a source; the first one that cannot be taken is the
cause of failure. -/
def extract (optional : List Section) (source : String) : Except Failure.Cause Sections :=
  match Section.template.extract? optional source.toList with
  | .error cause => .error cause
  | .ok template =>
    match Section.script.extract? optional source.toList with
    | .error cause => .error cause
    | .ok script =>
      match Section.style.extract? optional source.toList with
      | .error cause => .error cause
      | .ok style =>
        .ok ⟨template.map String.ofList, script.map String.ofList, style.map String.ofList⟩

def fill (s : Sections) (c : Component) : Component :=
  { c with template := s.template, script := s.script, style := s.style, extracted := true }

end Sections

end Bundler
