import Bundler.Text.Split

/-!
# Bundler.Path

Slash-separated path names. A path is an anchor and the parts after it; a part is neither empty nor
a single dot, so repeated slashes, dots and a slash at the end have no trace in a path.

* `Path.ofString`, `Path.text`: reading a path and writing it.
* `p / q`: `q` below `p`, or `q` alone when `q` has an anchor.
* `Path.normalize`: the path with every double dot taken out together with the part before it.
* `Path.locate root specifier`: the normal form of a specifier below a root.
-/

namespace Bundler

/-- What a path begins with: nothing, one slash, or exactly two slashes. -/
inductive Anchor where
  | none
  | single
  | double
deriving Repr, DecidableEq

/-- Three or more slashes count as one. -/
def Anchor.ofChars : List Char → Anchor
  | '/' :: '/' :: '/' :: _ => .single
  | '/' :: '/' :: _ => .double
  | '/' :: _ => .single
  | _ => .none

def Anchor.chars : Anchor → List Char
  | .none => []
  | .single => ['/']
  | .double => ['/', '/']

structure Path where
  anchor : Anchor
  parts : List String
deriving Repr, DecidableEq

namespace Path

def partsOf (s : List Char) : List String :=
  ((Text.fields (· == '/') s).filter fun w => w != [] && w != ['.']).map String.ofList

def ofString (s : String) : Path :=
  ⟨Anchor.ofChars s.toList, partsOf s.toList⟩

/-- The name of a path; the path without anchor and parts is a single dot. -/
def text (p : Path) : String :=
  match p.anchor, p.parts with
  | .none, [] => "."
  | a, ws => String.ofList (a.chars ++ Text.joinWith ['/'] (ws.map String.toList))

def isAbsolute (p : Path) : Bool :=
  p.anchor != .none

def append (p q : Path) : Path :=
  if q.isAbsolute then q else ⟨p.anchor, p.parts ++ q.parts⟩

instance : HDiv Path Path Path := ⟨append⟩

instance : HDiv Path String Path := ⟨fun p s => append p (ofString s)⟩

/-- One part taken onto a stack of parts, last part first. A double dot removes the part before it;
at the bottom it stays when the path has no anchor and vanishes otherwise. -/
def pushPart (anchored : Bool) (stack : List String) (part : String) : List String :=
  if part = ".." then
    match stack with
    | [] => if anchored then [] else [part]
    | top :: below => if top = ".." then part :: stack else below
  else part :: stack

/-- The path one level up, by name: a path without anchor leads out of where it starts. -/
def up (p : Path) : Path :=
  ⟨p.anchor, (pushPart p.isAbsolute p.parts.reverse "..").reverse⟩

/-- The path without double dots, except those that lead out of a path without anchor. -/
def normalize (p : Path) : Path :=
  ⟨p.anchor, (p.parts.foldl (pushPart p.isAbsolute) []).reverse⟩

/-- The file that a specifier names, always read from the project root. -/
def locate (root : Path) (specifier : String) : Path :=
  (root / specifier).normalize

def parent (p : Path) : Path :=
  ⟨p.anchor, p.parts.dropLast⟩

def name (p : Path) : String :=
  p.parts.getLastD ""

/-- Whether `p` is `base` or lies below it, by name. -/
def isBelow (p base : Path) : Bool :=
  p.anchor == base.anchor && base.parts.isPrefixOf p.parts

def hasNull (p : Path) : Bool :=
  p.parts.any fun s => s.toList.contains '\x00'

def ofParts (parts : List String) : Path :=
  ⟨.single, parts⟩

end Path

end Bundler
