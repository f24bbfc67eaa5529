import Bundler.Disk.Basic

/-!
# Bundler.Disk.Resolve

The location that a path name stands for, with links replaced by their targets. Parts that do not
exist stay as they are, and a double dot after them takes the last one away.

* `Disk.resolve`: the absolute path without links.
* `Home.expand`: a path that begins at a home directory.
-/

namespace Bundler

namespace Disk

/-- Links met so far, under the names by which they were reached: where each leads, or nothing while
that is being found out. -/
abbrev Seen := List (Path × Option Path)

/-- The outcome of resolving names: a path, or, when the links go round, the link met again together
with the names after it. -/
inductive Resolved where
  | reached (path : Path) (seen : Seen)
  | looped (path : Path)

def linkAt? (d : Disk) (p : Path) : Option String :=
  match d.stat .itself p with
  | .ok (_, .link target) => some target
  | _ => none

/-- The path that names still to come make up; it has an anchor when they begin with a slash. -/
def remainder (rest : List String) : Path :=
  Path.ofString (String.intercalate "/" rest)

def baseOf (target : String) (p : Path) : Path :=
  if (Path.ofString target).isAbsolute then Path.ofParts [] else p

/-- Resolves names one after the other. The target of a link that was not met before is handed to
`follow`. -/
def resolveParts (d : Disk) (follow : Seen → Path → List String → Resolved) :
    Seen → Path → List String → Resolved
  | seen, p, [] => .reached p seen
  | seen, p, name :: rest =>
    if name = "" || name = "." then resolveParts d follow seen p rest
    else if name = ".." then resolveParts d follow seen p.up rest
    else
      let here : Path := ⟨p.anchor, p.parts ++ [name]⟩
      match d.linkAt? here with
      | none => resolveParts d follow seen here rest
      | some target =>
        match seen.lookup here with
        | some (some known) => resolveParts d follow seen known rest
        | some none => .looped (here / remainder rest)
        | none =>
          match follow ((here, none) :: seen) (baseOf target p) (targetParts target) with
          | .looped q => .looped (q / remainder rest)
          | .reached q seen => resolveParts d follow ((here, some q) :: seen) q rest

def resolveFrom (d : Disk) : (depth : Nat) → Seen → Path → List String → Resolved
  | 0 => resolveParts d fun _ p parts => .looped (p / remainder parts)
  | depth + 1 => resolveParts d (resolveFrom d depth)

/-- A depth of nested links that is enough for a path: a link is met at most once under each of its
names, and these differ in how far they lead up from the current directory. -/
def maxDepth (d : Disk) (p : Path) : Nat :=
  (d.entries.length + 1) * (d.cwd.length + d.lost.length + p.parts.length + 2)

def withoutLinks (d : Disk) (p : Path) : Path :=
  let start : Path := ⟨if p.isAbsolute then .single else .none, []⟩
  match resolveFrom d (d.maxDepth p) [] start p.parts with
  | .reached q _ => q
  | .looped q => q

def absolute (d : Disk) (p : Path) : Except FileError Path :=
  if p.isAbsolute then .ok p.normalize
  else d.cwdPath.map fun cwd => (cwd / p).normalize

def resolve (d : Disk) (p : Path) : Except FileError Path :=
  if p.hasNull then .error .nullByte
  else
    match d.absolute (d.withoutLinks p) with
    | .error e => .error e
    | .ok r =>
      match d.stat .followed r with
      | .error (.system .tooManyLinks _) => .error (.linkLoop r.text)
      | _ => .ok r

end Disk

/-! ## Home directories -/

structure Home where
  own : Option Path
  accounts : List (String × Path) := []
deriving Repr, DecidableEq

/-- The home directory that a variable names. A name of slashes only, or none at all, stands for the
root; a name that begins with a tilde itself leads nowhere. -/
def Home.ofVariable (value : String) : Option Path :=
  if value.toList.head? = some '~' then none
  else if value.toList.all (· == '/') then some (Path.ofParts [])
  else some (Path.ofString value)

def Home.expand (h : Home) (p : Path) : Except FileError Path :=
  match p.anchor, p.parts with
  | .none, part :: rest =>
    match part.toList with
    | '~' :: user =>
      if user.contains '\x00' then .error .nullByte
      else
        match (if user = [] then h.own else h.accounts.lookup (String.ofList user)) with
        | some base => .ok (base / (⟨.none, rest⟩ : Path))
        | none => .error .noHome
    | _ => .ok p
  | _, _ => .ok p

end Bundler
