import Bundler.Failure
import Bundler.Journal.Entry
import Bundler.Text.Blank
import Bundler.Text.Lines

/-!
# Bundler.Declaration

Import declarations. A line whose first word is `import` declares a component: the second word is
its label, and the text between the first two quotation marks of the last word says where its source
lies, read from the project root.

* `scan root source`: the declarations of a source in line order.
* `resolve known ds`: the declarations with labels not seen before, and the clashes of the others.
* `resolveSource`: both for one source, with the clashes as journal entries.
-/

namespace Bundler

structure Declaration where
  label : String
  path : Path
  specifier : String
  line : Nat
deriving Repr, DecidableEq

namespace Declaration

/-- The quotation marks: the backtick, the apostrophe and the double mark, in any pairing. -/
def isQuoteMark (c : Char) : Bool :=
  c == '\x60' || c == '\'' || c == '"'

def enclosed? (w : List Char) : Option (List Char) :=
  match w.dropWhile fun c => !isQuoteMark c with
  | [] => none
  | _ :: rest =>
    match rest.dropWhile fun c => !isQuoteMark c with
    | [] => none
    | _ :: _ => some (rest.takeWhile fun c => !isQuoteMark c)

def keyword : List Char := "import".toList

/-- What the words of a line declare: `none` when the first is not the keyword. The label and the
specifier, or an error when one of them is missing. -/
def ofWords : List (List Char) → Option (Except Unit (List Char × List Char))
  | [] => none
  | w :: ws =>
    if w = keyword then
      match ws with
      | label :: last :: more =>
        match enclosed? ((last :: more).getLastD last) with
        | some (c :: s) => some (.ok (label, c :: s))
        | _ => some (.error ())
      | _ => some (.error ())
    else none

def scanLines (root : Path) (number : Nat) :
    List (List Char) → Except Failure.Cause (List Declaration)
  | [] => .ok []
  | line :: rest =>
    match ofWords (Text.words line) with
    | none => scanLines root (number + 1) rest
    | some (.error ()) => .error (.malformedImport (String.ofList line) number)
    | some (.ok (label, specifier)) =>
      match scanLines root (number + 1) rest with
      | .error cause => .error cause
      | .ok ds =>
        let specifier := String.ofList specifier
        .ok (⟨String.ofList label, root.locate specifier, specifier, number⟩ :: ds)

def scan (root : Path) (source : String) : Except Failure.Cause (List Declaration) :=
  scanLines root 1 (Text.lines source.toList)

/-! ## New labels -/

/-- A declaration that was dropped because its label is taken by another path. -/
structure Clash where
  label : String
  kept : Path
  ignored : Path
deriving Repr, DecidableEq

/-- The declarations whose label is neither known nor declared before, and the clashes of the
others, both in order. A known label may come without a path, and then never clashes. -/
def resolve (known : List (String × Option Path)) :
    List Declaration → List Declaration × List Clash
  | [] => ([], [])
  | d :: ds =>
    match known.lookup d.label with
    | none =>
      let r := resolve ((d.label, some d.path) :: known) ds
      (d :: r.1, r.2)
    | some kept =>
      let r := resolve known ds
      match kept with
      | none => r
      | some p => if p = d.path then r else (r.1, ⟨d.label, p, d.path⟩ :: r.2)

def Clash.entry (importer : Option Path) (c : Clash) : Journal.Entry :=
  ⟨.warning, "duplicate-label",
    [("label", .str c.label), ("kept", .str c.kept.text), ("ignored", .str c.ignored.text),
      ("importer", (importer.map fun p => .str p.text).getD .null)]⟩

/-! ## Sources -/

/-- The labels that are in use before a source is read, alone or with the path of each. -/
inductive Known where
  | labels (ls : List String)
  | paths (ps : List (String × Path))
deriving Repr, DecidableEq

def Known.entries : Known → List (String × Option Path)
  | .labels ls => ls.map fun l => (l, none)
  | .paths ps => ps.map fun p => (p.1, some p.2)

structure Resolution where
  result : Except Failure (List Declaration)
  entries : List Journal.Entry

/-- The declarations of a source whose labels are new. The clashes of the others are reported if there
is a journal; `label` and `importer` belong to the component whose source it is. -/
def resolveSource (root : Path) (known : Known) (label : Option String) (importer : Option Path)
    (journal : Bool) (source : String) : Resolution :=
  match scan root source with
  | .error cause => ⟨.error ⟨cause, label, importer⟩, []⟩
  | .ok ds =>
    let (new, clashes) := resolve known.entries ds
    ⟨.ok new, if journal then clashes.map (Clash.entry importer) else []⟩

end Declaration

end Bundler
