import Bundler.Toml.Reader

/-!
# Bundler.Toml.Document

Whole configuration texts: statements on lines of their own, each a key with its value, the header of
a table, or the header of a further table in a list.

* `Draft`: the tables read so far and what may no longer be changed.
* `parse`: the table that a text writes, or its first problem and the place of it.
-/

namespace Bundler.Toml

/-- What has been read. A frozen key and all below it cannot be changed; an explicit key cannot be
opened by a header; a pending key becomes explicit with the next header. -/
structure Draft where
  data : Table := []
  header : Key := []
  frozen : List Key := []
  explicit : List Key := []
  pending : List Key := []

namespace Draft

def closeSection (d : Draft) : Draft :=
  { d with explicit := d.pending ++ d.explicit, pending := [] }

def openTable (d : Draft) (key : Key) : Except Problem Draft :=
  if d.explicit.contains key || isFrozen d.frozen key then .error (.declaredTwice key)
  else
    (Nest.update true .ok key d.data).map fun data =>
      { d with data := data, header := key, explicit := key :: d.explicit }

def appendToList (k : String) (t : Table) : Except Problem Table :=
  match t.lookup k with
  | none => .ok (Keyed.put k (.list [.table []]) t)
  | some (.list vs) => .ok (Keyed.put k (.list (vs ++ [.table []])) t)
  | some _ => .error .overwritten

/-- Opens a further table in the list with the given key. What was said about keys below it concerned
the table before. -/
def openListItem (d : Draft) (key : Key) : Except Problem Draft :=
  if isFrozen d.frozen key then .error (.immutable key)
  else
    let outside (k : Key) : Bool := !key.isPrefixOf k
    (Nest.update true (appendToList (key.getLastD "")) key.dropLast d.data).map fun data =>
      { d with
        data := data, header := key, frozen := d.frozen.filter outside
        explicit := key :: d.explicit.filter outside }

/-- The keys of the tables that a dotted key passes through. -/
def passedKeys (header key : Key) : List Key :=
  (List.range (key.length - 1)).map fun i => header ++ key.take (i + 1)

def setKey (d : Draft) (key : Key) (v : Value) : Except Problem Draft :=
  let passed := passedKeys d.header key
  match passed.find? d.explicit.contains with
  | some k => .error (.redefined k)
  | none =>
    let parent := d.header ++ key.dropLast
    if parent != [] && isFrozen d.frozen parent then .error (.immutable parent)
    else
      (Nest.update true (Nest.setNew .overwritten (key.getLastD "") v) parent d.data).map fun data =>
        { d with
          data := data, pending := passed ++ d.pending
          frozen := if isContainer v then (d.header ++ key) :: d.frozen else d.frozen }

end Draft

/-! ## Statements -/

def settle (r : Except Problem Draft) (s : List Char) : Except Stop Draft :=
  match r with
  | .ok d => .ok d
  | .error problem => stop problem s

def readKeyValue (d : Draft) (s : List Char) : Step Draft :=
  match readKey s with
  | .error e => .error e
  | .ok (key, rest) =>
    match skipEquals rest with
    | .error e => .error e
    | .ok rest =>
      match readValue rest with
      | .error e => .error e
      | .ok (v, rest) => (settle (d.setKey key v) rest).map fun d => (d, rest)

def readTableHeader (d : Draft) (s : List Char) : Step Draft :=
  match readKey (skipSpaces s) with
  | .error e => .error e
  | .ok (key, rest) =>
    match settle (d.closeSection.openTable key) rest with
    | .error e => .error e
    | .ok d =>
      match rest with
      | ']' :: rest => .ok (d, rest)
      | rest => stop .expectedTableEnd rest

def readListHeader (d : Draft) (s : List Char) : Step Draft :=
  match readKey (skipSpaces s) with
  | .error e => .error e
  | .ok (key, rest) =>
    match settle (d.closeSection.openListItem key) rest with
    | .error e => .error e
    | .ok d =>
      match rest with
      | ']' :: ']' :: rest => .ok (d, rest)
      | rest => stop .expectedArrayEnd rest

def readStatement (d : Draft) (s : List Char) : Step Draft :=
  match s with
  | '[' :: '[' :: rest => readListHeader d rest
  | '[' :: rest => readTableHeader d rest
  | '#' :: _ => .ok (d, s)
  | c :: _ => if isKeyStart c then readKeyValue d s else stop .invalidStatement s
  | [] => .ok (d, [])

/-- The statements of a text; `fuel` bounds the number of lines. -/
def statementsFrom : (fuel : Nat) → Draft → List Char → Except Stop Draft
  | 0, d, _ => .ok d
  | fuel + 1, d, s =>
    match skipSpaces s with
    | [] => .ok d
    | '\n' :: rest => statementsFrom fuel d rest
    | s =>
      match readStatement d s with
      | .error e => .error e
      | .ok (d, rest) =>
        match skipComment (skipSpaces rest) with
        | .error e => .error e
        | .ok [] => .ok d
        | .ok ('\n' :: rest) => statementsFrom fuel d rest
        | .ok rest => stop .expectedNewline rest

/-- The text with a carriage return before a line feed left out. -/
def joinLineEnds : List Char → List Char
  | [] => []
  | '\r' :: '\n' :: s => '\n' :: joinLineEnds s
  | c :: s => c :: joinLineEnds s

/-- The table that a configuration text writes, or its first problem and the place of it. -/
def parse (text : String) : Except Error Table :=
  let source := joinLineEnds text.toList
  match statementsFrom (source.length + 1) {} source with
  | .ok d => .ok d.data
  | .error e => .error ⟨e.problem, Place.of source e.left⟩

end Bundler.Toml
