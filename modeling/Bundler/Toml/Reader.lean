import Bundler.Toml.Scalar
import Bundler.Toml.Str

/-!
# Bundler.Toml.Reader

Keys and values of configuration texts.

* `readKey`: a dotted key.
* `Nest.update`: a change to the table that a key leads to.
* `readValue`: a value, with arrays and inline tables to any depth.
-/

namespace Bundler.Toml

/-! ## Keys -/

def isBareKeyChar (c : Char) : Bool :=
  c.isAlphanum || c == '-' || c == '_'

def isKeyStart (c : Char) : Bool :=
  isBareKeyChar c || c == '"' || c == '\''

def readKeyPart : List Char → Step String
  | [] => stop .invalidKeyStart []
  | c :: s =>
    if isBareKeyChar c then
      .ok (String.ofList ((c :: s).takeWhile isBareKeyChar), (c :: s).dropWhile isBareKeyChar)
    else if c = '\'' then (literalString s).map fun r => (String.ofList r.1, r.2)
    else if c = '"' then (basicString s).map fun r => (String.ofList r.1, r.2)
    else stop .invalidKeyStart (c :: s)

def readKeyParts : (fuel : Nat) → List Char → Step Key
  | 0, s => stop .invalidKeyStart s
  | fuel + 1, s =>
    match readKeyPart s with
    | .error e => .error e
    | .ok (part, rest) =>
      match skipSpaces rest with
      | '.' :: more =>
        match readKeyParts fuel (skipSpaces more) with
        | .error e => .error e
        | .ok (parts, rest) => .ok (part :: parts, rest)
      | rest => .ok ([part], rest)

def readKey (s : List Char) : Step Key :=
  readKeyParts (s.length + 1) s

/-! ## Tables within tables -/

/-- Changes the table that a key leads to; tables on the way that are absent are made. With
`throughLists` a list of tables stands for its last member. -/
def Nest.update (throughLists : Bool) (change : Table → Except Problem Table) :
    Key → Table → Except Problem Table
  | [], t => change t
  | k :: ks, t =>
    match t.lookup k with
    | none => (Nest.update throughLists change ks []).map fun sub => Keyed.put k (.table sub) t
    | some (.table sub) =>
      (Nest.update throughLists change ks sub).map fun sub => Keyed.put k (.table sub) t
    | some (.list vs) =>
      match throughLists, vs.getLast? with
      | true, some (.table sub) =>
        (Nest.update throughLists change ks sub).map fun sub =>
          Keyed.put k (.list (vs.dropLast ++ [.table sub])) t
      | _, _ => .error .overwritten
    | some _ => .error .overwritten

def Nest.setNew (taken : Problem) (k : String) (v : Value) (t : Table) : Except Problem Table :=
  if (t.lookup k).isSome then .error taken else .ok (Keyed.put k v t)

def isFrozen (frozen : List Key) (key : Key) : Bool :=
  frozen.any fun k => k.isPrefixOf key

/-- Whether a value is a list or a table, which later keys must not change. -/
def isContainer : Value → Bool
  | .list _ => true
  | .table _ => true
  | _ => false

/-! ## Values -/

/-- Strings and truth values, by their first character; `none` for anything else. -/
def readPlain? : List Char → Option (Step Value)
  | '"' :: '"' :: '"' :: s => some (strStep (multilineBasic s))
  | '"' :: s => some (strStep (basicString s))
  | '\'' :: '\'' :: '\'' :: s => some (strStep (multilineLiteral s))
  | '\'' :: s => some (strStep (literalString s))
  | 't' :: 'r' :: 'u' :: 'e' :: s => some (.ok (.bool true, s))
  | 'f' :: 'a' :: 'l' :: 's' :: 'e' :: s => some (.ok (.bool false, s))
  | _ => none
where
  strStep (r : Step (List Char)) : Step Value :=
    r.map fun x => (.str (String.ofList x.1), x.2)

def readScalar (s : List Char) : Step Value :=
  match readPlain? s with
  | some r => r
  | none =>
    match readMoment? s with
    | some r => r.map fun x => (.moment x.1, x.2)
    | none =>
      match readNumber? s with
      | some r => r
      | none => stop .invalidValue s

def skipEquals : List Char → Except Stop (List Char)
  | '=' :: s => .ok (skipSpaces s)
  | s => stop .expectedEquals s

mutual

/-- A value in front of a text; `fuel` bounds the number of values and of their parts. -/
def valueFrom : (fuel : Nat) → List Char → Step Value
  | 0, s => stop .invalidValue s
  | fuel + 1, s =>
    match s with
    | '[' :: rest =>
      match skipFiller false rest with
      | .error e => .error e
      | .ok (']' :: rest) => .ok (.list [], rest)
      | .ok rest => (itemsFrom fuel rest).map fun x => (.list x.1, x.2)
    | '{' :: rest =>
      match skipSpaces rest with
      | '}' :: rest => .ok (.table [], rest)
      | rest => (fieldsFrom fuel [] [] rest).map fun x => (.table x.1, x.2)
    | s => readScalar s

def itemsFrom : (fuel : Nat) → List Char → Step (List Value)
  | 0, s => stop .unclosedArray s
  | fuel + 1, s =>
    match valueFrom fuel s with
    | .error e => .error e
    | .ok (v, rest) =>
      match skipFiller false rest with
      | .error e => .error e
      | .ok (']' :: rest) => .ok ([v], rest)
      | .ok (',' :: rest) =>
        match skipFiller false rest with
        | .error e => .error e
        | .ok (']' :: rest) => .ok ([v], rest)
        | .ok rest => (itemsFrom fuel rest).map fun x => (v :: x.1, x.2)
      | .ok rest => stop .unclosedArray rest

/-- The fields of an inline table from a key on, up to the closing brace, laid on the fields before
them. -/
def fieldsFrom : (fuel : Nat) → (frozen : List Key) → Table → List Char → Step Table
  | 0, _, _, s => stop .unclosedInlineTable s
  | fuel + 1, frozen, t, s =>
    match readKey s with
    | .error e => .error e
    | .ok (key, rest) =>
      match skipEquals rest with
      | .error e => .error e
      | .ok rest =>
        match valueFrom fuel rest with
        | .error e => .error e
        | .ok (v, rest) =>
          if isFrozen frozen key then stop (.immutable key) rest
          else
            let stem := key.getLastD ""
            match Nest.update false (Nest.setNew (.duplicateInlineKey stem) stem v) key.dropLast t with
            | .error problem => stop problem rest
            | .ok t =>
              match skipSpaces rest with
              | '}' :: rest => .ok (t, rest)
              | ',' :: rest =>
                fieldsFrom fuel (if isContainer v then key :: frozen else frozen) t (skipSpaces rest)
              | rest => stop .unclosedInlineTable rest

end

def readValue (s : List Char) : Step Value :=
  valueFrom (2 * s.length + 2) s

end Bundler.Toml
