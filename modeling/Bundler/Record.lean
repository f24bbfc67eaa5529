import Bundler.Fault
import Bundler.Keyed

/-!
# Bundler.Record

Changing records by name. A record has fields, which take checked values. Besides them it has notes,
whose names begin with an underscore; they take any value and show nowhere. A path of names leads
through fields and notes to the place that is set; the values there have no fields of their own.

What a name means beyond that is laid down by the surroundings (`Innate`): they may give names to
records and to values that can be followed but not set.

* `Draft`: a record with its notes.
* `assignAt`: the value at the end of a path set anew.
-/

namespace Bundler.Record

/-- How the surroundings give a name, which says what happens when it is set. A name may belong to all
records of a kind, stand for the kind itself or for all fields together, be the same for all values of
a sort, or be a part that such values are made of. -/
inductive Trait where
  | ordinary
  | computed
  | shared
  | kind
  | fields
  | inherited
  | part (owner : String)
deriving Repr, DecidableEq

/-- A name that the surroundings give, with the sort of the value that it leads to. Without a sort it
leads to something that takes every name. -/
structure Innate where
  trait : Trait
  holds : Option String
deriving Repr, DecidableEq

/-- The names that the surroundings give, by the sort of a value or the kind of a record. -/
abbrev Surroundings := String → String → Option Innate

inductive Refusal where
  | invalid (e : Invalid)
  | unknown (kind name : String)
  | missing (sort name : String)
  | computed (kind name : String)
  | shared (kind name : String)
  | noKind (sort : String)
  | noFields (sort : String)
  | inherited (sort name : String)
  | part (owner name : String)

def Refusal.message : Refusal → String
  | .invalid e => e.message
  | .unknown kind name => Text.quoted kind ++ " object has no attribute " ++ Text.quoted name
  | .missing sort name => "'" ++ sort ++ "' object has no attribute '" ++ name ++ "'"
  | .computed kind name => "property '" ++ name ++ "' of '" ++ kind ++ "' object has no setter"
  | .shared kind name =>
    Text.quoted name ++ " is a ClassVar of `" ++ kind ++ "` and cannot be set on an instance. " ++
      "If you want to set a value on the class, use `" ++ kind ++ "." ++ name ++ " = value`."
  | .noKind sort => "__class__ must be set to a class, not '" ++ sort ++ "' object"
  | .noFields sort => "__dict__ must be set to a dictionary, not a '" ++ sort ++ "'"
  | .inherited sort name => "'" ++ sort ++ "' object attribute '" ++ name ++ "' is read-only"
  | .part owner name => "attribute '" ++ name ++ "' of '" ++ owner ++ "' objects is not writable"

/-- What has become of an assignment. It is `unreachable` when the path breaks off before its end. -/
inductive Outcome (α : Type) where
  | done (a : α)
  | refused (r : Refusal)
  | unreachable (r : Refusal)

def Outcome.map {α β : Type} (f : α → β) : Outcome α → Outcome β
  | .done a => .done (f a)
  | .refused r => .refused r
  | .unreachable r => .unreachable r

structure Kind (α : Type) where
  name : String
  assign : α → String → Value → Checked α
  sortOf? : String → Option String

structure Draft (α : Type) where
  record : α
  notes : Table := []

def isNote (name : String) : Bool :=
  name.toList.head? == some '_'

def Trait.refusal? (sort name : String) (v : Value) : Trait → Option Refusal
  | .ordinary => none
  | .computed => some (.computed sort name)
  | .shared => some (.shared sort name)
  | .kind => some (.noKind v.sort)
  | .fields => if v matches .table _ then none else some (.noFields v.sort)
  | .inherited => some (.inherited sort name)
  | .part owner => some (.part owner name)

/-- The assignment along a path that starts at a value of some sort. Nothing can be set there. -/
def assignBelow (given : Surroundings) (v : Value) (sort : String) : List String → Outcome Unit
  | [] => .done ()
  | name :: rest =>
    match given sort name, rest with
    | none, [] => .refused (.missing sort name)
    | none, _ :: _ => .unreachable (.missing sort name)
    | some i, [] => .refused ((i.trait.refusal? sort name v).getD (.missing sort name))
    | some i, _ :: _ =>
      match i.holds with
      | none => .done ()
      | some sort => assignBelow given v sort rest

variable {α : Type}

def assign (k : Kind α) (given : Surroundings) (d : Draft α) (name : String) (v : Value) :
    Outcome (Draft α) :=
  match (given k.name name).bind fun i => i.trait.refusal? k.name name v with
  | some r => .refused r
  | none =>
    if isNote name then .done { d with notes := Keyed.put name v d.notes }
    else
      match k.assign d.record name v with
      | .ok a => .done { d with record := a }
      | .error fs => .refused (.invalid ⟨k.name, fs⟩)

/-- The sort of what a name of a record leads to; `some none` takes every name. -/
def follow? (k : Kind α) (given : Surroundings) (d : Draft α) (name : String) :
    Option (Option String) :=
  match k.sortOf? name, d.notes.lookup name, given k.name name with
  | some sort, _, _ => some (some sort)
  | none, some v, _ => some (some v.sort)
  | none, none, some i => some i.holds
  | none, none, none => none

def assignAt (k : Kind α) (given : Surroundings) (d : Draft α) (v : Value) :
    List String → Outcome (Draft α)
  | [] => .done d
  | [name] => assign k given d name v
  | name :: rest =>
    match follow? k given d name with
    | none => .unreachable (.unknown k.name name)
    | some none => .done d
    | some (some sort) => (assignBelow given v sort rest).map fun _ => d

end Bundler.Record
