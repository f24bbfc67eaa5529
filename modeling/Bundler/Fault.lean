import Bundler.Value

/-!
# Bundler.Fault

Faults of configuration values. A fault says where in the value it lies, what is wrong there, and
which value was found. Checking a record collects the faults of all its fields.

* `Fault.Kind.code`, `Fault.Kind.message`: the name of a fault and its text.
* `Invalid.message`: the report of all faults of one record.
-/

namespace Bundler

namespace Fault

inductive Place where
  | field (name : String)
  | index (i : Nat)
deriving Repr, DecidableEq

def Place.text : Place → String
  | .field name => name
  | .index i => toString i

inductive Kind where
  | stringType
  | blank
  | outputNotRelative (value : String)
  | outputOutside (value : String)
  | boolParsing
  | boolType
  | tupleType
  | unknownSections (names : List String)
  | modelType
  | intType
  | intParsing
  | intParsingSize
  | intFromFloat
  | finiteNumber
  | negative
  | noSuchAttribute (name : String)
deriving Repr, DecidableEq

namespace Kind

def code : Kind → String
  | .stringType => "string_type"
  | .blank => "value_error"
  | .outputNotRelative _ => "value_error"
  | .outputOutside _ => "value_error"
  | .boolParsing => "bool_parsing"
  | .boolType => "bool_type"
  | .tupleType => "tuple_type"
  | .unknownSections _ => "value_error"
  | .modelType => "model_type"
  | .intType => "int_type"
  | .intParsing => "int_parsing"
  | .intParsingSize => "int_parsing_size"
  | .intFromFloat => "int_from_float"
  | .finiteNumber => "finite_number"
  | .negative => "greater_than_equal"
  | .noSuchAttribute _ => "no_such_attribute"

def message : Kind → String
  | .stringType => "Input should be a valid string"
  | .blank => "Value error, Build settings cannot be blank."
  | .outputNotRelative v =>
    "Value error, output_dir must be relative to the project root: " ++ Text.quoted v
  | .outputOutside v =>
    "Value error, output_dir must stay inside the project root: " ++ Text.quoted v
  | .boolParsing => "Input should be a valid boolean, unable to interpret input"
  | .boolType => "Input should be a valid boolean"
  | .tupleType => "Input should be a valid tuple"
  | .unknownSections names =>
    "Value error, Unknown component sections: " ++ String.intercalate ", " names
  | .modelType => "Input should be a valid dictionary or instance of BuildSettings"
  | .intType => "Input should be a valid integer"
  | .intParsing => "Input should be a valid integer, unable to parse string as an integer"
  | .intParsingSize => "Unable to parse input string as an integer, exceeded maximum size"
  | .intFromFloat => "Input should be a valid integer, got a number with a fractional part"
  | .finiteNumber => "Input should be a finite number"
  | .negative => "Input should be greater than or equal to 0"
  | .noSuchAttribute name => "Object has no attribute '" ++ name ++ "'"

end Kind

end Fault

structure Fault where
  place : List Fault.Place
  kind : Fault.Kind
  input : Value

namespace Fault

def here (kind : Kind) (input : Value) : Fault :=
  ⟨[], kind, input⟩

/-- The fault seen from one step further out. -/
def within (step : Place) (f : Fault) : Fault :=
  { f with place := step :: f.place }

/-! ## Reports -/

/-- The longest front of a text with at most `room` bytes. -/
def takeBytes (room : Nat) : List Char → List Char
  | [] => []
  | c :: s => if c.utf8Size ≤ room then c :: takeBytes (room - c.utf8Size) s else []

/-- A text of more than fifty bytes is shown by its first 25 and last 24 bytes, as far as they are
whole characters. -/
def shorten (s : String) : String :=
  if s.utf8ByteSize ≤ 50 then s
  else
    String.ofList (takeBytes 25 s.toList) ++ "..." ++
      String.ofList (takeBytes 24 s.toList.reverse).reverse

def inputText (v : Value) : String :=
  if v.isWritable then shorten v.text else "<unprintable " ++ v.sort ++ " object>"

/-- The fault in a report: its place on one line and its text on the next. -/
def report (f : Fault) : String :=
  String.intercalate "." (f.place.map Place.text) ++ "\n  " ++ f.kind.message ++ " [type=" ++
    f.kind.code ++ ", input_value=" ++ inputText f.input ++ ", input_type=" ++ f.input.sort ++ "]"

end Fault

structure Invalid where
  record : String
  faults : List Fault

def Invalid.message (e : Invalid) : String :=
  let n := e.faults.length
  let head :=
    toString n ++ (if n = 1 then " validation error for " else " validation errors for ") ++ e.record
  String.intercalate "\n" (head :: e.faults.map Fault.report)

abbrev Checked (α : Type) := Except (List Fault) α

namespace Checked

def faults {α : Type} : Checked α → List Fault
  | .ok _ => []
  | .error fs => fs

def within {α : Type} (step : Fault.Place) : Checked α → Checked α
  | .ok a => .ok a
  | .error fs => .error (fs.map (Fault.within step))

/-- The value of a field, checked; an absent field has its default. -/
def field {α : Type} (t : Table) (name : String) (default : α) (check : Value → Checked α) :
    Checked α :=
  match t.lookup name with
  | none => .ok default
  | some v => (check v).within (.field name)

end Checked

def reject {α : Type} (kind : Fault.Kind) (input : Value) : Checked α :=
  .error [Fault.here kind input]

end Bundler
