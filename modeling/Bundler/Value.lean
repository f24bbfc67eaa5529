import Bundler.Keyed
import Bundler.Moment
import Bundler.Number.Integer
import Bundler.Text.Quoted

/-!
# Bundler.Value

Configuration values: what a configuration file, an environment or a command line can set. A table
keeps its keys in the order in which they were first set.

* `Value.text`: a value as messages show it.
* `Value.isWritable`: whether a value can be shown at all.
* `Value.isVoid`: whether a value says nothing.
* `Table.merge overlay base`: the overlay laid on the base, table by table.
-/

namespace Bundler

inductive Value where
  | null
  | bool (b : Bool)
  | int (n : Int)
  | float (x : Number.Binary64)
  | str (s : String)
  | moment (m : Moment)
  | list (xs : List Value)
  | table (fields : List (String × Value))

abbrev Table := List (String × Value)

instance : Inhabited Value := ⟨.null⟩

namespace Value

def sort : Value → String
  | .null => "NoneType"
  | .bool _ => "bool"
  | .int _ => "int"
  | .float _ => "float"
  | .str _ => "str"
  | .moment (.date _) => "date"
  | .moment (.time _) => "time"
  | .moment (.datetime ..) => "datetime"
  | .list _ => "list"
  | .table _ => "dict"

mutual

/-- The value as messages show it: quoted strings, lists in brackets, tables in braces. -/
def text : Value → String
  | .null => "None"
  | .bool b => if b then "True" else "False"
  | .int n => toString n
  | .float x => x.text
  | .str s => Text.quoted s
  | .moment m => m.expression
  | .list xs => "[" ++ String.intercalate ", " (texts xs) ++ "]"
  | .table fs => "\x7b" ++ String.intercalate ", " (fieldTexts fs) ++ "\x7d"

def texts : List Value → List String
  | [] => []
  | v :: vs => v.text :: texts vs

def fieldTexts : List (String × Value) → List String
  | [] => []
  | (k, v) :: fs => (Text.quoted k ++ ": " ++ v.text) :: fieldTexts fs

end

mutual

def isWritable : Value → Bool
  | .int n => Number.Integer.isWritable n
  | .list xs => allWritable xs
  | .table fs => fieldsWritable fs
  | _ => true

def allWritable : List Value → Bool
  | [] => true
  | v :: vs => v.isWritable && allWritable vs

def fieldsWritable : List (String × Value) → Bool
  | [] => true
  | (_, v) :: fs => v.isWritable && fieldsWritable fs

end

/-- Whether a value is null, false, zero or empty. -/
def isVoid : Value → Bool
  | .null => true
  | .bool b => !b
  | .int n => n == 0
  | .float x => x.isZero
  | .str s => s == ""
  | .moment _ => false
  | .list xs => xs.isEmpty
  | .table fs => fs.isEmpty

end Value

/-! ## Merging -/

mutual

/-- What a key holds after an overlay sets it to the first value: two tables are merged, and in
every other case the overlay's value replaces the old one. -/
def Value.onto : Value → Option Value → Value
  | .table overlay, some (.table base) => .table (Table.merge overlay base)
  | .table overlay, none => .table overlay
  | .table overlay, some _ => .table overlay
  | v, _ => v

def Table.mergeField : String × Value → Table → Table
  | (k, v), base => Keyed.put k (v.onto (base.lookup k)) base

def Table.merge : List (String × Value) → Table → Table
  | [], base => base
  | f :: fs, base => Table.merge fs (Table.mergeField f base)

end

end Bundler
