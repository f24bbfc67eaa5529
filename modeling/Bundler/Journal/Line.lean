import Bundler.Journal.Entry

/-!
# Bundler.Journal.Line

Journal entries as lines of JSON: objects with their keys in order and all characters outside ASCII
escaped.

* `Json.write`: the text of a value.
* `Entry.line`: the line of an entry.
-/

namespace Bundler.Journal

namespace Json

def unitEscape (n : Nat) : List Char :=
  '\\' :: 'u' :: Text.hexDigits 4 n

def escapes : List (Char × Char) :=
  [('"', '"'), ('\\', '\\'), ('\n', 'n'), ('\r', 'r'), ('\t', 't'), ('\x0c', 'f'), ('\x08', 'b')]

/-- One character of a string; those beyond sixteen bits take two escapes. -/
def escapeChar (c : Char) : List Char :=
  match escapes.lookup c with
  | some letter => ['\\', letter]
  | none =>
    let n := c.toNat
    if 0x20 ≤ n && n ≤ 0x7e then [c]
    else if n < 0x10000 then unitEscape n
    else
      let m := n - 0x10000
      unitEscape (0xd800 + m / 0x400) ++ unitEscape (0xdc00 + m % 0x400)

def string (s : String) : String :=
  String.ofList ('"' :: (s.toList.flatMap escapeChar ++ ['"']))

def number : Number.Binary64 → String
  | .nan => "NaN"
  | .infinite negative => if negative then "-Infinity" else "Infinity"
  | x => x.text

def sortFields (fs : List (String × String)) : List (String × String) :=
  fs.mergeSort fun a b => a.1 ≤ b.1

def object (fs : List (String × String)) : String :=
  "\x7b" ++ String.intercalate ", " ((sortFields fs).map fun p => string p.1 ++ ": " ++ p.2) ++ "\x7d"

mutual

def write : Value → String
  | .null => "null"
  | .bool b => if b then "true" else "false"
  | .int n => toString n
  | .float x => number x
  | .str s => string s
  | .moment m => string m.expression
  | .list xs => "[" ++ String.intercalate ", " (writeList xs) ++ "]"
  | .table fs => object (writeFields fs)

def writeList : List Value → List String
  | [] => []
  | v :: vs => write v :: writeList vs

def writeFields : List (String × Value) → List (String × String)
  | [] => []
  | (k, v) :: fs => (k, write v) :: writeFields fs

end

end Json

/-- The line of an entry with the given level name: its fields, over which event, level and time
win. -/
def fieldsLine (event level timestamp : String) (fields : Table) : String :=
  Json.write (.table
    (Keyed.put "timestamp" (.str timestamp)
      (Keyed.put "level" (.str level) (Keyed.put "event" (.str event) fields)))) ++ "\n"

/-- The fields that ask for a trace of the program beside an entry. There is none to give, and they
are no part of the line. -/
def traceFields : List String :=
  ["exc_info", "stack_info"]

def Entry.line (timestamp : String) (e : Entry) : String :=
  fieldsLine e.event e.severity.name timestamp (e.fields.filter fun f => !traceFields.contains f.1)

end Bundler.Journal
