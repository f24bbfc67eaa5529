import Bundler.Fault
import Bundler.Number.Integer
import Bundler.Number.Sum
import Bundler.Record

/-!
# Bundler.Metrics

The counters of a build.

* `Metrics.ofTable`, `Metrics.assign`: counters from checked values.
* `Metrics.checkCount`: an integer that is not negative, given as a number or as its text.
* `Metrics.recordDiscovered`: a number of components added to the counter of discovered ones.
-/

namespace Bundler

structure Metrics where
  discovered : Nat := 0
  compiled : Nat := 0
  importsSeen : Nat := 0
  duplicatesSkipped : Nat := 0
  bytesWritten : Nat := 0
deriving Repr, DecidableEq

namespace Metrics

/-- An integer, given as a number without a fraction or as a text. -/
def checkInteger (v : Value) : Checked Int :=
  match v with
  | .int n => .ok n
  | .bool b => .ok (if b then 1 else 0)
  | .float x =>
    if x.isFinite then
      match x.toInt? with
      | none => reject .intFromFloat v
      | some n => if -Int.pow 2 63 < n && n < Int.pow 2 63 then .ok n else reject .intParsingSize v
    else reject .finiteNumber v
  | .str s =>
    match Number.Integer.ofText s.toList with
    | .ok n => .ok n
    | .error .malformed => reject .intParsing v
    | .error .tooLong => reject .intParsingSize v
  | _ => reject .intType v

def checkCount (v : Value) : Checked Nat :=
  match checkInteger v with
  | .error fs => .error fs
  | .ok n => if n < 0 then reject .negative v else .ok n.toNat

def ofTable (t : Table) : Checked Metrics :=
  match
    Checked.field t "components_discovered" 0 checkCount,
    Checked.field t "components_compiled" 0 checkCount,
    Checked.field t "imports_seen" 0 checkCount,
    Checked.field t "duplicates_skipped" 0 checkCount,
    Checked.field t "bytes_written" 0 checkCount with
  | .ok a, .ok b, .ok c, .ok d, .ok e => .ok ⟨a, b, c, d, e⟩
  | a, b, c, d, e => .error (a.faults ++ b.faults ++ c.faults ++ d.faults ++ e.faults)

def assign (m : Metrics) (name : String) (v : Value) : Checked Metrics :=
  let count := (checkCount v).within (.field name)
  match name with
  | "components_discovered" => count.map fun n => { m with discovered := n }
  | "components_compiled" => count.map fun n => { m with compiled := n }
  | "imports_seen" => count.map fun n => { m with importsSeen := n }
  | "duplicates_skipped" => count.map fun n => { m with duplicatesSkipped := n }
  | "bytes_written" => count.map fun n => { m with bytesWritten := n }
  | _ => (reject (.noSuchAttribute name) v).within (.field name)

def toTable (m : Metrics) : Table :=
  [("components_discovered", .int m.discovered), ("components_compiled", .int m.compiled),
    ("imports_seen", .int m.importsSeen), ("duplicates_skipped", .int m.duplicatesSkipped),
    ("bytes_written", .int m.bytesWritten)]

def kind : Record.Kind Metrics :=
  { name := "BuildMetrics"
    assign := assign
    sortOf? := fun name => (({} : Metrics).toTable.lookup name).map Value.sort }

inductive CountError where
  | negative
  | incomparable (sort : String)
  /-- The counter is beyond the range of numbers with a fraction. -/
  | tooLarge
  | invalid (faults : List Fault)

def CountError.message : CountError → String
  | .negative => "count must be >= 0"
  | .incomparable sort => "'<' not supported between instances of '" ++ sort ++ "' and 'int'"
  | .tooLarge => "int too large to convert to float"
  | .invalid faults => Invalid.message ⟨"BuildMetrics", faults⟩

def increased (counter : Nat) : Value → Except CountError Value
  | .int n => if n < 0 then .error .negative else .ok (.int (counter + n))
  | .bool b => .ok (.int (counter + if b then 1 else 0))
  | .float x =>
    if x.isNegative then .error .negative
    else
      match Number.Binary64.ofInt? counter with
      | none => .error .tooLarge
      | some n => .ok (.float (n.add x))
  | v => .error (.incomparable v.sort)

/-- Counts further discovered components. The sum is checked as any value of the counter is. -/
def recordDiscovered (m : Metrics) (count : Value) : Except CountError Metrics :=
  match increased m.discovered count with
  | .error e => .error e
  | .ok v =>
    match m.assign "components_discovered" v with
    | .error faults => .error (.invalid faults)
    | .ok m => .ok m

end Metrics

end Bundler
