import Bundler.Text.Case
import Bundler.Text.Blank
import Bundler.Value

/-!
# Bundler.Journal.Entry

One entry of the build journal: a severity, the name of the event, and named values.

* `Severity.rank`: the number by which severities are compared.
* `levelOfName?`: the number that a level name stands for.
-/

namespace Bundler.Journal

inductive Severity where
  | debug
  | info
  | warning
  | error
  | critical
deriving Repr, DecidableEq

namespace Severity

def rank : Severity → Nat
  | .debug => 10
  | .info => 20
  | .warning => 30
  | .error => 40
  | .critical => 50

def name : Severity → String
  | .debug => "debug"
  | .info => "info"
  | .warning => "warning"
  | .error => "error"
  | .critical => "critical"

def all : List Severity :=
  [.debug, .info, .warning, .error, .critical]

def ofName? (s : String) : Option Severity :=
  all.find? fun v => v.name == s

end Severity

/-! ## Level names -/

def levelNames : List (String × Nat) :=
  [("CRITICAL", 50), ("FATAL", 50), ("ERROR", 40), ("WARN", 30), ("WARNING", 30), ("INFO", 20),
    ("DEBUG", 10), ("NOTSET", 0)]

/-- The level that a name stands for, whatever its case and the blanks around it. -/
def levelOfName? (name : String) : Option Nat :=
  levelNames.lookup (Text.upper (Text.trimBlank name))

def levelName (level : Int) : String :=
  if level = 50 then "critical"
  else if level = 40 then "error"
  else if level = 30 then "warning"
  else if level = 20 then "info"
  else if level = 10 then "debug"
  else if level = 0 then "notset"
  else "level " ++ toString level

structure Entry where
  severity : Severity
  event : String
  fields : Table := []

/-- The entry as a table: its fields, then the event and the severity, which win over fields of the
same name. -/
def Entry.toTable (e : Entry) : Table :=
  Keyed.put "log_level" (.str e.severity.name) (Keyed.put "event" (.str e.event) e.fields)

/-- The fields that the console shows below an entry, in this order. -/
def shownBelow : List String :=
  ["stack", "exception"]

/-- Why the console cannot show an entry: what stands below it is no text. -/
structure Unshown where
  sort : String
deriving Repr, DecidableEq

def Unshown.message (u : Unshown) : String :=
  "can only concatenate str (not \"" ++ u.sort ++ "\") to str"

def Entry.unshown? (e : Entry) : Option Unshown :=
  shownBelow.findSome? fun name =>
    match e.fields.lookup name with
    | none => none
    | some .null => none
    | some (.str _) => none
    | some v => some ⟨v.sort⟩

/-- The entry with the fields of a context, over which its own fields win. -/
def Entry.within (context : Table) (e : Entry) : Entry :=
  { e with fields := Keyed.putAll e.fields context }

end Bundler.Journal
