/-!
# Bundler.Moment

Dates, times of day, and both together with an optional offset from universal time, as configuration
files hold them.

* `Moment.iso`: the text with dashes and colons.
* `Moment.expression`: the text by fields, in which messages show a moment.
-/

namespace Bundler

structure Date where
  year : Nat
  month : Nat
  day : Nat
deriving Repr, DecidableEq

/-- A time of day, down to the microsecond. -/
structure Clock where
  hour : Nat
  minute : Nat
  second : Nat
  micro : Nat
deriving Repr, DecidableEq

inductive Moment where
  | date (d : Date)
  | time (t : Clock)
  /-- The offset is in minutes; it is positive east of Greenwich. -/
  | datetime (d : Date) (t : Clock) (offset : Option Int)
deriving Repr, DecidableEq

/-- Decimal digits with leading zeros up to `width`. -/
def padded (width n : Nat) : String :=
  let ds := Nat.toDigits 10 n
  String.ofList (List.replicate (width - ds.length) '0' ++ ds)

namespace Date

def isLeap (year : Nat) : Bool :=
  year % 4 == 0 && (year % 100 != 0 || year % 400 == 0)

def daysIn (year : Nat) : (month : Nat) → Nat
  | 2 => if isLeap year then 29 else 28
  | 4 => 30
  | 6 => 30
  | 9 => 30
  | 11 => 30
  | _ => 31

/-- Whether the calendar has the day. -/
def isValid (d : Date) : Bool :=
  1 ≤ d.year && d.year ≤ 9999 && 1 ≤ d.month && d.month ≤ 12 && 1 ≤ d.day &&
    d.day ≤ daysIn d.year d.month

def iso (d : Date) : String :=
  padded 4 d.year ++ "-" ++ padded 2 d.month ++ "-" ++ padded 2 d.day

def fields (d : Date) : List Nat :=
  [d.year, d.month, d.day]

end Date

namespace Clock

def isValid (t : Clock) : Bool :=
  t.hour < 24 && t.minute < 60 && t.second < 60 && t.micro < 1000000

def iso (t : Clock) : String :=
  padded 2 t.hour ++ ":" ++ padded 2 t.minute ++ ":" ++ padded 2 t.second ++
    (if t.micro = 0 then "" else "." ++ padded 6 t.micro)

/-- The fields that are shown: seconds and microseconds only as far as they are not zero. -/
def fields (t : Clock) : List Nat :=
  [t.hour, t.minute] ++
    (if t.micro = 0 then if t.second = 0 then [] else [t.second] else [t.second, t.micro])

end Clock

namespace Moment

def offsetIso (minutes : Int) : String :=
  (if minutes < 0 then "-" else "+") ++ padded 2 (minutes.natAbs / 60) ++ ":" ++
    padded 2 (minutes.natAbs % 60)

def iso : Moment → String
  | .date d => d.iso
  | .time t => t.iso
  | .datetime d t offset => d.iso ++ "T" ++ t.iso ++ (offset.map offsetIso).getD ""

def fieldsText (ns : List Nat) : String :=
  String.intercalate ", " (ns.map toString)

/-- A span of time in whole days, which may be negative, and seconds of a day. -/
def offsetExpression (minutes : Int) : String :=
  if minutes = 0 then "datetime.timezone.utc"
  else
    let days := (minutes * 60).fdiv 86400
    let seconds := (minutes * 60).fmod 86400
    let parts :=
      (if days = 0 then [] else ["days=" ++ toString days]) ++
        (if seconds = 0 then [] else ["seconds=" ++ toString seconds])
    "datetime.timezone(datetime.timedelta(" ++ String.intercalate ", " parts ++ "))"

def expression : Moment → String
  | .date d => "datetime.date(" ++ fieldsText d.fields ++ ")"
  | .time t => "datetime.time(" ++ fieldsText t.fields ++ ")"
  | .datetime d t offset =>
    "datetime.datetime(" ++ fieldsText (d.fields ++ t.fields) ++
      (offset.map fun m => ", tzinfo=" ++ offsetExpression m).getD "" ++ ")"

end Moment

end Bundler
