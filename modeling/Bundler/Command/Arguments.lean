/-!
# Bundler.Command.Arguments

Options and other arguments of a command line. A long option has its value behind an equals sign or
in the next argument, a short option behind its letter or in the next argument; short options without
a value can stand together. Two dashes end the options.

* `OptionForm`: the names of an option and whether it takes a value.
* `parse?`: the options given, in order, and the other arguments.
-/

namespace Bundler.Command

/-- An option under its key. An option without `flag` takes a value; otherwise `flag` is the value
that naming it gives. -/
structure OptionForm where
  key : String
  names : List String
  flag : Option String := none
deriving Repr, DecidableEq

structure Arguments where
  options : List (String × String) := []
  others : List String := []
deriving Repr, DecidableEq

namespace Arguments

/-- The value of an option; the last one given holds. -/
def get? (a : Arguments) (key : String) : Option String :=
  a.options.reverse.lookup key

def has (a : Arguments) (key : String) : Bool :=
  (a.get? key).isSome

def addOptions (new : List (String × String)) (a : Arguments) : Arguments :=
  { a with options := new ++ a.options }

end Arguments

def isOption (arg : String) : Bool :=
  match arg.toList with
  | '-' :: _ :: _ => true
  | _ => false

def isLong (arg : String) : Bool :=
  match arg.toList with
  | '-' :: '-' :: _ => true
  | _ => false

def find? (forms : List OptionForm) (name : String) : Option OptionForm :=
  forms.find? fun f => f.names.contains name

/-- The name of a long option, and the value behind an equals sign. -/
def splitLong (arg : String) : String × Option String :=
  let cs := arg.toList
  match cs.dropWhile (· != '=') with
  | [] => (arg, none)
  | _ :: value => (String.ofList (cs.takeWhile (· != '=')), some (String.ofList value))

/-- What one argument with options says: options with their values, and the key of an option that
takes the next argument as its value. -/
structure Reading where
  options : List (String × String)
  awaits : Option String

def readLong? (forms : List OptionForm) (arg : String) : Option Reading :=
  let (name, value) := splitLong arg
  match find? forms name with
  | none => none
  | some f =>
    match f.flag, value with
    | some v, none => some ⟨[(f.key, v)], none⟩
    | some _, some _ => none
    | none, some v => some ⟨[(f.key, v)], none⟩
    | none, none => some ⟨[], some f.key⟩

def readShort? (forms : List OptionForm) : List Char → Option Reading
  | [] => some ⟨[], none⟩
  | c :: cs =>
    match find? forms (String.ofList ['-', c]) with
    | none => none
    | some f =>
      match f.flag with
      | some v =>
        match readShort? forms cs with
        | none => none
        | some r => some { r with options := (f.key, v) :: r.options }
      | none => if cs = [] then some ⟨[], some f.key⟩ else some ⟨[(f.key, String.ofList cs)], none⟩

def readOption? (forms : List OptionForm) (arg : String) : Option Reading :=
  if isLong arg then readLong? forms arg else readShort? forms (arg.toList.drop 1)

/-- The arguments of a command; `none` when an option is unknown, lacks its value or has one too
many. With `mixed` options can follow other arguments. -/
def parse? (forms : List OptionForm) (mixed : Bool) : List String → Option Arguments
  | [] => some {}
  | arg :: rest =>
    if arg = "--" then some { others := rest }
    else if isOption arg then
      match readOption? forms arg with
      | none => none
      | some ⟨options, none⟩ => (parse? forms mixed rest).map (·.addOptions options)
      | some ⟨options, some key⟩ =>
        match rest with
        | [] => none
        | value :: rest =>
          (parse? forms mixed rest).map (·.addOptions (options ++ [(key, value)]))
    else if mixed then
      (parse? forms mixed rest).map fun a => { a with others := arg :: a.others }
    else some { others := arg :: rest }

end Bundler.Command
