import Bundler.Toml.Blank

/-!
# Bundler.Toml.Str

Strings of configuration texts. A basic string stands between double marks and has escapes, a literal
string stands between apostrophes and has none; three marks open a string of several lines.

* `basicString`, `literalString`: strings on one line, from behind the opening mark.
* `multilineBasic`, `multilineLiteral`: strings of several lines.
* `escaped`: a text as the body of a basic string.
-/

namespace Bundler.Toml

/-! ## Escapes -/

def letterEscapes : List (Char × Char) :=
  [('b', '\x08'), ('t', '\t'), ('n', '\n'), ('f', '\x0c'), ('r', '\r'), ('"', '"'), ('\\', '\\')]

def hexValue? (c : Char) : Option Nat :=
  if '0' ≤ c && c ≤ '9' then some (c.toNat - '0'.toNat)
  else if 'a' ≤ c && c ≤ 'f' then some (c.toNat - 'a'.toNat + 10)
  else if 'A' ≤ c && c ≤ 'F' then some (c.toNat - 'A'.toNat + 10)
  else none

def readHex? (acc : Nat) : (count : Nat) → List Char → Option (Nat × List Char)
  | 0, s => some (acc, s)
  | _ + 1, [] => none
  | count + 1, c :: s =>
    match hexValue? c with
    | some d => readHex? (acc * 16 + d) count s
    | none => none

def isScalar (n : Nat) : Bool :=
  n ≤ 0xd7ff || (0xe000 ≤ n && n ≤ 0x10ffff)

def readCode (count : Nat) (s : List Char) : Step Char :=
  match readHex? 0 count s with
  | none => stop .invalidHex s
  | some (n, rest) => if isScalar n then .ok (Char.ofNat n, rest) else stop .notScalar rest

def readEscape : List Char → Step Char
  | [] => stop .unescapedBackslash []
  | c :: s =>
    if c = 'u' then readCode 4 s
    else if c = 'U' then readCode 8 s
    else
      match letterEscapes.lookup c with
      | some x => .ok (x, s)
      | none => stop .unescapedBackslash s

/-- The text behind a backslash at the end of a line: blanks up to the line feed and all blanks and
line feeds after it are left out. -/
def skipLineEnd (s : List Char) : Except Stop (List Char) :=
  match skipSpaces s with
  | [] => .ok []
  | c :: rest =>
    if c = '\n' then .ok (rest.dropWhile fun c => isSpace c || c == '\n')
    else stop .unescapedBackslash (c :: rest)

def startsLineEnd : List Char → Bool
  | [] => false
  | c :: _ => isSpace c || c == '\n'

/-! ## Basic strings -/

/-- The characters of a basic string up to its closing marks; `fuel` bounds the number of characters
and escapes. -/
def basicFrom (multiline : Bool) : (fuel : Nat) → List Char → Step (List Char)
  | 0, s => stop .unterminatedString s
  | _ + 1, [] => stop .unterminatedString []
  | fuel + 1, c :: s =>
    if c = '"' then
      if multiline then
        match s with
        | '"' :: '"' :: rest => .ok ([], rest)
        | _ => consFrom c (basicFrom multiline fuel s)
      else .ok ([], s)
    else if c = '\\' then
      if multiline && startsLineEnd s then
        match skipLineEnd s with
        | .error e => .error e
        | .ok rest => basicFrom multiline fuel rest
      else
        match readEscape s with
        | .error e => .error e
        | .ok (x, rest) => consFrom x (basicFrom multiline fuel rest)
    else if isControl c && !(multiline && c == '\n') then stop (.illegalCharacter c) (c :: s)
    else consFrom c (basicFrom multiline fuel s)
where
  consFrom (c : Char) : Step (List Char) → Step (List Char)
    | .ok (cs, rest) => .ok (c :: cs, rest)
    | .error e => .error e

def basicString (s : List Char) : Step (List Char) :=
  basicFrom false (s.length + 1) s

/-! ## Literal strings -/

/-- The text before the first occurrence of `closing`, and the text after it. -/
def splitAt? (closing : List Char) : List Char → Option (List Char × List Char)
  | [] => none
  | c :: s =>
    match closing.isPrefixOf? (c :: s) with
    | some rest => some ([], rest)
    | none =>
      match splitAt? closing s with
      | some (before, rest) => some (c :: before, rest)
      | none => none

def findFrom (p : Char → Bool) (s : List Char) : List Char :=
  s.dropWhile fun c => !p c

/-- A text up to a closing mark, without the characters that `bad` names. -/
def literalUpTo (closing : String) (bad : Char → Bool) (s : List Char) : Step (List Char) :=
  match splitAt? closing.toList s with
  | none => stop (.expected closing) []
  | some (body, rest) =>
    match findFrom bad body with
    | [] => .ok (body, rest)
    | c :: more => .error ⟨.foundInvalid c, more.length + 1 + (s.length - body.length)⟩

def literalString (s : List Char) : Step (List Char) :=
  literalUpTo "'" isControl s

/-! ## Several lines -/

/-- A line feed right after the opening marks does not belong to the string. -/
def dropFirstNewline : List Char → List Char
  | '\n' :: s => s
  | s => s

/-- Up to two marks before the closing ones belong to the string. -/
def takeExtraMarks (mark : Char) : Step (List Char) → Step (List Char)
  | .error e => .error e
  | .ok (body, s) =>
    match s with
    | c :: s' =>
      if c = mark then
        match s' with
        | d :: s'' => if d = mark then .ok (body ++ [mark, mark], s'') else .ok (body ++ [mark], s')
        | [] => .ok (body ++ [mark], [])
      else .ok (body, s)
    | [] => .ok (body, [])

def multilineBasic (s : List Char) : Step (List Char) :=
  let s := dropFirstNewline s
  takeExtraMarks '"' (basicFrom true (s.length + 1) s)

def multilineLiteral (s : List Char) : Step (List Char) :=
  takeExtraMarks '\'' (literalUpTo "'''" (fun c => isControl c && c != '\n') (dropFirstNewline s))

/-! ## Writing -/

def escapedChar (c : Char) : List Char :=
  match letterEscapes.find? fun p => p.2 == c with
  | some (letter, _) => ['\\', letter]
  | none => if isControl c then '\\' :: 'u' :: Text.hexDigits 4 c.toNat else [c]

def stringText (s : String) : String :=
  String.ofList ('"' :: (s.toList.flatMap escapedChar ++ ['"']))

end Bundler.Toml
