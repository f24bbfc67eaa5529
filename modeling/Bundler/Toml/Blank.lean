import Bundler.Toml.Problem

/-!
# Bundler.Toml.Blank

What stands between the parts of a configuration text: blanks, line feeds and comments.
-/

namespace Bundler.Toml

def isSpace (c : Char) : Bool :=
  c == ' ' || c == '\t'

def isControl (c : Char) : Bool :=
  (c.toNat < 0x20 && c != '\t') || c.toNat == 0x7f

def skipSpaces (s : List Char) : List Char :=
  s.dropWhile isSpace

/-- The text from the end of a comment on; the characters of the comment come first. -/
def skipCommentBody : List Char → Except Stop (List Char)
  | [] => .ok []
  | c :: s =>
    if c = '\n' then .ok (c :: s)
    else if isControl c then stop (.foundInvalid c) (c :: s)
    else skipCommentBody s

def skipComment : List Char → Except Stop (List Char)
  | [] => .ok []
  | c :: s => if c = '#' then skipCommentBody s else .ok (c :: s)

/-- The text without the blanks, line feeds and comments in front. -/
def skipFiller : (inComment : Bool) → List Char → Except Stop (List Char)
  | _, [] => .ok []
  | true, c :: s =>
    if c = '\n' then skipFiller false s
    else if isControl c then stop (.foundInvalid c) (c :: s)
    else skipFiller true s
  | false, c :: s =>
    if isSpace c || c = '\n' then skipFiller false s
    else if c = '#' then skipFiller true s
    else .ok (c :: s)

end Bundler.Toml
