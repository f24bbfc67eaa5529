import Bundler.Text.UnprintableTable
import Bundler.Text.Word

/-!
# Bundler.Text.Quoted

A text between quotation marks, as messages show it. The mark is an apostrophe unless the text has
an apostrophe and no double quotation mark. The mark and the backslash are written with a backslash
before them, tab, line feed and carriage return by their letters, and every other character without
a printed form by its code in two, four or eight hexadecimal digits.

* `quoted s`: the text of `s` in a message.
-/

namespace Bundler.Text

def isPrintable (c : Char) : Bool :=
  let n := c.toNat
  if n < 0x20 then false
  else if n < 0x7f then true
  else !inRuns unprintableRuns n

/-- The lower-case hexadecimal digits of `n`, with leading zeros up to `width`. -/
def hexDigits (width n : Nat) : List Char :=
  let ds := Nat.toDigits 16 n
  List.replicate (width - ds.length) '0' ++ ds

def quotedChar (mark c : Char) : List Char :=
  if c = mark || c = '\\' then ['\\', c]
  else if c = '\t' then ['\\', 't']
  else if c = '\n' then ['\\', 'n']
  else if c = '\r' then ['\\', 'r']
  else if isPrintable c then [c]
  else
    let n := c.toNat
    if n ≤ 0xff then '\\' :: 'x' :: hexDigits 2 n
    else if n ≤ 0xffff then '\\' :: 'u' :: hexDigits 4 n
    else '\\' :: 'U' :: hexDigits 8 n

/-- The mark around a text: an apostrophe, or a double mark when that avoids escapes. -/
def quoteMark (s : List Char) : Char :=
  if s.contains '\'' && !s.contains '"' then '"' else '\''

def quoted (s : String) : String :=
  let mark := quoteMark s.toList
  String.ofList (mark :: (s.toList.flatMap (quotedChar mark) ++ [mark]))

end Bundler.Text
