import Bundler.Text.CaseTable
import Bundler.Text.Word

/-!
# Bundler.Text.Case

Upper and lower case of a text by the full mappings of Unicode: one character may become several,
and a capital sigma becomes a final sigma at the end of a word.

* `upper s`, `lower s`: the mapped string.
-/

namespace Bundler.Text

def CaseRun.image? (runs : List CaseRun) (n : Nat) : Option Char :=
  match runs.find? fun r => r.first ≤ n && n ≤ r.last && (n - r.first) % r.step == 0 with
  | some r => some (Char.ofNat (n + r.offset).toNat)
  | none => none

def upperChar (c : Char) : List Char :=
  match upperExpansions.lookup c.toNat with
  | some ns => ns.map Char.ofNat
  | none => [(CaseRun.image? upperRuns c.toNat).getD c]

/-- The lower case of one character outside the rule for a final sigma. -/
def lowerChar (c : Char) : List Char :=
  if c.toNat = 0x130 then [Char.ofNat 0x69, Char.ofNat 0x307]
  else [(CaseRun.image? lowerRuns c.toNat).getD c]

/-- Whether the first character that is not looked through is a letter with case. -/
def meetsCased (s : List Char) : Bool :=
  match s.dropWhile fun c => inRuns ignorableRuns c.toNat with
  | [] => false
  | c :: _ => inRuns casedRuns c.toNat

/-- The lower case of a text; `before` holds the characters already passed, last first. -/
def lowerAfter (before : List Char) : List Char → List Char
  | [] => []
  | c :: s =>
    let image :=
      if c.toNat = 0x3a3 then
        if meetsCased before && !meetsCased s then [Char.ofNat 0x3c2] else [Char.ofNat 0x3c3]
      else lowerChar c
    image ++ lowerAfter (c :: before) s

def upper (s : String) : String :=
  String.ofList (s.toList.flatMap upperChar)

def lower (s : String) : String :=
  String.ofList (lowerAfter [] s.toList)

end Bundler.Text
