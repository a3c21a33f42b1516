/-
  Text/LowerCase.lean --- lower-casing over the whole character set.

  File suffixes are compared without regard to case.  Every character has its own
  lower-case form, with two particular rules: the dotted capital I becomes two
  characters, and a capital sigma takes its final form at the end of a word.
-/
import GoogIndex.Text.CaseTable
import GoogIndex.Text.Point

set_option autoImplicit false

namespace GoogIndex.Text

/-- The one-character lower-case form of a code point. -/
def lowerCode (n : Nat) : Nat :=
  match lowerRuns.find? fun r => decide (r.1 ≤ n) && decide (n ≤ r.2.1) && (n - r.1) % r.2.2.1 == 0
  with
  | some r => r.2.2.2 + (n - r.1)
  | none => n

/-- Passing over the ignorable code points, the next one has case. -/
def casedNext (ps : List Point) : Bool :=
  match ps.dropWhile fun p => caseIgnorableTable.contains p.toNat with
  | [] => false
  | p :: _ => casedTable.contains p.toNat

/-- The lower-case form of a character between others, those before it reversed. -/
def lowerChar (before rest : List Point) (c : Char) : List Char :=
  if c.toNat < 0x80 then [c.toLower]
  else if c.toNat = 0x3A3 then
    [Char.ofNat (if casedNext before && !casedNext rest then 0x3C2 else 0x3C3)]
  else if c.toNat = 0x130 then ['i', Char.ofNat 0x307]
  else [Char.ofNat (lowerCode c.toNat)]

/-- Lower-case a text whose code points before it stand reversed in `before`. -/
def lowerPoints (before : List Point) : List Point → List Point
  | [] => []
  | .char c :: rest => (lowerChar before rest c).map .char ++ lowerPoints (.char c :: before) rest
  | .lone half :: rest => .lone half :: lowerPoints (.lone half :: before) rest

/-- The lower-case form of a text. -/
def lower (s : Text) : Text := .ofList (lowerPoints [] s.toList)

end GoogIndex.Text
