/-
  Regex/GroupName.lean --- how groups of a regular expression are named.

  A group has a number, and it may have a name.  A name is an identifier that stays one
  in every normal form of its text, so the characters that do not keep this property
  are left out.  A condition names its group by name or by a number, and a number may
  have a sign, blanks around it, single underscores between its digits, and digits of
  any script.
-/
import GoogIndex.Script.Character
import GoogIndex.Text.Blank
import GoogIndex.Text.DigitTable

set_option autoImplicit false

namespace GoogIndex.Regex

open GoogIndex.Text

/-! ## Names -/

/-- Identifier characters that some normal form replaces by others which are none. -/
def unstableTable : CodeRanges := .ofList
  [(0x37A, 0x37A), (0x200C, 0x200D), (0x2E2F, 0x2E2F), (0x309B, 0x309C), (0xFC5E, 0xFC63),
   (0xFDFA, 0xFDFB), (0xFE70, 0xFE70), (0xFE72, 0xFE72), (0xFE74, 0xFE74), (0xFE76, 0xFE76),
   (0xFE78, 0xFE78), (0xFE7A, 0xFE7A), (0xFE7C, 0xFE7C), (0xFE7E, 0xFE7E)]

/-- Letters that some normal form replaces by others which cannot come first. -/
def unstableStartTable : CodeRanges := .ofList [(0xE33, 0xE33), (0xEB3, 0xEB3), (0xFF9E, 0xFF9F)]

/-- Whether a code point may stand in a name. -/
def isNamePart (n : Nat) : Bool :=
  n != 0x24 && n != 0x5C && Script.isIdentifierPart (Char.ofNat n) && !unstableTable.contains n

/-- Whether a code point may begin a name. -/
def isNameStart (n : Nat) : Bool :=
  isNamePart n && Script.isIdentifierStart (Char.ofNat n) && !unstableStartTable.contains n

/-- The names that groups may have. -/
def isName : List Nat → Bool
  | [] => false
  | n :: rest => isNameStart n && rest.all isNamePart

/-! ## Numbers -/

/-- The blanks that may stand around a number. -/
def isNumberBlank (n : Nat) : Bool :=
  (0x09 ≤ n && n ≤ 0x0D) || n == 0x20 || (0x80 ≤ n && isBlank (Char.ofNat n))

/-- The number that digits spell, with single underscores between them.  `number` is what
was spelled so far, and `afterDigit` says whether a digit stands right before. -/
def digitsValue? (afterDigit : Bool) (number : Nat) : List Nat → Option Nat
  | [] => if afterDigit then some number else none
  | n :: rest =>
      if n = 0x5F then if afterDigit then digitsValue? false number rest else none
      else (digitValue? n).bind fun d => digitsValue? true (number * 10 + d) rest

/-- A number may have so many digits. -/
def digitLimit : Nat := 4300

/-- The positive number that a text spells. -/
def groupNumber? (text : List Nat) : Option Nat :=
  let front := text.dropWhile isNumberBlank
  let inner := (front.reverse.dropWhile isNumberBlank).reverse
  let digits :=
    match inner with
    | 0x2B :: rest => rest
    | all => all
  if digitLimit < (digits.filter (· ≠ 0x5F)).length then none
  else (digitsValue? false 0 digits).filter (0 < ·)

end GoogIndex.Regex
