/-
  Script/Lexeme/Number.lean --- numeric literals.

  A number is never directly followed by the start of an identifier.  After a
  leading zero an octal digit makes a legacy octal literal, unless an 8 or 9 shows
  up before the digits end.
-/
import GoogIndex.Script.Character
import GoogIndex.Script.Lexeme.Fault

set_option autoImplicit false

namespace GoogIndex.Script

/-- A measured number: its length, and whether it is a legacy octal literal. -/
structure NumberLexeme where
  length : Nat
  octal : Bool
  deriving DecidableEq, Repr

/-- Digits in the class `p` after `start` characters, at least `least` of them, and
none of the characters of `stops` after them. -/
def radixNumber (p stops : Char → Bool) (start least : Nat) (octal : Bool) (cs : List Char) :
    Except LexemeFault NumberLexeme :=
  let digits := (cs.drop start).takeWhile p
  let length := start + digits.length
  if digits.length < least ∨ nextIs stops (cs.drop length) then .error ⟨.illegal, length⟩
  else .ok ⟨length, octal⟩

/-- Neither an identifier nor a digit may follow. -/
def identifierOrDigit (c : Char) : Bool := isIdentifierStart c || isDecimalDigit c

/-- Digits after a leading zero form an octal literal if no 8 or 9 comes first. -/
def impliesOctal (cs : List Char) : Bool :=
  match cs.dropWhile isOctalDigit with
  | c :: _ => c != '8' && c != '9'
  | [] => true

/-- The length of the exponent at the front; none if digits are missing after its
sign, and zero if there is no exponent. -/
def exponentLength? : List Char → Option Nat
  | c :: rest =>
      if c = 'e' ∨ c = 'E' then
        let sign := if nextIs (fun s => s = '+' || s = '-') rest then 1 else 0
        let digits := (rest.drop sign).takeWhile isDecimalDigit
        if digits.isEmpty then none else some (1 + sign + digits.length)
      else some 0
  | [] => some 0

/-- A decimal literal. -/
def decimalNumber (cs : List Char) : Except LexemeFault NumberLexeme :=
  let whole := (cs.takeWhile isDecimalDigit).length
  let afterWhole := cs.drop whole
  let fraction :=
    match afterWhole with
    | '.' :: rest => 1 + (rest.takeWhile isDecimalDigit).length
    | _ => 0
  match exponentLength? (afterWhole.drop fraction) with
  | none => .error ⟨.illegal, whole + fraction⟩
  | some exponent =>
      let length := whole + fraction + exponent
      if nextIs isIdentifierStart (cs.drop length) then .error ⟨.illegal, length⟩
      else .ok ⟨length, false⟩

/-- The number at the front, which begins with a digit or with a point and a digit. -/
def scanNumber (cs : List Char) : Except LexemeFault NumberLexeme :=
  match cs with
  | '0' :: c :: rest =>
      if c = 'x' ∨ c = 'X' then radixNumber isHexDigit isIdentifierStart 2 1 false cs
      else if c = 'b' ∨ c = 'B' then
        radixNumber (fun d => d = '0' || d = '1') identifierOrDigit 2 1 false cs
      else if c = 'o' ∨ c = 'O' then radixNumber isOctalDigit identifierOrDigit 2 1 false cs
      else if isOctalDigit c && impliesOctal rest then
        radixNumber isOctalDigit identifierOrDigit 1 1 true cs
      else decimalNumber cs
  | _ => decimalNumber cs

end GoogIndex.Script
