/-
  Script/Lexeme/Escape.lean --- the escapes that name a character by its number.
-/
import GoogIndex.Script.Character
import GoogIndex.Script.CodeText

set_option autoImplicit false

namespace GoogIndex.Script

/-- The value of exactly `count` hexadecimal digits at the front. -/
def hexDigits? (count : Nat) (cs : List Char) : Option Nat :=
  let digits := cs.take count
  if digits.length = count ∧ digits.all isHexDigit then some (hexNumber digits) else none

/-- The digits of a braced escape, read after its opening brace: the number and the
length with the closing brace.  At least one digit is required, and the number is
at most `0x10FFFF`. -/
def bracedCode? (cs : List Char) : Option (Nat × Nat) :=
  let digits := cs.takeWhile isHexDigit
  let n := hexNumber digits
  if digits.isEmpty ∨ 0x10FFFF < n then none
  else if (cs.drop digits.length).head? = some '\x7d' then some (n, digits.length + 1)
  else none

/-- What follows the `u` of an escape. -/
inductive UnicodeEscape where
  /-- four digits -/
  | plain (code length : Nat)
  /-- a number in braces -/
  | braced (code length : Nat)
  /-- a brace without a number and its closing brace -/
  | brokenBrace
  /-- fewer than four digits -/
  | brokenPlain
  deriving DecidableEq, Repr

/-- Read an escape after its `u`. -/
def unicodeEscape (cs : List Char) : UnicodeEscape :=
  match cs with
  | '\x7b' :: rest =>
      match bracedCode? rest with
      | some (code, length) => .braced code (length + 1)
      | none => .brokenBrace
  | _ =>
      match hexDigits? 4 cs with
      | some code => .plain code 4
      | none => .brokenPlain

end GoogIndex.Script
