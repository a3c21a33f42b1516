/-
  Script/Lexeme/Pattern.lean --- regular-expression literals.

  A literal runs to the first slash outside of a bracket, on one line, and takes the
  identifier characters after it as its flags.  Its pattern has to be valid in the
  dialect of `Regex.Syntax`, once the numbered characters in it are put in place.
-/
import GoogIndex.Regex.Syntax
import GoogIndex.Script.Lexeme.Escape
import GoogIndex.Script.Lexeme.Fault

set_option autoImplicit false

namespace GoogIndex.Script

/-- The length of a pattern's body after its first slash, with the closing slash.
`skip` characters are accounted for, `n` were read. -/
def patternBody : (skip n : Nat) → (inClass : Bool) → List Char → Except LexemeFault Nat
  | _, n, _, [] => .error ⟨.unterminatedPattern, n⟩
  | skip + 1, n, inClass, _ :: rest => patternBody skip (n + 1) inClass rest
  | 0, n, inClass, c :: rest =>
      if isLineTerminator c then .error ⟨.unterminatedPattern, n⟩
      else if c = '\\' then
        if nextIs isLineTerminator rest then .error ⟨.unterminatedPattern, n⟩
        else patternBody 1 (n + 1) inClass rest
      else if inClass then patternBody 0 (n + 1) (c != ']') rest
      else if c = '/' then .ok (n + 1)
      else patternBody 0 (n + 1) (c = '[') rest

/-- The length of the flags at the front.  A backslash may not be among them, unless
it is the last character of the source. -/
def patternFlags : (n : Nat) → List Char → Except LexemeFault Nat
  | n, [] => .ok n
  | n, c :: rest =>
      if !isIdentifierPart c then .ok n
      else if c = '\\' ∧ !rest.isEmpty then .error ⟨.illegal, n⟩
      else patternFlags (n + 1) rest

/-- What stands for a character beyond the sixteen-bit range. -/
def astralSubstitute : Nat := 0xFFFF

/-- The code points of a pattern with its numbered characters in place; `skip`
characters are accounted for.  A number that is too great has no place. -/
def numberedInPlace : (skip : Nat) → List Char → Option (List Nat)
  | _, [] => some []
  | skip + 1, _ :: rest => numberedInPlace skip rest
  | 0, '\\' :: 'u' :: rest =>
      let brace := rest.head? = some '\x7b'
      let digits := if brace then (rest.drop 1).takeWhile isHexDigit else rest.take 4
      let closed :=
        if brace then !digits.isEmpty && (rest.drop (1 + digits.length)).head? = some '\x7d'
        else digits.length = 4 && digits.all isHexDigit
      if closed then
        let code := hexNumber digits
        if 0x10FFFF < code then none
        else
          let here := if code ≤ 0xFFFF then code else astralSubstitute
          (numberedInPlace (if brace then digits.length + 3 else 5) ('u' :: rest)).map (here :: ·)
      else (numberedInPlace 0 ('u' :: rest)).map (0x5C :: ·)
  | 0, c :: rest => (numberedInPlace 0 rest).map (c.toNat :: ·)

/-- A high surrogate with its low surrogate is one character beyond the range. -/
def joinSurrogates : List Nat → List Nat
  | a :: b :: rest =>
      if 0xD800 ≤ a ∧ a ≤ 0xDBFF ∧ 0xDC00 ≤ b ∧ b ≤ 0xDFFF then
        astralSubstitute :: joinSurrogates rest
      else a :: joinSurrogates (b :: rest)
  | rest => rest

/-- Whether the text between the slashes is a valid pattern. -/
def isValidPattern (body : List Char) : Bool :=
  match numberedInPlace 0 body with
  | some codes => Regex.isValid (joinSurrogates codes)
  | none => false

/-- The length of the literal at the front, which begins with a slash. -/
def scanPattern : List Char → Except LexemeFault Nat
  | _ :: rest => do
      let body ← patternBody 0 1 false rest
      let length ← patternFlags body (rest.drop (body - 1))
      if isValidPattern (rest.take (body - 2)) then return length
      else .error ⟨.invalidPattern, length⟩
  | [] => .error ⟨.illegal, 0⟩

end GoogIndex.Script
