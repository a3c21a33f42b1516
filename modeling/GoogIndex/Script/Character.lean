/-
  Script/Character.lean --- the character classes of script source.

  A backslash counts as a character of identifiers, because it may begin an escape
  there; what it escapes is checked where the escape is read.
-/
import GoogIndex.Script.IdentifierTable
import GoogIndex.Text.Hexadecimal

set_option autoImplicit false

namespace GoogIndex.Script

open GoogIndex.Text

/-- The characters that end a line of source. -/
def isLineTerminator (c : Char) : Bool :=
  c = '\n' || c = '\r' || c = '\u2028' || c = '\u2029'

/-- White space other than line terminators. -/
def isSpace (c : Char) : Bool :=
  let n := c.toNat
  n == 0x09 || n == 0x0B || n == 0x0C || n == 0x20 || n == 0xA0 || n == 0x1680 || n == 0x180E
    || (0x2000 ≤ n && n ≤ 0x200A) || n == 0x202F || n == 0x205F || n == 0x3000 || n == 0xFEFF

/-- The decimal digits. -/
def isDecimalDigit (c : Char) : Bool := '0' ≤ c && c ≤ '9'

/-- The octal digits. -/
def isOctalDigit (c : Char) : Bool := '0' ≤ c && c ≤ '7'

/-- The hexadecimal digits. -/
def isHexDigit (c : Char) : Bool := (hexValue? c).isSome

/-- The number that hexadecimal digits spell. -/
def hexNumber (digits : List Char) : Nat :=
  digits.foldl (fun n c => n * 16 + (hexValue? c).getD 0) 0

/-- The letters of ASCII with the two signs and the backslash that start identifiers. -/
def isAsciiIdentifierStart (c : Char) : Bool :=
  c.isAlpha || c = '$' || c = '_' || c = '\\'

/-- The characters that start an identifier. -/
def isIdentifierStart (c : Char) : Bool :=
  isAsciiIdentifierStart c || (0x80 ≤ c.toNat && identifierStartTable.hasChar c)

/-- The characters that continue an identifier. -/
def isIdentifierPart (c : Char) : Bool :=
  isAsciiIdentifierStart c || isDecimalDigit c
    || (0x80 ≤ c.toNat && (identifierStartTable.hasChar c || identifierExtendTable.hasChar c))

/-- A condition on the next character, false at the end of the source. -/
def nextIs (p : Char → Bool) : List Char → Bool
  | c :: _ => p c
  | [] => false

/-- The length of the line terminator that begins with `c`: a carriage return takes
its line feed along. -/
def terminatorLength (c : Char) (rest : List Char) : Nat :=
  if c = '\r' ∧ rest.head? = some '\n' then 2 else 1

/-- How many lines a text ends. -/
def lineCount : List Char → Nat
  | [] => 0
  | '\r' :: '\n' :: rest => lineCount rest + 1
  | c :: rest => lineCount rest + if isLineTerminator c then 1 else 0

/-- The line that the character at an offset of the source stands in, from one. -/
def lineAt (source : List Char) (offset : Nat) : Nat := go 1 (source.take offset)
where
  /-- Count on from line `n`. -/
  go : Nat → List Char → Nat
    | n, [] => n
    | n, '\r' :: '\n' :: rest => go (n + 1) rest
    | n, c :: rest => go (if isLineTerminator c then n + 1 else n) rest

end GoogIndex.Script
