/-
  Script/Lexeme/Quote.lean --- string literals.

  A string runs to its closing quote on the same line; a backslash before a line
  terminator continues it on the next.  Octal escapes are allowed and reported, the
  digits 8 and 9 may not be escaped.
-/
import GoogIndex.Script.Lexeme.Escape
import GoogIndex.Script.Lexeme.Fault

set_option autoImplicit false

namespace GoogIndex.Script

/-- A measured string: its length with both quotes, what it means, and whether it has an
octal escape. -/
structure QuoteLexeme where
  length : Nat
  meaning : CodeText
  octal : Bool
  deriving Repr

/-- An escape in a string: the numbers it gives, the length after the backslash, and
whether it is octal. -/
structure StringEscape where
  meaning : List Nat
  length : Nat
  octal : Bool

/-- The octal escape at the front: up to three digits, the third only if the first
is at most 3.  A lone zero does not count as octal. -/
def octalEscape (cs : List Char) : StringEscape :=
  let most := if nextIs (fun c => '0' ≤ c && c ≤ '3') cs then 3 else 2
  let digits := (cs.take most).takeWhile isOctalDigit
  let code := digits.foldl (fun n c => n * 8 + (c.toNat - 48)) 0
  ⟨[code], digits.length, digits != ['0']⟩

/-- The escapes that stand for one control character. -/
def controlEscape? (c : Char) : Option Char :=
  if c = 'n' then some '\n'
  else if c = 'r' then some '\r'
  else if c = 't' then some '\t'
  else if c = 'b' then some '\x08'
  else if c = 'f' then some '\x0c'
  else if c = 'v' then some '\x0b'
  else none

/-- Read an escape after its backslash. -/
def stringEscape (cs : List Char) : Except LexicalProblem StringEscape :=
  match cs with
  | [] => .error .illegal
  | c :: rest =>
      if isLineTerminator c then .ok ⟨[], terminatorLength c rest, false⟩
      else if c = 'u' then
        match unicodeEscape rest with
        | .plain code length => .ok ⟨[code], length + 1, false⟩
        | .braced code length => .ok ⟨[code], length + 1, false⟩
        | .brokenBrace => .error .illegal
        | .brokenPlain => .error .illegal
      else if c = 'x' then
        match hexDigits? 2 rest with
        | some code => .ok ⟨[code], 3, false⟩
        | none => .error .hexEscape
      else if c = '8' ∨ c = '9' then .error .illegal
      else if isOctalDigit c then .ok (octalEscape cs)
      else
        match controlEscape? c with
        | some ch => .ok ⟨[ch.toNat], 1, false⟩
        | none => .ok ⟨[c.toNat], 1, false⟩

/-- The rest of a string with this quote: `skip` characters are accounted for, `n`
were read, the numbers of the characters meant so far stand reversed in `meant`. -/
def quoteFrom (quote : Char) : (skip n : Nat) → (meant : List Nat) → (octal : Bool) → List Char →
    Except LexemeFault QuoteLexeme
  | _, n, _, _, [] => .error ⟨.illegal, n⟩
  | skip + 1, n, meant, octal, _ :: rest => quoteFrom quote skip (n + 1) meant octal rest
  | 0, n, meant, octal, c :: rest =>
      if c = quote then .ok ⟨n + 1, ⟨meant.reverse⟩, octal⟩
      else if c = '\\' then
        match stringEscape rest with
        | .error problem => .error ⟨problem, n⟩
        | .ok e =>
            quoteFrom quote e.length (n + 1) (e.meaning.reverse ++ meant) (octal || e.octal) rest
      else if isLineTerminator c then .error ⟨.illegal, n⟩
      else quoteFrom quote 0 (n + 1) (c.toNat :: meant) octal rest

/-- The string at the front, which begins with its quote. -/
def scanQuote : List Char → Except LexemeFault QuoteLexeme
  | quote :: rest => quoteFrom quote 0 1 [] false rest
  | [] => .error ⟨.illegal, 0⟩

end GoogIndex.Script
