/-
  Script/Lexeme/Word.lean --- identifiers and reserved words.

  A word is a run of identifier characters in which any character may be written as
  an escape.  Four-digit escapes have to name a character that could stand there
  itself; braced escapes are not checked.
-/
import GoogIndex.Script.Lexeme.Escape
import GoogIndex.Script.Lexeme.Fault
import GoogIndex.Script.Token

set_option autoImplicit false

namespace GoogIndex.Script

/-- The escape after a backslash in a word: the number it gives and how many characters
it takes.  `allowed` says which characters a four-digit escape may name. -/
def wordEscape? (allowed : Char → Bool) : List Char → Option (Nat × Nat)
  | 'u' :: rest =>
      match unicodeEscape rest with
      | .plain code length =>
          let c := charOfCode code
          if c ≠ '\\' ∧ allowed c then some (code, length + 1) else none
      | .braced code length => some (code, length + 1)
      | .brokenBrace => none
      | .brokenPlain => none
  | _ => none

/-- The rest of a word: `skip` characters are accounted for, `n` were read, the numbers
of the characters meant so far stand reversed in `meant`. -/
def wordFrom : (skip n : Nat) → (meant : List Nat) → List Char →
    Except LexemeFault (CodeText × Nat)
  | _, n, meant, [] => .ok (⟨meant.reverse⟩, n)
  | skip + 1, n, meant, _ :: rest => wordFrom skip (n + 1) meant rest
  | 0, n, meant, c :: rest =>
      if c = '\\' then
        match wordEscape? isIdentifierPart rest with
        | some (code, used) => wordFrom used (n + 1) (code :: meant) rest
        | none => .error ⟨.illegal, n⟩
      else if isIdentifierPart c then wordFrom 0 (n + 1) (c.toNat :: meant) rest
      else .ok (⟨meant.reverse⟩, n)

/-- A word: its category, what it means, and its length in the source. -/
structure Word where
  kind : TokenKind
  meaning : CodeText
  length : Nat
  deriving Repr

/-- The word at the front, which begins with an identifier character.  Escapes may
not spell a reserved word. -/
def scanWord (cs : List Char) : Except LexemeFault Word := do
  let (meaning, length) ←
    match cs with
    | '\\' :: rest =>
        match wordEscape? isIdentifierStart rest with
        | some (code, used) => wordFrom used 1 [code] rest
        | none => .error ⟨.illegal, 0⟩
    | c :: rest => wordFrom 0 1 [c.toNat] rest
    | [] => .error ⟨.illegal, 0⟩
  let kind := wordKind meaning.text
  if kind ≠ .identifier ∧ meaning.codes.length ≠ length then .error ⟨.escapedKeyword, 0⟩
  else return ⟨kind, meaning, length⟩

end GoogIndex.Script
