/-
  Script/Lexeme.lean --- one token at the front of the source.

  The first character decides which scanner measures the token.  The only context
  is the nesting of braces: a closing brace continues a template when the innermost
  open brace began a substitution.
-/
import GoogIndex.Script.Lexeme.Number
import GoogIndex.Script.Lexeme.Pattern
import GoogIndex.Script.Lexeme.Punctuator
import GoogIndex.Script.Lexeme.Quote
import GoogIndex.Script.Lexeme.Template
import GoogIndex.Script.Lexeme.Word

set_option autoImplicit false

namespace GoogIndex.Script

/-- An open brace. -/
inductive Brace where
  | plain
  /-- the opening of a substitution in a template -/
  | substitution
  deriving DecidableEq, Repr, Inhabited

/-- A measured token: its category, its length, the characters it means where that
differs from its text, and whether it has an octal spelling. -/
structure Lexeme where
  kind : TokenKind
  length : Nat
  meaning : CodeText
  octal : Bool
  deriving Repr, Inhabited

/-- The token at the front, under the braces that are open, the innermost first.  A
slash is a punctuator here. -/
def scanLexeme (braces : List Brace) (cs : List Char) : Except LexemeFault Lexeme :=
  match cs with
  | [] => .error ⟨.illegal, 0⟩
  | c :: rest =>
      if isIdentifierStart c then do
        let w ← scanWord cs
        return ⟨w.kind, w.length, w.meaning, false⟩
      else if c = '\'' ∨ c = '"' then do
        let q ← scanQuote cs
        return ⟨.string, q.length, q.meaning, q.octal⟩
      else if isDecimalDigit c ∨ (c = '.' ∧ nextIs isDecimalDigit rest) then do
        let n ← scanNumber cs
        return ⟨.numeric, n.length, .ofString (.ofList (cs.take n.length)), n.octal⟩
      else if c = '\x60' ∨ (c = '\x7d' ∧ braces.head? = some .substitution) then do
        let length ← scanTemplate cs
        return ⟨.template, length, .ofString (.ofList (cs.take length)), false⟩
      else
        match scanPunctuator? cs with
        | some p => .ok ⟨.punctuator, p.toList.length, .ofString p, false⟩
        | none => .error ⟨.illegal, 0⟩

/-- The braces that are open after a token. -/
def bracesAfter (braces : List Brace) (t : Token) : List Brace :=
  match t.kind with
  | .punctuator =>
      if t.text = "\x7b" then .plain :: braces
      else if t.text = "\x7d" then braces.tail
      else braces
  | .template =>
      let opens := t.text.toList.getLast? = some '\x7b'
      let continues := t.text.toList.head? = some '\x7d'
      let open_ := if opens then Brace.substitution :: braces else braces
      if continues then open_.tail else open_
  | _ => braces

end GoogIndex.Script
