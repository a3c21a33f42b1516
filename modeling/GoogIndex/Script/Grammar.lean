/-
  Script/Grammar.lean --- the comments and tokens of a script that the grammar accepts.

  Normative source: SPEC_FULL §4.1 step 5, `parse_syntax_tree`.

  The parts of the grammar occur inside of each other.  They are tied together by a bound
  on the depth of nesting: each level takes at least one character of the source, so the
  length of the source bounds the depth, and the number of rounds of every loop too.
-/
import GoogIndex.Script.Grammar.Statement

set_option autoImplicit false

namespace GoogIndex.Script

open Grammar Grammar.Parse

namespace Grammar

/-- How to read a part of the grammar, from how to read the parts inside of it. -/
def rule (g : Rules) : Nonterminal → Parse Shape
  | .assignment => assignment g
  | .exponentiation => exponentiation g
  | .unary => unary g
  | .leftHandSide => leftHandSide g
  | .callee => callee g
  | .statement => do
      statement g
      return .other
  | .item => do
      item g
      return .other
  | .pattern declaration => pattern g declaration

/-- The grammar up to some depth of nesting. -/
def rules : (depth : Nat) → Rules
  | 0 => fun _ => fail .exhausted
  | depth + 1 => fun n => rule (rules depth) n

/-- A whole script. -/
def script (g : Rules) : Parse Unit := do
  directives g
  repeatStep () fun _ => do
    if ← atEnd then return .inr ()
    let _ ← g .item
    return .inl ()

/-- The state in front of a source, with its first token in view. -/
def State.start (source : List Char) : Except Fault State := do
  let cursor := Cursor.start source
  let before : Terminal := ⟨none, .ofString "", cursor.line, false, false, false⟩
  let s ← scanAhead
    { cursor := cursor
      place := cursor
      next := before
      broken := false
      lastLine := cursor.line
      tokens := []
      comments := []
      context := .start
      bound := []
      fuel := source.length + 2 }
    cursor before
  return { s with lastLine := s.cursor.line }

end Grammar

/-- The comments and tokens of a script (SPEC_FULL §4.1 step 5, `parse_syntax_tree`). -/
def parseScript (source : String) : Except Grammar.Fault SyntaxTree := do
  let cs := source.toList
  let s ← State.start cs
  let ((), s) ← (script (rules (cs.length + 2))).run s
  return ⟨s.comments.reverse, s.tokens.reverse⟩

end GoogIndex.Script
