/-
  Script/Lexeme/Template.lean --- the pieces of template literals.

  A template is cut into pieces at its substitutions.  A piece begins with the
  backtick or with the brace that closes a substitution, and ends with the backtick
  or with the opening of the next substitution.
-/
import GoogIndex.Script.Lexeme.Escape
import GoogIndex.Script.Lexeme.Fault

set_option autoImplicit false

namespace GoogIndex.Script

/-- The length of an escape in a template, after the backslash. -/
def templateEscape (cs : List Char) : Except LexicalProblem Nat :=
  match cs with
  | [] => .error .illegal
  | c :: rest =>
      if isLineTerminator c then .ok (terminatorLength c rest)
      else if c = 'u' then
        match unicodeEscape rest with
        | .plain _ length => .ok (length + 1)
        | .braced _ length => .ok (length + 1)
        | .brokenBrace => .error .illegal
        -- too few digits: the letter stands for itself
        | .brokenPlain => .ok 1
      else if c = 'x' then
        match hexDigits? 2 rest with
        | some _ => .ok 3
        | none => .error .hexEscape
      else if c = '0' then
        if nextIs isDecimalDigit rest then .error .templateOctal else .ok 1
      else if isOctalDigit c then .error .templateOctal
      else .ok 1

/-- The rest of a piece: `skip` characters are accounted for and `n` were read.  The
answer is the length of the piece. -/
def templateFrom : (skip n : Nat) → List Char → Except LexemeFault Nat
  | _, n, [] => .error ⟨.illegal, n⟩
  | skip + 1, n, _ :: rest => templateFrom skip (n + 1) rest
  | 0, n, c :: rest =>
      if c = '\x60' then .ok (n + 1)
      else if c = '$' ∧ rest.head? = some '\x7b' then .ok (n + 2)
      else if c = '\\' then
        match templateEscape rest with
        | .error problem =>
            -- at the end of the source the backslash itself was read
            .error ⟨problem, if rest.isEmpty then n + 1 else n⟩
        | .ok used => templateFrom used (n + 1) rest
      else templateFrom 0 (n + 1) rest

/-- The piece at the front, which begins with a backtick or a closing brace. -/
def scanTemplate : List Char → Except LexemeFault Nat
  | _ :: rest => templateFrom 0 1 rest
  | [] => .error ⟨.illegal, 0⟩

end GoogIndex.Script
