/-
  Script/Lexeme/Fault.lean --- why a piece of source is no lexeme.

  The scanners of this folder measure: given the source from some point on, each
  says how long its lexeme is, or what is wrong and how far it had read when it gave
  up.  The distance matters because a report names the line reached.
-/

set_option autoImplicit false

namespace GoogIndex.Script

/-- What is wrong with a piece of source. -/
inductive LexicalProblem where
  /-- a character that has no place there -/
  | illegal
  /-- a `\x` escape without two hexadecimal digits -/
  | hexEscape
  /-- an octal escape in a template -/
  | templateOctal
  /-- a reserved word written with escapes -/
  | escapedKeyword
  /-- a regular expression that is not closed on its line -/
  | unterminatedPattern
  /-- a regular expression whose pattern is not valid -/
  | invalidPattern
  deriving DecidableEq, Repr, Inhabited

/-- The words for a problem. -/
def LexicalProblem.words : LexicalProblem → String
  | .illegal => "Unexpected token ILLEGAL"
  | .hexEscape => "Invalid hexadecimal escape sequence"
  | .templateOctal => "Octal literals are not allowed in template strings."
  | .escapedKeyword => "Keyword must not contain escaped characters"
  | .unterminatedPattern => "Invalid regular expression: missing /"
  | .invalidPattern => "Invalid regular expression"

/-- A problem and the distance from the lexeme's start at which scanning stopped. -/
structure LexemeFault where
  problem : LexicalProblem
  distance : Nat
  deriving DecidableEq, Repr, Inhabited

end GoogIndex.Script
