/-
  Script/SlashContext.lean --- does a slash begin a regular expression?

  Without a grammar the question is answered from the tokens before it.  The
  context keeps the texts of all punctuators and keywords, a blank for every other
  token, and where the latest opening parenthesis and opening brace stand.  Positions
  before the first token count from the last one backwards; a position beyond that is
  a fault of its own.
-/
import GoogIndex.Script.Token

set_option autoImplicit false

namespace GoogIndex.Script

/-- The tokens so far, as far as the meaning of a slash depends on them. -/
structure SlashContext where
  words : Array (Option String)
  paren : Int
  brace : Int
  deriving Repr, Inhabited

/-- A position that no token has. -/
structure PositionFault where
  deriving DecidableEq, Repr, Inhabited

namespace SlashContext

/-- Before the first token. -/
def start : SlashContext := ⟨#[], -1, -1⟩

/-- Take a token into account. -/
def push (x : SlashContext) (t : Token) : SlashContext :=
  if t.kind = .punctuator ∨ t.kind = .keyword then
    let here : Int := x.words.size
    { words := x.words.push (some t.text)
      paren := if t.text = "(" then here else x.paren
      brace := if t.text = "\x7b" then here else x.brace }
  else { x with words := x.words.push none }

/-- The word at a position; a negative one counts from the end. -/
def word (x : SlashContext) (position : Int) : Except PositionFault (Option String) :=
  let index : Int := if position < 0 then x.words.size + position else position
  if index < 0 then .error ⟨⟩
  else
    match x.words[index.toNat]? with
    | some w => .ok w
    | none => .error ⟨⟩

/-- The words after which `function` begins an expression. -/
def beforeFunctionExpression : List String :=
  ["(", "\x7b", "[", "in", "typeof", "instanceof", "new", "return", "case", "delete", "throw",
    "void", "=", "+=", "-=", "*=", "**=", "/=", "%=", "<<=", ">>=", ">>>=", "&=", "|=", "^=", ",",
    "+", "-", "*", "**", "/", "%", "++", "--", "<<", ">>", ">>>", "&", "|", "^", "!", "~", "&&",
    "||", "?", ":", "===", "==", ">=", "<=", "<", ">", "!=", "!=="]

/-- After a closing brace: a slash divides only if the brace seems to close the body
of a function expression, with or without a name. -/
def afterBrace (x : SlashContext) : Except PositionFault Bool := do
  let isFunction (position : Int) : Except PositionFault Bool := do
    return (← x.word position) == some "function"
  let unnamed ← if 3 ≤ x.words.size then isFunction (x.brace - 3) else pure false
  if unnamed then
    match ← x.word (x.brace - 4) with
    | some w => return !beforeFunctionExpression.contains w
    | none => return false
  else
    let named ← if 4 ≤ x.words.size then isFunction (x.brace - 4) else pure false
    if named then
      match ← x.word (x.brace - 5) with
      | some w => return !beforeFunctionExpression.contains w
      | none => return true
    else return true

/-- Whether a slash begins a regular expression here. -/
def patternMayStart (x : SlashContext) : Except PositionFault Bool :=
  match x.words.back? with
  | none => .ok true
  | some none => .ok false
  | some (some w) =>
      if w = "this" ∨ w = "]" then .ok false
      else if w = ")" then do
        match ← x.word (x.paren - 1) with
        | some before => return ["if", "while", "for", "with"].contains before
        | none => return false
      else if w = "\x7d" then x.afterBrace
      else .ok true

end SlashContext

end GoogIndex.Script
