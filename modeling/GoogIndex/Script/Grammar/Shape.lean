/-
  Script/Grammar/Shape.lean --- what later rules need to know of an expression.

  A script is only checked, so no tree of it is built.  Some rules look back at what
  was just read, though: an expression may turn out to be a list of parameters or the
  target of an assignment.  A shape keeps what those rules ask for.  An expression and
  the pattern it may be read as have the same shape.
-/
import GoogIndex.Script.CodeText

set_option autoImplicit false

namespace GoogIndex.Script.Grammar

/-- The shape of an expression or a pattern. -/
inductive Shape where
  | name (text : CodeText)
  /-- a string, a number or another constant; only a string has a text -/
  | literal (text : Option CodeText)
  | unary
  /-- a list of items -/
  | array (items : List Shape)
  /-- an object, by the values of its properties -/
  | object (values : List Shape)
  /-- three points and what follows them -/
  | spread (argument : Shape)
  /-- an assignment, or a pattern with a default -/
  | assign (left right : Shape)
  | sequence (items : List Shape)
  | yielding (hasArgument : Bool)
  /-- parameters whose arrow is to come -/
  | parameters (items : List Shape) (isAsync : Bool)
  /-- the word for an import, which is to be called -/
  | importWord
  | other
  deriving Repr, Inhabited

namespace Shape

/-- The name that a shape is. -/
def name? : Shape → Option CodeText
  | .name text => some text
  | _ => none

/-- The text that a shape is as a key: a name, or the text of a string. -/
def keyText? : Shape → Option CodeText
  | .name text => some text
  | .literal text => text
  | _ => none

/-- Whether a shape is a name. -/
def isName (s : Shape) : Bool := s.name?.isSome

/-- Whether a shape is this name. -/
def isNamed (s : Shape) (word : String) : Bool := (s.name?.map (·.isWord word)).getD false

/-- Whether a shape is a unary expression. -/
def isUnary : Shape → Bool
  | .unary => true
  | _ => false

/-- Whether a shape is an assignment. -/
def isAssign : Shape → Bool
  | .assign _ _ => true
  | _ => false

/-- Whether a shape is spread out. -/
def isSpread : Shape → Bool
  | .spread _ => true
  | _ => false

/-- Whether a shape begins with `yield`. -/
def isYielding : Shape → Bool
  | .yielding _ => true
  | _ => false

mutual
/-- The names that a shape binds when it is read as a pattern. -/
def boundNames : Shape → List CodeText
  | .name text => [text]
  | .spread argument => argument.boundNames
  | .assign left _ => left.boundNames
  | .array items => boundNamesOf items
  | .object values => boundNamesOf values
  | _ => []

/-- The names that several shapes bind. -/
def boundNamesOf : List Shape → List CodeText
  | [] => []
  | s :: rest => s.boundNames ++ boundNamesOf rest
end

end Shape

end GoogIndex.Script.Grammar
