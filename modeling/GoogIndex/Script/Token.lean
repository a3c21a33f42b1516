/-
  Script/Token.lean --- lexical tokens.

  Normative source: SPEC_FULL §3, `Token`.

  A token is its category and its literal source text: a string keeps its quotes
  and escapes, a number its spelling.
-/

set_option autoImplicit false

namespace GoogIndex.Script

/-- The category of a token. -/
inductive TokenKind where
  | boolean
  | identifier
  | keyword
  | null
  | numeric
  | punctuator
  | string
  | regularExpression
  | template
  /-- a category that no scanner of this library produces -/
  | other (label : String)
  deriving DecidableEq, Repr, Inhabited

/-- A lexical token. -/
structure Token where
  kind : TokenKind
  text : String
  deriving DecidableEq, Repr, Inhabited

/-- The categories that scanning produces, each with its label. -/
def TokenKind.labels : List (TokenKind × String) :=
  [(.boolean, "Boolean"), (.identifier, "Identifier"), (.keyword, "Keyword"), (.null, "Null"),
    (.numeric, "Numeric"), (.punctuator, "Punctuator"), (.string, "String"),
    (.regularExpression, "RegularExpression"), (.template, "Template")]

/-- The label of a category. -/
def TokenKind.label : TokenKind → String
  | .boolean => "Boolean"
  | .identifier => "Identifier"
  | .keyword => "Keyword"
  | .null => "Null"
  | .numeric => "Numeric"
  | .punctuator => "Punctuator"
  | .string => "String"
  | .regularExpression => "RegularExpression"
  | .template => "Template"
  | .other label => label

/-- The category with a label. -/
def TokenKind.ofLabel (label : String) : TokenKind :=
  match TokenKind.labels.find? fun k => k.2 = label with
  | some (kind, _) => kind
  | none => .other label

/-- The reserved words of the script language, with the two constants of boolean
type and `null` left out. -/
def keywords : List String :=
  ["if", "in", "do", "var", "for", "new", "try", "let", "this", "else", "case", "void", "with",
    "enum", "while", "break", "catch", "throw", "const", "yield", "class", "super", "return",
    "typeof", "delete", "switch", "export", "import", "default", "finally", "extends", "function",
    "continue", "debugger", "instanceof"]

/-- The category of a word.  A word of one character is an identifier. -/
def wordKind (word : String) : TokenKind :=
  if keywords.contains word then .keyword
  else if word = "null" then .null
  else if word = "true" ∨ word = "false" then .boolean
  else .identifier

end GoogIndex.Script
