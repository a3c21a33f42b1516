/-
  Script/Grammar/Fault.lean --- why a source is no script.
-/
import GoogIndex.Script.Lexeme.Fault

set_option autoImplicit false

namespace GoogIndex.Script.Grammar

/-- What is wrong with a script. -/
inductive Problem where
  | lexical (p : LexicalProblem)
  /-- the script ends too early -/
  | unexpectedEnd
  | unexpectedIdentifier
  | unexpectedNumber
  | unexpectedString
  | unexpectedTemplate (text : String)
  /-- a word that is reserved for later editions of the language -/
  | unexpectedReserved
  | unexpectedToken (text : String)
  /-- a token that has no text of its own to show -/
  | unexpectedUnnamed
  | reservedInStrict
  | strictOctal
  | strictWith
  | strictDelete
  | strictFunction
  | strictFunctionName
  | strictVariableName
  | strictCatchVariable
  | strictAssignment
  | strictPrefix
  | strictPostfix
  | strictParameterName
  | strictDuplicateParameter
  | lateStrictDirective
  | letAsName
  | duplicateBinding (name : String)
  | duplicatePrototype
  | duplicateConstructor
  | duplicateLabel (name : String)
  | unknownLabel (name : String)
  | multipleDefaults
  | missingInitializer (kind : String)
  | loopInitializer (kind : String)
  | defaultOnRest
  | restNotLast
  | propertyAfterRest
  | getterParameters
  | setterParameters
  | setterRestParameter
  | asyncConstructor
  | accessorConstructor
  | staticPrototype
  | assignmentTarget
  | forInTarget
  | forOfTarget
  | illegalReturn
  | illegalBreak
  | illegalContinue
  | newlineAfterThrow
  | loneTry
  | labelledGenerator
  | importArguments
  deriving DecidableEq, Repr, Inhabited

/-- The words for a problem. -/
def Problem.words : Problem → String
  | .lexical p => p.words
  | .unexpectedEnd => "Unexpected end of input"
  | .unexpectedIdentifier => "Unexpected identifier"
  | .unexpectedNumber => "Unexpected number"
  | .unexpectedString => "Unexpected string"
  | .unexpectedTemplate text => "Unexpected quasi " ++ text
  | .unexpectedReserved => "Unexpected reserved word"
  | .unexpectedToken text => "Unexpected token " ++ text
  | .unexpectedUnnamed => "Unexpected token"
  | .reservedInStrict => "Use of future reserved word in strict mode"
  | .strictOctal => "Octal literals are not allowed in strict mode."
  | .strictWith => "Strict mode code may not include a with statement"
  | .strictDelete => "Delete of an unqualified identifier in strict mode."
  | .strictFunction =>
      "In strict mode code, functions can only be declared at top level or inside a block"
  | .strictFunctionName => "Function name may not be eval or arguments in strict mode"
  | .strictVariableName => "Variable name may not be eval or arguments in strict mode"
  | .strictCatchVariable => "Catch variable may not be eval or arguments in strict mode"
  | .strictAssignment => "Assignment to eval or arguments is not allowed in strict mode"
  | .strictPrefix =>
      "Prefix increment/decrement may not have eval or arguments operand in strict mode"
  | .strictPostfix =>
      "Postfix increment/decrement may not have eval or arguments operand in strict mode"
  | .strictParameterName => "Parameter name eval or arguments is not allowed in strict mode"
  | .strictDuplicateParameter => "Strict mode function may not have duplicate parameter names"
  | .lateStrictDirective =>
      "Illegal 'use strict' directive in function with non-simple parameter list"
  | .letAsName => "let is disallowed as a lexically bound name"
  | .duplicateBinding name => "Duplicate binding " ++ name
  | .duplicatePrototype => "Duplicate __proto__ fields are not allowed in object literals"
  | .duplicateConstructor => "A class may only have one constructor"
  | .duplicateLabel name => "Label '" ++ name ++ "' has already been declared"
  | .unknownLabel name => "Undefined label '" ++ name ++ "'"
  | .multipleDefaults => "More than one default clause in switch statement"
  | .missingInitializer kind => "Missing initializer in " ++ kind ++ " declaration"
  | .loopInitializer kind => kind ++ " loop variable declaration may not have an initializer"
  | .defaultOnRest => "Unexpected token ="
  | .restNotLast => "Rest parameter must be last formal parameter"
  | .propertyAfterRest => "Unexpected token"
  | .getterParameters => "Getter must not have any formal parameters"
  | .setterParameters => "Setter must have exactly one formal parameter"
  | .setterRestParameter => "Setter function argument must not be a rest parameter"
  | .asyncConstructor => "Class constructor may not be an async method"
  | .accessorConstructor => "Class constructor may not be an accessor"
  | .staticPrototype => "Classes may not have static property named prototype"
  | .assignmentTarget => "Invalid left-hand side in assignment"
  | .forInTarget => "Invalid left-hand side in for-in"
  | .forOfTarget => "Invalid left-hand side in for-loop"
  | .illegalReturn => "Illegal return statement"
  | .illegalBreak => "Illegal break statement"
  | .illegalContinue => "Illegal continue statement"
  | .newlineAfterThrow => "Illegal newline after throw"
  | .loneTry => "Missing catch or finally after try"
  | .labelledGenerator => "Generator declarations are not allowed in legacy contexts"
  | .importArguments => "Unexpected token"

/-- Why parsing stopped. -/
inductive Fault where
  /-- the script has a problem in this line -/
  | problem (p : Problem) (line : Nat)
  /-- a substitution of a template has no expression -/
  | emptySubstitution
  /-- the bound on the parser's work was reached -/
  | exhausted
  deriving DecidableEq, Repr, Inhabited

/-- The kind of a fault in reports. -/
def Fault.label : Fault → String
  | .problem _ _ => "Error"
  | .emptySubstitution => "AssertionError"
  | .exhausted => "RecursionError"

/-- The report of a fault. -/
def Fault.message : Fault → String
  | .problem p line => "Line " ++ toString line ++ ": " ++ p.words
  | .emptySubstitution => "Template literal must start with a template head"
  | .exhausted => "maximum recursion depth exceeded"

end GoogIndex.Script.Grammar
