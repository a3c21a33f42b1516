/-
  Script/Grammar/Expression.lean --- expressions, from the inside out.
-/
import GoogIndex.Script.Grammar.Class

set_option autoImplicit false

namespace GoogIndex.Script.Grammar

open Parse

/-! ## Templates, lists and objects -/

/-- A template with its substitutions. -/
def templateLiteral (g : Rules) : Parse Unit := do
  let first ← peek
  if !first.opens then fail .emptySubstitution
  let _ ← take
  if first.closes then return
  repeatStep () fun _ => do
    let _ ← expression g
    if (← peek).kind != some .template then failAfter (.lexical .illegal)
    let piece ← take
    return if piece.closes then .inr () else .inl ()

/-- Three points and an expression. -/
def spreadElement (g : Rules) : Parse Shape := do
  expect "..."
  return .spread (← inherit (g .assignment))

/-- A list. -/
def arrayLiteral (g : Rules) : Parse Shape := do
  expect "["
  let items ← repeatStep ([] : List Shape) fun items => do
    if ← sign "]" then return .inr items
    if ← sign "," then
      let _ ← take
      return .inl items
    if ← sign "..." then
      let item ← spreadElement g
      if !(← sign "]") then
        noTarget
        expect ","
      return .inl (item :: items)
    let item ← inherit (g .assignment)
    if !(← sign "]") then expect ","
    return .inl (item :: items)
  expect "]"
  return .array items.reverse

/-- The value of a property that is neither marked nor read by a method: after a colon,
as a method, or the name itself, perhaps with a default that only a pattern can have.
`hasProto` says whether the prototype was given already. -/
def plainProperty (g : Rules) (t : Terminal) (key : Option Key) (computed isAsync hasProto : Bool) :
    Parse (Shape × Bool) := do
  let some key := key | unexpected (← peek)
  if (← sign ":") && !isAsync then
    let isProto := !computed && (key.isText "__proto__")
    if isProto && hasProto then failAhead .duplicatePrototype
    let _ ← take
    return (← inherit (g .assignment), hasProto || isProto)
  else if ← sign "(" then
    method g isAsync
    return (.other, hasProto)
  else if t.kind == some .identifier then
    if ← sign "=" then
      let mark ← peek
      withContext fun c => { c with patternDefault := some mark }
      let _ ← take
      let right ← isolate (g .assignment)
      return (.assign (.name t.meaning) right, hasProto)
    else return (.name t.meaning, hasProto)
  else unexpected (← take)

/-- A property of an object. -/
def property (g : Rules) (hasProto : Bool) : Parse (Shape × Bool) := do
  let t ← peek
  let (key, computed, isAsync) ←
    if t.kind == some .identifier then do
      let _ ← take
      let computed ← sign "["
      let isAsync := !(← lineBroken) && t.value == "async"
        && !(← signIn [":", "(", "*", ","])
      if isAsync then pure (some (← propertyKey g), computed, true)
      else pure (some ⟨some t.meaning, some t.meaning⟩, computed, false)
    else if ← sign "*" then do
      let _ ← take
      pure (none, false, false)
    else do
      let computed ← sign "["
      pure (some (← propertyKey g), computed, false)
  let keyFollows := beginsKey (← peek)
  let marked := t.kind == some .identifier && !isAsync && keyFollows
  if marked && t.value == "get" then
    let _ ← propertyKey g
    getter g
    return (.other, hasProto)
  else if marked && t.value == "set" then
    let _ ← propertyKey g
    setter g
    return (.other, hasProto)
  else if isSign t "*" && keyFollows then
    let _ ← propertyKey g
    generatorMethod g
    return (.other, hasProto)
  else plainProperty g t key computed isAsync hasProto

/-- An object. -/
def objectLiteral (g : Rules) : Parse Shape := do
  expect "\x7b"
  let values ← repeatStep (([], false) : List Shape × Bool) fun (values, hasProto) => do
    if ← sign "\x7d" then return .inr values
    let (value, hasProto) ←
      if ← sign "..." then do pure (← spreadElement g, hasProto) else property g hasProto
    if !(← sign "\x7d") then expect ","
    return .inl (value :: values, hasProto)
  expect "\x7d"
  return .object values.reverse

/-! ## Parentheses -/

/-- Require the arrow that makes parameters of what came before. -/
def requireArrow : Parse Unit := do
  if !(← sign "=>") then expect "=>"

/-- What a list in parentheses turns out to be: expressions, with the closing parenthesis
to come, or parameters, which are complete. -/
inductive GroupRest where
  | expressions (items : List Shape)
  | parameters (items : List Shape)

/-- What follows the first expression of a list in parentheses. -/
def groupRest (g : Rules) (first : Shape) : Parse GroupRest := do
  withContext fun c => { c with isTarget := false }
  repeatStep [first] fun items => do
    if (← atEnd) || !(← sign ",") then return .inr (.expressions items.reverse)
    let _ ← take
    if ← sign ")" then
      let _ ← take
      return .inr (.parameters items.reverse)
    else if ← sign "..." then
      if !(← context).isBinding then unexpected (← peek)
      let (last, _) ← collectBound (restElement g none)
      expect ")"
      requireArrow
      withContext fun c => { c with isBinding := false }
      return .inr (.parameters (last :: items).reverse)
    else
      let next ← inherit (g .assignment)
      return .inl (next :: items)

/-- The end of an expression in parentheses, which may be the parameters of an arrow. -/
def closeGroup (inner : Shape) : Parse Shape := do
  expect ")"
  let isArrow ← sign "=>"
  let c ← context
  let shape ←
    if !isArrow then pure inner
    else if inner.isNamed "yield" then pure (.parameters [inner] false)
    else if !c.isBinding then unexpected (← peek)
    else
      match inner with
      | .sequence items => pure (.parameters items false)
      | _ => pure (Shape.parameters [inner] false)
  withContext fun c => { c with isBinding := false }
  return shape

/-- An expression in parentheses, or the parameters of an arrow. -/
def group (g : Rules) : Parse Shape := do
  expect "("
  if ← sign ")" then
    let _ ← take
    requireArrow
    return .parameters [] false
  if ← sign "..." then
    let (rest, _) ← collectBound (restElement g none)
    expect ")"
    requireArrow
    return .parameters [rest] false
  withContext fun c => { c with isBinding := true }
  let first ← inherit (g .assignment)
  if ← sign "," then
    match ← groupRest g first with
    | .expressions items => closeGroup (.sequence items)
    | .parameters items => return .parameters items false
  else closeGroup first

/-! ## Primary expressions -/

/-- Whether the word `import` follows with a parenthesis behind it. -/
def importCallFollows : Parse Bool := do
  if !(← keyword "import") then return false
  return isSign (← lookBeyond) "("

/-- An expression that begins with a reserved word. -/
def keywordExpression (g : Rules) : Parse Shape := do
  let c ← context
  if !c.strict && c.allowYield && (← keyword "yield") then
    return .name (← anyName)
  else if !c.strict && (← keyword "let") then
    return .name (← take).meaning
  else
    noTarget
    if ← keyword "function" then functionExpression g
    else if ← keyword "this" then
      let _ ← take
      return .other
    else if ← keyword "class" then
      classDefinition g false
      return .other
    else if ← importCallFollows then
      expectKeyword "import"
      return .importWord
    else unexpected (← take)

/-- An expression without operators around it. -/
def primary (g : Rules) : Parse Shape := do
  let t ← peek
  match t.kind with
  | some .identifier =>
      if (← context).allowAwait && t.value == "await" then unexpected t
      if ← asyncFunctionFollows then functionExpression g
      else return .name (← take).meaning
  | some .numeric | some .string =>
      if (← context).strict && t.octal then failAt t .strictOctal
      noTarget
      let _ ← take
      return .literal (if t.kind == some .string then some t.meaning else none)
  | some .boolean | some .null =>
      noTarget
      let _ ← take
      return .literal none
  | some .template =>
      templateLiteral g
      return .other
  | some .punctuator =>
      if t.value == "(" then
        withContext fun c => { c with isBinding := false }
        inherit (group g)
      else if t.value == "[" then inherit (arrayLiteral g)
      else if t.value == "\x7b" then inherit (objectLiteral g)
      else if t.value == "/" || t.value == "/=" then
        noTarget
        takePattern
        return .literal none
      else unexpected (← take)
  | some .keyword => keywordExpression g
  | _ => unexpected (← take)

/-! ## Calls and members -/

/-- Arguments between their parentheses. -/
def arguments (g : Rules) (one : Parse Shape) : Parse (List Shape) := do
  expect "("
  let items ←
    if ← sign ")" then pure []
    else
      repeatStep ([] : List Shape) fun items => do
        let item ← if ← sign "..." then spreadElement g else isolate one
        if ← sign ")" then return .inr (item :: items)
        expect ","
        if ← sign ")" then return .inr (item :: items)
        return .inl (item :: items)
  expect ")"
  return items.reverse

/-- An argument that may turn out to be the parameter of an arrow. -/
def arrowArgument (g : Rules) : Parse Shape := do
  let item ← g .assignment
  withContext fun c => { c with patternDefault := none }
  return item

/-- An object that is made with `new`. -/
def newExpression (g : Rules) : Parse Shape := do
  let _ ← anyName
  if ← sign "." then
    let _ ← take
    if (← word "target") && (← context).inFunction then
      let _ ← anyName
      return .other
    else unexpected (← peek)
  else if ← keyword "import" then unexpected (← peek)
  else
    let _ ← isolate (g .leftHandSide)
    if ← sign "(" then
      let _ ← arguments g (g .assignment)
    noTarget
    return .other

/-- One step to a member, if one follows: a name after a point, an expression in brackets,
or a template. -/
def memberStep (g : Rules) : Parse Bool := do
  if ← sign "." then
    memberTarget
    expect "."
    let _ ← anyName
    return true
  else if ← sign "[" then
    memberTarget
    expect "["
    let _ ← isolate (expression g)
    expect "]"
    return true
  else
    let t ← peek
    if t.kind == some .template && t.opens then
      templateLiteral g
      return true
    else return false

/-- The start of a member expression. -/
def memberBase (g : Rules) : Parse Shape := do
  if ← keyword "new" then inherit (newExpression g) else inherit (primary g)

/-- The parent class, in front of one of these marks. -/
def superBase (marks : List String) : Parse Shape := do
  let _ ← take
  if !(← signIn marks) then unexpected (← peek)
  return .other

/-- A member expression without calls. -/
def leftHandSide (g : Rules) : Parse Shape := do
  let base ←
    if (← keyword "super") && (← context).inFunction then superBase ["[", "."]
    else memberBase g
  repeatStep base fun shape => do
    if ← memberStep g then return .inl .other else return .inr shape

/-- A call.  After the word `async` on the same line its arguments may turn out to be
parameters. -/
def call (g : Rules) (start : Terminal) (shape : Shape) : Parse Shape := do
  let mayBeArrow := start.kind == some .identifier && start.value == "async"
    && start.line == (← peek).line
  noTarget
  let items ← arguments g (if mayBeArrow then arrowArgument g else g .assignment)
  match shape with
  | .importWord => if items.length != 1 then failAhead .importArguments
  | _ => pure ()
  if mayBeArrow && (← sign "=>") then return .parameters items true
  else return .other

/-- A member expression with calls. -/
def callee (g : Rules) : Parse Shape := do
  let start ← peek
  let before := (← context).allowIn
  withContext fun c => { c with allowIn := true }
  let base ←
    if (← keyword "super") && (← context).inFunction then superBase ["(", ".", "["]
    else memberBase g
  let shape ← repeatStep base fun shape => do
    if ← sign "(" then return .inl (← call g start shape)
    else if ← memberStep g then return .inl .other
    else return .inr shape
  withContext fun c => { c with allowIn := before }
  return shape

/-! ## Operators -/

/-- Check the operand of an increment or decrement. -/
def checkOperand (shape : Shape) (problem : Problem) : Parse Unit := do
  let c ← context
  if c.strict then
    if let some name := shape.name? then
      if name.isAmong restrictedNames then failAhead problem
  if !c.isTarget then failAhead .assignmentTarget

/-- An increment, a decrement, or neither. -/
def update (g : Rules) : Parse Shape := do
  if ← signIn ["++", "--"] then
    let _ ← take
    let shape ← inherit (g .unary)
    checkOperand shape .strictPrefix
    noTarget
    return .other
  else
    let shape ← inherit (callee g)
    if !(← lineBroken) && (← signIn ["++", "--"]) then
      checkOperand shape .strictPostfix
      noTarget
      let _ ← take
      return .other
    else return shape

/-- The words that are unary operators. -/
def unaryWords : List String := ["delete", "void", "typeof"]

/-- An operator in front of an operand, or an operand alone. -/
def unary (g : Rules) : Parse Shape := do
  let t ← peek
  if (← signIn ["+", "-", "~", "!"]) ||
      (t.kind == some .keyword && unaryWords.contains t.value) then
    let _ ← take
    let shape ← inherit (g .unary)
    if (← context).strict && t.kind == some .keyword && t.value == "delete" && shape.isName then
      failAhead .strictDelete
    noTarget
    return .unary
  else if (← context).allowAwait && (← word "await") then
    let _ ← take
    let _ ← g .unary
    return .other
  else update g

/-- A power, or no power. -/
def exponentiation (g : Rules) : Parse Shape := do
  let shape ← inherit (unary g)
  if !shape.isUnary && (← sign "**") then
    let _ ← take
    noTarget
    let _ ← isolate (g .exponentiation)
    return .other
  else return shape

/-- The punctuators between two operands. -/
def binarySigns : List String :=
  ["||", "&&", "|", "^", "&", "==", "!=", "===", "!==", "<", ">", "<=", ">=", "<<", ">>", ">>>",
    "+", "-", "*", "/", "%"]

/-- Whether an operator between two operands follows. -/
def binaryFollows : Parse Bool := do
  let t ← peek
  match t.kind with
  | some .punctuator => return binarySigns.contains t.value
  | some .keyword => return t.value == "instanceof" || (t.value == "in" && (← context).allowIn)
  | _ => return false

/-- Operands with operators between them. -/
def binary (g : Rules) : Parse Shape := do
  let shape ← inherit (exponentiation g)
  if ← binaryFollows then
    let _ ← take
    noTarget
    let _ ← isolate (exponentiation g)
    repeatStep Shape.other fun shape => do
      if ← binaryFollows then
        let _ ← take
        let _ ← isolate (exponentiation g)
        return .inl shape
      else return .inr shape
  else return shape

/-- A choice between two expressions, or no choice. -/
def conditional (g : Rules) : Parse Shape := do
  let shape ← inherit (binary g)
  if ← sign "?" then
    let _ ← take
    let before := (← context).allowIn
    withContext fun c => { c with allowIn := true }
    let _ ← isolate (g .assignment)
    withContext fun c => { c with allowIn := before }
    expect ":"
    let _ ← isolate (g .assignment)
    noTarget
    return .other
  else return shape

/-! ## Arrows, `yield` and assignments -/

/-- Whether an expression can begin with the next token, after `yield`. -/
def beginsExpression : Parse Bool := do
  let t ← peek
  match t.kind with
  | some .punctuator =>
      return ["[", "(", "\x7b", "+", "-", "!", "~", "++", "--", "/", "/="].contains t.value
  | some .keyword =>
      return ["class", "delete", "function", "let", "new", "super", "this", "typeof", "void",
        "yield"].contains t.value
  | _ => return true

/-- An expression that begins with `yield`. -/
def yieldExpression (g : Rules) : Parse Shape := do
  expectKeyword "yield"
  if ← lineBroken then return .yielding false
  let before := (← context).allowYield
  withContext fun c => { c with allowYield := false }
  let hasArgument ←
    if ← sign "*" then do
      let _ ← take
      let _ ← g .assignment
      pure true
    else if ← beginsExpression then do
      let _ ← g .assignment
      pure true
    else pure false
  withContext fun c => { c with allowYield := before }
  return .yielding hasArgument

/-- Check one parameter of an arrow. -/
def arrowParameter (isAsync : Bool) (p : Parameters) (shape : Shape) : Parse Parameters := do
  match shape with
  | .assign _ (.yielding true) => unexpected (← peek)
  | _ => if isAsync && shape.isNamed "await" then unexpected (← peek)
  let c ← context
  if (c.strict || !c.allowYield) && shape.isYielding then unexpected (← peek)
  return (shape.boundNames.foldl (fun p name => p.check c.strict none name) p).push shape

/-- The parameters of an arrow. -/
def arrowParameters (isAsync : Bool) (shapes : List Shape) : Parse Parameters := do
  let p ← shapes.foldlM (arrowParameter isAsync) (Parameters.start none)
  if p.problem = some .strictDuplicateParameter then failAfter .strictDuplicateParameter
  return p

/-- The arrow and the body behind these parameters. -/
def arrow (g : Rules) (isAsync : Bool) (shapes : List Shape) : Parse Shape := do
  noTarget
  let p ← arrowParameters isAsync shapes
  if ← lineBroken then unexpected (← peek)
  withContext fun c => { c with patternDefault := none }
  let before ← context
  withContext fun c =>
    { c with allowStrictDirective := p.simple, allowYield := true, allowAwait := isAsync }
  expect "=>"
  if ← sign "\x7b" then
    let allowIn := (← context).allowIn
    withContext fun c => { c with allowIn := true }
    functionBody g
    withContext fun c => { c with allowIn := allowIn }
  else
    let _ ← isolate (g .assignment)
  let problem := p.problem.getD .unexpectedUnnamed
  if (← context).strict then
    if let some place := p.restricted then raise ⟨place, problem⟩ problem
    if let some place := p.stricted then raise ⟨place, problem⟩ problem
  withContext fun c =>
    { c with
      strict := before.strict
      allowStrictDirective := before.allowStrictDirective
      allowYield := before.allowYield
      allowAwait := before.allowAwait }
  return .other

/-- The punctuators that assign. -/
def assignmentSigns : List String :=
  ["=", "*=", "**=", "/=", "%=", "+=", "-=", "<<=", ">>=", ">>>=", "&=", "^=", "|="]

/-- Check the target of an assignment, whose first token is `start`. -/
def checkTarget (start : Terminal) (left : Shape) : Parse Unit := do
  let c ← context
  if !c.isTarget then failAhead .assignmentTarget
  if c.strict then
    if let some name := left.name? then
      if name.isAmong restrictedNames then failAt start .strictAssignment
      if name.isAmong strictReserved then failAt start .reservedInStrict

/-- An assignment to what was read, if one follows. -/
def assignmentRest (g : Rules) (start : Terminal) (left : Shape) : Parse Shape := do
  if !(← signIn assignmentSigns) then return left
  checkTarget start left
  if !(← sign "=") then noTarget
  let _ ← take
  let right ← isolate (g .assignment)
  withContext fun c => { c with patternDefault := none }
  return .assign left right

/-- After the word `async` on the same line, the single parameter of an arrow. -/
def asyncParameter (g : Rules) (start : Terminal) (shape : Shape) : Parse Shape := do
  let t ← peek
  if start.kind == some .identifier && start.value == "async" && start.line == t.line
      && (t.kind == some .identifier || (t.kind == some .keyword && t.value == "yield")) then
    return .parameters [← primary g] true
  else return shape

/-- An expression without commas. -/
def assignment (g : Rules) : Parse Shape := do
  if !(← context).allowYield && (← keyword "yield") then yieldExpression g
  else
    let start ← peek
    let shape ← asyncParameter g start (← conditional g)
    match shape, ← sign "=>" with
    | .parameters items isAsync, _ => arrow g isAsync items
    | .name text, true => arrow g false [.name text]
    | _, true =>
        -- no parameters: the arrow has no place, which the caller finds
        noTarget
        return shape
    | _, false => assignmentRest g start shape

end GoogIndex.Script.Grammar
