/-
  Script/Grammar/Statement.lean --- statements and declarations.
-/
import GoogIndex.Script.Grammar.Expression

set_option autoImplicit false

namespace GoogIndex.Script.Grammar

open Parse

/-! ## Parts of statements -/

/-- An expression in parentheses, as in the head of a statement. -/
def condition (g : Rules) : Parse Unit := do
  expect "("
  let _ ← expression g
  expect ")"

/-- The body of a loop. -/
def loopBody (g : Rules) : Parse Unit := do
  let before := (← context).inLoop
  withContext fun c => { c with inLoop := true }
  let _ ← g .statement
  withContext fun c => { c with inLoop := before }

/-- An expression as a statement. -/
def expressionStatement (g : Rules) : Parse Unit := do
  let _ ← expression g
  endStatement

/-- A list of statements and declarations in braces. -/
def block (g : Rules) : Parse Unit := do
  expect "\x7b"
  repeatStep () fun _ => do
    if ← sign "\x7d" then return .inr ()
    let _ ← g .item
    return .inl ()
  expect "\x7d"

/-! ## Declarations -/

/-- A declared name or pattern: what it is, and whether it has a value. -/
structure Declared where
  target : Shape
  hasValue : Bool
  deriving Repr, Inhabited

/-- What is declared, in a declaration that begins with this word. -/
def declaredTarget (g : Rules) (declaration : String) : Parse Shape := do
  let (target, _) ← collectBound (g (.pattern (some declaration)))
  if (← context).strict then
    if let some name := target.name? then
      if name.isAmong restrictedNames then failAhead .strictVariableName
  return target

/-- Items with commas between them. -/
def commaList {α : Type} (item : Parse α) : Parse (List α) := do
  let first ← item
  let items ← repeatStep [first] fun items => do
    if !(← sign ",") then return .inr items
    let _ ← take
    return .inl ((← item) :: items)
  return items.reverse

/-- One name or pattern after `var`.  A pattern needs a value, except in front of a loop. -/
def variableBinding (g : Rules) (inFor : Bool) : Parse Declared := do
  let target ← declaredTarget g "var"
  if ← sign "=" then
    let _ ← take
    let _ ← isolate (g .assignment)
    return ⟨target, true⟩
  else
    if !target.isName && !inFor then expect "="
    return ⟨target, false⟩

/-- One name or pattern after `let`.  A pattern needs a value, except in front of a loop. -/
def letBinding (g : Rules) (inFor : Bool) : Parse Declared := do
  let target ← declaredTarget g "let"
  if (!inFor && !target.isName) || (← sign "=") then
    expect "="
    let _ ← isolate (g .assignment)
    return ⟨target, true⟩
  else return ⟨target, false⟩

/-- One name or pattern after `const`.  It needs a value, except where a loop gives it
one. -/
def constBinding (g : Rules) : Parse Declared := do
  let target ← declaredTarget g "const"
  if (← keyword "in") || (← word "of") then return ⟨target, false⟩
  else if ← sign "=" then
    let _ ← take
    let _ ← isolate (g .assignment)
    return ⟨target, true⟩
  else failAfter (.missingInitializer "const")

/-- The names and patterns after `let` or `const`. -/
def bindings (g : Rules) (declaration : String) (inFor : Bool) : Parse (List Declared) :=
  commaList (if declaration == "const" then constBinding g else letBinding g inFor)

/-- A declaration with `let` or `const`. -/
def lexicalDeclaration (g : Rules) : Parse Unit := do
  let t ← take
  let _ ← bindings g t.value false
  endStatement

/-- Whether the word `let` begins a declaration here. -/
def lexicalFollows : Parse Bool := do
  let t ← lookBeyond
  match t.kind with
  | some .identifier => return true
  | some .punctuator => return t.value == "[" || t.value == "\x7b"
  | some .keyword => return t.value == "let" || t.value == "yield"
  | _ => return false

/-- A declaration with `var`. -/
def variableStatement (g : Rules) : Parse Unit := do
  expectKeyword "var"
  let _ ← commaList (variableBinding g false)
  endStatement

/-! ## Choices -/

/-- A branch of a choice.  In strict code it is no function. -/
def branch (g : Rules) : Parse Unit := do
  if (← context).strict && (← keyword "function") then failAhead .strictFunction
  let _ ← g .statement

/-- A choice between two statements. -/
def ifStatement (g : Rules) : Parse Unit := do
  expectKeyword "if"
  condition g
  branch g
  if ← keyword "else" then
    let _ ← take
    branch g

/-- One case of a switch.  The answer says whether it is the default. -/
def switchCase (g : Rules) : Parse Bool := do
  let isDefault ← keyword "default"
  if isDefault then
    let _ ← take
  else
    expectKeyword "case"
    let _ ← expression g
  expect ":"
  repeatStep () fun _ => do
    if (← sign "\x7d") || (← keyword "default") || (← keyword "case") then return .inr ()
    let _ ← g .item
    return .inl ()
  return isDefault

/-- A switch.  It has one default at most. -/
def switchStatement (g : Rules) : Parse Unit := do
  expectKeyword "switch"
  condition g
  let before := (← context).inSwitch
  withContext fun c => { c with inSwitch := true }
  expect "\x7b"
  repeatStep false fun hasDefault => do
    if ← sign "\x7d" then return .inr ()
    let isDefault ← switchCase g
    if isDefault && hasDefault then failAfter .multipleDefaults
    return .inl (hasDefault || isDefault)
  expect "\x7d"
  withContext fun c => { c with inSwitch := before }

/-! ## Loops -/

/-- A loop with its condition behind it. -/
def doStatement (g : Rules) : Parse Unit := do
  expectKeyword "do"
  loopBody g
  expectKeyword "while"
  condition g
  if ← sign ";" then
    let _ ← take

/-- A loop with its condition in front. -/
def whileStatement (g : Rules) : Parse Unit := do
  expectKeyword "while"
  condition g
  loopBody g

/-- Read something where `in` is no operator. -/
def withoutIn {α : Type} (p : Parse α) : Parse α := do
  let before := (← context).allowIn
  withContext fun c => { c with allowIn := false }
  let result ← p
  withContext fun c => { c with allowIn := before }
  return result

/-- The word `in` and the expression whose keys a loop goes over. -/
def loopKeys (g : Rules) : Parse Bool := do
  let _ ← take
  let _ ← expression g
  return true

/-- The word `of` and the expression whose items a loop goes over. -/
def loopItems (g : Rules) : Parse Bool := do
  let _ ← take
  let _ ← g .assignment
  return true

/-- The front of a loop that begins with `var`.  The answer says whether the loop goes over
the keys or items of something. -/
def varFront (g : Rules) : Parse Bool := do
  let _ ← take
  let found ← withoutIn (commaList (variableBinding g true))
  match found with
  | [d] =>
      if ← keyword "in" then
        if d.hasValue && (!d.target.isName || (← context).strict) then
          failAhead (.loopInitializer "for-in")
        return ← loopKeys g
      if !d.hasValue && (← word "of") then return ← loopItems g
  | _ => pure ()
  expect ";"
  return false

/-- The front of a loop that begins with `let` or `const`. -/
def lexicalFront (g : Rules) : Parse Bool := do
  let t ← take
  if !(← context).strict && (← peek).value == "in" then return ← loopKeys g
  let found ← withoutIn (bindings g t.value true)
  match found with
  | [⟨_, false⟩] =>
      if ← keyword "in" then return ← loopKeys g
      if ← word "of" then return ← loopItems g
  | _ => pure ()
  endStatement
  return false

/-- The front of a loop that begins with an expression. -/
def expressionFront (g : Rules) : Parse Bool := do
  let left ← withoutIn (inherit (g .assignment))
  let isPlace := (← context).isTarget && !left.isAssign
  if ← keyword "in" then
    if !isPlace then failAhead .forInTarget
    loopKeys g
  else if ← word "of" then
    if !isPlace then failAhead .forOfTarget
    loopItems g
  else
    if ← sign "," then
      let _ ← take
      let _ ← commaList (isolate (g .assignment))
    expect ";"
    return false

/-- The front of a loop up to its body: three parts, or a place and what it runs over. -/
def forFront (g : Rules) : Parse Unit := do
  let runsOver ←
    if ← sign ";" then do
      let _ ← take
      pure false
    else if ← keyword "var" then varFront g
    else if (← keyword "const") || (← keyword "let") then lexicalFront g
    else expressionFront g
  if !runsOver then
    if !(← sign ";") then
      let _ ← expression g
    expect ";"
    if !(← sign ")") then
      let _ ← expression g

/-- A loop with a front. -/
def forStatement (g : Rules) : Parse Unit := do
  expectKeyword "for"
  expect "("
  forFront g
  expect ")"
  isolate (loopBody g)

/-! ## Jumps -/

/-- The label that a jump names, if it does. -/
def jumpLabel : Parse (Option CodeText) := do
  if (← peek).kind == some .identifier && !(← lineBroken) then
    let label ← bindingName none
    match label.name? with
    | some name =>
        if !(← context).labels.contains name then failAfter (.unknownLabel name.text)
        return some name
    | none => return none
  else return none

/-- The jump to the next round of a loop. -/
def continueStatement : Parse Unit := do
  expectKeyword "continue"
  let label ← jumpLabel
  endStatement
  if label.isNone && !(← context).inLoop then failAfter .illegalContinue

/-- The jump out of a loop, a switch or a labelled statement. -/
def breakStatement : Parse Unit := do
  expectKeyword "break"
  let label ← jumpLabel
  endStatement
  let c ← context
  if label.isNone && !c.inLoop && !c.inSwitch then failAfter .illegalBreak

/-- The jump out of a function.  A string or template behind it is its value even on a line
of its own. -/
def returnStatement (g : Rules) : Parse Unit := do
  if !(← context).inFunction then failAhead .illegalReturn
  expectKeyword "return"
  let t ← peek
  let isText := t.kind == some .string || t.kind == some .template
  let ends ← do
    if ← signIn [";", "\x7d"] then pure true
    else if ← lineBroken then pure true
    else atEnd
  if isText || !ends then
    let _ ← expression g
  endStatement

/-- The jump to a handler. -/
def throwStatement (g : Rules) : Parse Unit := do
  expectKeyword "throw"
  if ← lineBroken then failAfter .newlineAfterThrow
  expressionStatement g

/-- A handler: what it catches and what it does. -/
def catchClause (g : Rules) : Parse Unit := do
  expectKeyword "catch"
  expect "("
  if ← sign ")" then unexpected (← peek)
  let (target, names) ← collectBound (g (.pattern none))
  let _ ← names.foldlM (fun (seen : List CodeText) t => do
    if seen.contains t.meaning then failAhead (.duplicateBinding t.value)
    return t.meaning :: seen) []
  if (← context).strict then
    if let some name := target.name? then
      if name.isAmong restrictedNames then failAhead .strictCatchVariable
  expect ")"
  block g

/-- A block with a handler, with a block that is run in any case, or with both. -/
def tryStatement (g : Rules) : Parse Unit := do
  expectKeyword "try"
  block g
  let hasHandler ← keyword "catch"
  if hasHandler then catchClause g
  if ← keyword "finally" then
    let _ ← take
    block g
  else if !hasHandler then failAfter .loneTry

/-! ## Other statements -/

/-- A statement in the scope of an object.  Strict code has none. -/
def withStatement (g : Rules) : Parse Unit := do
  if (← context).strict then failAhead .strictWith
  expectKeyword "with"
  condition g
  let _ ← g .statement

/-- The statement behind a label. -/
def labelledBody (g : Rules) : Parse Unit := do
  if ← keyword "class" then unexpected (← peek)
  else if ← keyword "function" then
    let t ← peek
    let isGenerator ← functionDeclaration g
    if (← context).strict then failAt t .strictFunction
    if isGenerator then failAt t .labelledGenerator
  else
    let _ ← g .statement

/-- A statement that begins with a name: the name is a label if a colon follows. -/
def labelledStatement (g : Rules) : Parse Unit := do
  let shape ← expression g
  match shape, ← sign ":" with
  | .name label, true =>
      let _ ← take
      if (← context).labels.contains label then failAfter (.duplicateLabel label.text)
      withContext fun c => { c with labels := label :: c.labels }
      labelledBody g
      withContext fun c => { c with labels := c.labels.erase label }
  | _, _ => endStatement

/-! ## All statements -/

/-- A statement that begins with a reserved word. -/
def keywordStatement (g : Rules) (text : String) : Parse Unit :=
  match text with
  | "break" => breakStatement
  | "continue" => continueStatement
  | "debugger" => do
      let _ ← take
      endStatement
  | "do" => doStatement g
  | "for" => forStatement g
  | "function" => do
      let _ ← functionDeclaration g
  | "if" => ifStatement g
  | "return" => returnStatement g
  | "switch" => switchStatement g
  | "throw" => throwStatement g
  | "try" => tryStatement g
  | "var" => variableStatement g
  | "while" => whileStatement g
  | "with" => withStatement g
  | _ => expressionStatement g

/-- A statement. -/
def statement (g : Rules) : Parse Unit := do
  let t ← peek
  match t.kind with
  | none => unexpected t
  | some .punctuator =>
      if t.value == "\x7b" then block g
      else if t.value == ";" then
        let _ ← take
      else expressionStatement g
  | some .identifier =>
      if ← asyncFunctionFollows then
        let _ ← functionDeclaration g
      else labelledStatement g
  | some .keyword => keywordStatement g t.value
  | some _ => expressionStatement g

/-- A statement, or a declaration that a list of statements may hold.  Exports and imports
belong to another kind of source. -/
def item (g : Rules) : Parse Unit := do
  withContext fun c => { c with isTarget := true, isBinding := true }
  let t ← peek
  if t.kind != some .keyword then statement g
  else
    match t.value with
    | "export" => failAt t .unexpectedUnnamed
    | "import" =>
        if ← importCallFollows then expressionStatement g else failAt t .unexpectedUnnamed
    | "const" => lexicalDeclaration g
    | "function" =>
        let _ ← functionDeclaration g
    | "class" => classDefinition g true
    | "let" => if ← lexicalFollows then lexicalDeclaration g else statement g
    | _ => statement g

end GoogIndex.Script.Grammar
