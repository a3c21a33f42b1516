/-
  Script/Grammar/Function.lean --- parameters and bodies of functions.

  Some rules on parameters depend on whether the function is strict, which its body
  decides.  The first offence of each kind is therefore kept until the body is read.
-/
import GoogIndex.Script.Grammar.Pattern

set_option autoImplicit false

namespace GoogIndex.Script.Grammar

open Parse

/-! ## Offences -/

/-- Something that strict mode forbids: where it is, if a token shows it, and what it
is. -/
structure Offence where
  place : Option Terminal
  problem : Problem
  deriving Repr, Inhabited

/-- Stop with an offence. -/
def raise {α : Type} (o : Offence) (problem : Problem) : Parse α :=
  match o.place with
  | some t => failAt t problem
  | none => failAfter problem

/-- What is known of some parameters: whether all of them are plain names, the names so
far, an offence in strict code, an offence if the code turns out strict, and the
problem found last. -/
structure Parameters where
  simple : Bool
  count : Nat
  last : Option Shape
  names : List CodeText
  stricted : Option (Option Terminal)
  restricted : Option (Option Terminal)
  problem : Option Problem
  deriving Repr, Inhabited

/-- No parameters yet; the name of the function may offend already. -/
def Parameters.start (restricted : Option (Option Terminal)) : Parameters :=
  ⟨true, 0, none, [], none, restricted, none⟩

/-- Take the name of a parameter into account. -/
def Parameters.check (p : Parameters) (strict : Bool) (place : Option Terminal) (name : CodeText) :
    Parameters :=
  let p :=
    if strict then
      let p :=
        if name.isAmong restrictedNames then
          { p with stricted := some place, problem := some .strictParameterName }
        else p
      if p.names.contains name then
        { p with stricted := some place, problem := some .strictDuplicateParameter }
      else p
    else if p.restricted.isNone then
      if name.isAmong restrictedNames then
        { p with restricted := some place, problem := some .strictParameterName }
      else if name.isAmong strictReserved then
        { p with restricted := some place, problem := some .reservedInStrict }
      else if p.names.contains name then
        { p with stricted := some place, problem := some .strictDuplicateParameter }
      else p
    else p
  { p with names := name :: p.names }

/-- Add a parameter. -/
def Parameters.push (p : Parameters) (shape : Shape) : Parameters :=
  { p with simple := p.simple && shape.isName, count := p.count + 1, last := some shape }

/-! ## Parameters -/

/-- One parameter. -/
def parameter (g : Rules) (p : Parameters) : Parse Parameters := do
  let (shape, names) ← collectBound do
    if ← sign "..." then restElement g none else patternWithDefault g none
  let strict := (← context).strict
  let p := names.foldl (fun p t => p.check strict (some t) t.meaning) p
  return p.push shape

/-- The parameters between their parentheses. -/
def parameters (g : Rules) (restricted : Option (Option Terminal)) : Parse Parameters := do
  expect "("
  let start := Parameters.start restricted
  let found ←
    if ← sign ")" then pure start
    else
      repeatStep start fun p => do
        if ← atEnd then return .inr p
        let p ← parameter g p
        if ← sign ")" then return .inr p
        expect ","
        if ← sign ")" then return .inr p
        return .inl p
  expect ")"
  return found

/-! ## Expressions in sequence -/

/-- Expressions with commas between them. -/
def expression (g : Rules) : Parse Shape := do
  let first ← isolate (g .assignment)
  if ← sign "," then
    let items ← repeatStep [first] fun items => do
      if ← atEnd then return .inr items
      if !(← sign ",") then return .inr items
      let _ ← take
      let next ← isolate (g .assignment)
      return .inl (next :: items)
    return .sequence items.reverse
  else return first

/-! ## Bodies -/

/-- The directives in front of a body.  A statement that is a string alone is one; the
first statement of any other kind ends them. -/
def directives (g : Rules) : Parse Unit :=
  repeatStep (none : Option Terminal) fun firstOctal => do
    let t ← peek
    if t.kind != some .string then return .inr ()
    let raw := ((← get).tokens.head?.map (·.text)).getD ""
    let shape ← expression g
    endStatement
    let directive := String.ofList (raw.toList.drop 1).dropLast
    match shape with
    | .literal _ =>
        if directive == "" then return .inr ()
        if directive == "use strict" then
          withContext fun c => { c with strict := true }
          if let some octal := firstOctal then failAt octal .strictOctal
          if !(← context).allowStrictDirective then failAt t .lateStrictDirective
          return .inl firstOctal
        else return .inl (if firstOctal.isNone && t.octal then some t else firstOctal)
    | _ => return .inr ()

/-- The body of a function, with its braces. -/
def functionBody (g : Rules) : Parse Unit := do
  expect "\x7b"
  directives g
  let outer ← context
  withContext fun c =>
    { c with labels := [], inLoop := false, inSwitch := false, inFunction := true }
  repeatStep () fun _ => do
    if (← atEnd) || (← sign "\x7d") then return .inr ()
    let _ ← g .item
    return .inl ()
  expect "\x7d"
  withContext fun c =>
    { c with
      labels := outer.labels
      inLoop := outer.inLoop
      inSwitch := outer.inSwitch
      inFunction := outer.inFunction }

/-- The body of a function with these parameters; `problem` is what is wrong with its
name, if nothing else is found. -/
def bodyFor (g : Rules) (p : Parameters) (problem : Option Problem) : Parse Unit := do
  let before ← context
  withContext fun c => { c with allowStrictDirective := p.simple }
  functionBody g
  let problem := (p.problem.orElse fun _ => problem).getD .unexpectedUnnamed
  if (← context).strict then
    if let some place := p.restricted then raise ⟨place, problem⟩ problem
    if let some place := p.stricted then raise ⟨place, problem⟩ problem
  withContext fun c =>
    { c with strict := before.strict, allowStrictDirective := before.allowStrictDirective }

/-! ## Functions -/

/-- What the name of a function may offend against. -/
structure NameOffence where
  restricted : Option (Option Terminal)
  problem : Option Problem

/-- Check the name of a function. -/
def checkFunctionName (t : Terminal) : Parse NameOffence := do
  if (← context).strict then
    if t.meaning.isAmong restrictedNames then failAt t .strictFunctionName
    return ⟨none, none⟩
  else if t.meaning.isAmong restrictedNames then return ⟨some (some t), some .strictFunctionName⟩
  else if t.meaning.isAmong strictReserved then return ⟨some (some t), some .reservedInStrict⟩
  else return ⟨none, none⟩

/-- Whether a function follows that begins with `async`. -/
def asyncFunctionFollows : Parse Bool := do
  if !(← word "async") then return false
  let line := (← get).cursor.line
  let t ← lookBeyond
  return line == t.line && t.kind == some .keyword && t.value == "function"

/-- A function as a declaration.  The answer says whether it is a generator. -/
def functionDeclaration (g : Rules) : Parse Bool := do
  let isAsync ← word "async"
  if isAsync then
    let _ ← take
  expectKeyword "function"
  let isGenerator ← if isAsync then pure false else sign "*"
  if isGenerator then
    let _ ← take
  let t ← peek
  let _ ← bindingName none
  let offence ← checkFunctionName t
  let before ← context
  withContext fun c => { c with allowAwait := isAsync, allowYield := !isGenerator }
  let p ← parameters g offence.restricted
  bodyFor g p offence.problem
  withContext fun c =>
    { c with allowAwait := before.allowAwait, allowYield := before.allowYield }
  return isGenerator

/-- A function as an expression. -/
def functionExpression (g : Rules) : Parse Shape := do
  let isAsync ← word "async"
  if isAsync then
    let _ ← take
  expectKeyword "function"
  let isGenerator ← if isAsync then pure false else sign "*"
  if isGenerator then
    let _ ← take
  let before ← context
  withContext fun c => { c with allowAwait := isAsync, allowYield := !isGenerator }
  let offence ←
    if ← sign "(" then pure ⟨none, none⟩
    else
      let t ← peek
      if !(← context).strict && !isGenerator && (← keyword "yield") then
        let _ ← anyName
      else
        let _ ← bindingName none
      checkFunctionName t
  let p ← parameters g offence.restricted
  bodyFor g p offence.problem
  withContext fun c =>
    { c with allowAwait := before.allowAwait, allowYield := before.allowYield }
  return .other

/-! ## Methods -/

/-- The body of a method with these parameters. -/
def methodBody (g : Rules) (p : Parameters) : Parse Unit := do
  noTarget
  let before ← context
  withContext fun c => { c with allowStrictDirective := p.simple }
  isolate (functionBody g)
  let problem := p.problem.getD .unexpectedUnnamed
  if (← context).strict then
    if let some place := p.restricted then raise ⟨place, problem⟩ problem
    if let some place := p.stricted then raise ⟨place, problem⟩ problem
  withContext fun c =>
    { c with strict := before.strict, allowStrictDirective := before.allowStrictDirective }

/-- A method. -/
def method (g : Rules) (isAsync : Bool) : Parse Unit := do
  let before ← context
  withContext fun c =>
    if isAsync then { c with allowYield := false, allowAwait := true }
    else { c with allowYield := true }
  let p ← parameters g none
  methodBody g p
  withContext fun c =>
    { c with allowYield := before.allowYield, allowAwait := before.allowAwait }

/-- A method that yields. -/
def generatorMethod (g : Rules) : Parse Unit := do
  let before := (← context).allowYield
  withContext fun c => { c with allowYield := true }
  let p ← parameters g none
  withContext fun c => { c with allowYield := false }
  methodBody g p
  withContext fun c => { c with allowYield := before }

/-- A method that reads a property. -/
def getter (g : Rules) : Parse Unit := do
  -- from here on `yield` is no name in the code around it either
  withContext fun c => { c with allowYield := false }
  let before := (← context).allowYield
  withContext fun c => { c with allowYield := true }
  let p ← parameters g none
  if p.count != 0 then failAhead .getterParameters
  methodBody g p
  withContext fun c => { c with allowYield := before }

/-- A method that writes a property. -/
def setter (g : Rules) : Parse Unit := do
  let before := (← context).allowYield
  withContext fun c => { c with allowYield := true }
  let p ← parameters g none
  if p.count != 1 then failAhead .setterParameters
  else if (p.last.map Shape.isSpread).getD false then failAhead .setterRestParameter
  methodBody g p
  withContext fun c => { c with allowYield := before }

end GoogIndex.Script.Grammar
