/-
  Script/Grammar/Pattern.lean --- names, keys of properties, and patterns.
-/
import GoogIndex.Script.Grammar.Reader

set_option autoImplicit false

namespace GoogIndex.Script.Grammar

open Parse

/-! ## Names and keys -/

/-- A name that something is bound to.  `declaration` is the word of the declaration it
stands in: only after `var` may it be `let`. -/
def bindingName (declaration : Option String) : Parse Shape := do
  let t ← take
  let c ← context
  if t.kind == some .keyword && t.value == "yield" then
    if c.strict then failAt t .reservedInStrict
    else if !c.allowYield then unexpected t
  else if t.kind != some .identifier then
    if c.strict && t.kind == some .keyword && strictReserved.contains t.value then
      failAt t .reservedInStrict
    else if c.strict || t.value != "let" || declaration != some "var" then unexpected t
  else if c.allowAwait && t.value == "await" then unexpected t
  return .name t.meaning

/-- Whether a token can be a name where reserved words are allowed. -/
def isAnyName (t : Terminal) : Bool :=
  match t.kind with
  | some .identifier => true
  | some .keyword => true
  | some .boolean => true
  | some .null => true
  | _ => false

/-- A name where reserved words are allowed. -/
def anyName : Parse CodeText := do
  let t ← take
  if !isAnyName t then unexpected t
  return t.meaning

/-- The key of a property: the word it is, and the text it stands for. -/
structure Key where
  word : Option CodeText
  text : Option CodeText
  deriving Repr, Inhabited

/-- Whether a key stands for this text. -/
def Key.isText (k : Key) (text : String) : Bool := (k.text.map (·.isWord text)).getD false

/-- The key of a property.  A key in brackets is the text of the expression in them, if
that is a name or a string; whether the brackets count is for the caller to say. -/
def propertyKey (g : Rules) : Parse Key := do
  let t ← take
  match t.kind with
  | some .string =>
      if (← context).strict && t.octal then failAt t .strictOctal
      return ⟨none, some t.meaning⟩
  | some .numeric =>
      if (← context).strict && t.octal then failAt t .strictOctal
      return ⟨none, none⟩
  | some .punctuator =>
      if t.value == "[" then
        let shape ← isolate (g .assignment)
        expect "]"
        return ⟨none, shape.keyText?⟩
      else unexpected t
  | _ =>
      if isAnyName t then return ⟨some t.meaning, some t.meaning⟩ else unexpected t

/-- Whether a token can begin the key of a property. -/
def beginsKey (t : Terminal) : Bool :=
  match t.kind with
  | some .string => true
  | some .numeric => true
  | some .punctuator => t.value == "["
  | _ => isAnyName t

/-! ## Patterns -/

/-- Note a bound name. -/
def bind (t : Terminal) : Parse Unit := modify fun s => { s with bound := t :: s.bound }

/-- A pattern, with a default if one follows. -/
def patternWithDefault (g : Rules) (declaration : Option String) : Parse Shape := do
  let p ← g (.pattern declaration)
  if ← sign "=" then
    let _ ← take
    let before := (← context).allowYield
    withContext fun c => { c with allowYield := true }
    let right ← isolate (g .assignment)
    withContext fun c => { c with allowYield := before }
    return .assign p right
  else return p

/-- Three points and a pattern, at the end of parameters. -/
def restElement (g : Rules) (declaration : Option String) : Parse Shape := do
  expect "..."
  let p ← g (.pattern declaration)
  if ← sign "=" then failAfter .defaultOnRest
  if !(← sign ")") then failAfter .restNotLast
  return .spread p

/-- A pattern for the items of a list. -/
def arrayPattern (g : Rules) (declaration : Option String) : Parse Shape := do
  expect "["
  let items ← repeatStep ([] : List Shape) fun items => do
    if ← sign "]" then return .inr items
    if ← sign "," then
      let _ ← take
      return .inl items
    if ← sign "..." then
      expect "..."
      let p ← g (.pattern declaration)
      return .inr (.spread p :: items)
    let p ← patternWithDefault g declaration
    if !(← sign "]") then expect ","
    return .inl (p :: items)
  expect "]"
  return .array items.reverse

/-- A pattern for one property. -/
def propertyPattern (g : Rules) (declaration : Option String) : Parse Shape := do
  let t ← peek
  if t.kind == some .identifier then
    let name ← bindingName none
    if ← sign "=" then
      bind t
      let _ ← take
      let right ← g .assignment
      return .assign name right
    else if !(← sign ":") then
      bind t
      return name
    else
      expect ":"
      patternWithDefault g declaration
  else
    let _ ← propertyKey g
    expect ":"
    patternWithDefault g declaration

/-- Three points and a pattern for the properties that are left. -/
def restProperty (g : Rules) : Parse Shape := do
  expect "..."
  let p ← g (.pattern none)
  if ← sign "=" then failAfter .defaultOnRest
  if !(← sign "\x7d") then failAfter .propertyAfterRest
  return .spread p

/-- A pattern for the properties of an object. -/
def objectPattern (g : Rules) (declaration : Option String) : Parse Shape := do
  expect "\x7b"
  let values ← repeatStep ([] : List Shape) fun values => do
    if ← sign "\x7d" then return .inr values
    let p ← if ← sign "..." then restProperty g else propertyPattern g declaration
    if !(← sign "\x7d") then expect ","
    return .inl (p :: values)
  expect "\x7d"
  return .object values.reverse

/-- A pattern.  `let` is no name in a declaration that begins with `let` or `const`. -/
def pattern (g : Rules) (declaration : Option String) : Parse Shape := do
  if ← sign "[" then arrayPattern g declaration
  else if ← sign "\x7b" then objectPattern g declaration
  else
    let t ← peek
    if t.kind == some .keyword && t.value == "let"
        && (declaration == some "const" || declaration == some "let") then
      failAt t .letAsName
    bind t
    bindingName declaration

end GoogIndex.Script.Grammar
