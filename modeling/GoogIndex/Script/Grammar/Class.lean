/-
  Script/Grammar/Class.lean --- classes.
-/
import GoogIndex.Script.Grammar.Function

set_option autoImplicit false

namespace GoogIndex.Script.Grammar

open Parse

/-- What a member of a class is. -/
inductive MemberKind where
  | getter
  | setter
  | method
  | generator
  deriving DecidableEq, Repr

/-- The front of a member: the token that decides its kind, its key, and what was said
before the key. -/
structure MemberFront where
  token : Terminal
  key : Option Key
  computed : Bool
  isStatic : Bool
  isAsync : Bool

/-- Read a member up to its key. -/
def memberFront (g : Rules) : Parse MemberFront := do
  let t ← peek
  if ← sign "*" then
    let _ ← take
    return ⟨t, none, false, false, false⟩
  let computed ← sign "["
  let key ← propertyKey g
  let plain : MemberFront := ⟨t, some key, computed, false, false⟩
  let front ←
    if (key.word.map (·.isWord "static")).getD false && (beginsKey (← peek) || (← sign "*")) then do
      let t ← peek
      let computed ← sign "["
      if ← sign "*" then
        let _ ← take
        pure { plain with token := t, computed := computed, isStatic := true }
      else
        let key ← propertyKey g
        pure { plain with token := t, key := some key, computed := computed, isStatic := true }
    else pure plain
  let t := front.token
  if t.kind == some .identifier && !(← lineBroken) && t.value == "async"
      && !([":", "(", "*"].contains (← peek).value) then
    let t ← peek
    let key ← propertyKey g
    if t.kind == some .identifier && t.value == "constructor" then failAt t .asyncConstructor
    return { front with token := t, key := some key, isAsync := true }
  else return front

/-- Read the rest of a member whose kind its first token shows. -/
def markedMember (g : Rules) (front : MemberFront) : Parse (Option (MemberKind × Key × Bool)) := do
  let t := front.token
  let keyFollows := beginsKey (← peek)
  if t.kind == some .identifier && t.value == "get" && keyFollows then
    let computed ← sign "["
    let key ← propertyKey g
    getter g
    return some (.getter, key, computed)
  else if t.kind == some .identifier && t.value == "set" && keyFollows then
    let computed ← sign "["
    let key ← propertyKey g
    setter g
    return some (.setter, key, computed)
  else if isSign t "*" && keyFollows then
    let computed ← sign "["
    let key ← propertyKey g
    generatorMethod g
    return some (.generator, key, computed)
  else return none

/-- A member of a class.  The answer says whether the class has a constructor. -/
def classMember (g : Rules) (hasConstructor : Bool) : Parse Bool := do
  let front ← memberFront g
  let (kind, key, computed) ←
    match ← markedMember g front with
    | some found => pure found
    | none =>
        match front.key with
        | some key =>
            if ← sign "(" then
              method g front.isAsync
              pure (MemberKind.method, key, front.computed)
            else unexpected (← peek)
        | none => unexpected (← peek)
  if computed then return hasConstructor
  if front.isStatic && key.isText "prototype" then failAt front.token .staticPrototype
  if !front.isStatic && key.isText "constructor" then
    if kind != .method then failAt front.token .accessorConstructor
    if hasConstructor then failAt front.token .duplicateConstructor
    return true
  return hasConstructor

/-- The members of a class, with their braces. -/
def classBody (g : Rules) : Parse Unit := do
  expect "\x7b"
  repeatStep false fun hasConstructor => do
    if ← sign "\x7d" then return .inr ()
    if ← sign ";" then
      let _ ← take
      return .inl hasConstructor
    return .inl (← classMember g hasConstructor)
  expect "\x7d"

/-- A class.  All of it is strict.  In an expression its name may be left out. -/
def classDefinition (g : Rules) (nameRequired : Bool) : Parse Unit := do
  let before := (← context).strict
  withContext fun c => { c with strict := true }
  expectKeyword "class"
  if nameRequired || (← peek).kind == some .identifier then
    let _ ← bindingName none
  if ← keyword "extends" then
    let _ ← take
    let _ ← isolate (g .callee)
  classBody g
  withContext fun c => { c with strict := before }

end GoogIndex.Script.Grammar
