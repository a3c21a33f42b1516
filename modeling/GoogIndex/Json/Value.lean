/-
  Json/Value.lean --- the values of the data format that caches and requests use.

  Normative source: SPEC_FULL §6 for the backing file; §4.5 for requests and replies.

  Integers are unbounded and kept apart from floating-point numbers.  An object
  keeps its members in order with one member per key; a repeated key keeps the
  first position and the last value.
-/
import GoogIndex.Decimal.Binary64
import GoogIndex.Text.Point

set_option autoImplicit false

namespace GoogIndex

open GoogIndex.Decimal

/-- A JSON value. -/
inductive Json where
  | null
  | bool (value : Bool)
  | int (value : Int)
  | real (value : Binary64)
  | str (value : Text)
  | arr (items : List Json)
  | obj (members : List (Text × Json))
  deriving Inhabited

namespace Json

/-- Put a member into an object: a present key keeps its position. -/
def putMember (key : Text) (value : Json) : List (Text × Json) → List (Text × Json)
  | [] => [(key, value)]
  | (k, v) :: rest => if k = key then (k, value) :: rest else (k, v) :: putMember key value rest

/-- The object whose members arrive in this order. -/
def ofMembers (members : List (Text × Json)) : Json :=
  .obj (members.foldl (fun done m => putMember m.1 m.2 done) [])

/-- The member of an object under a key. -/
def member? (members : List (Text × Json)) (key : Text) : Option Json :=
  (members.find? fun m => m.1 = key).map (·.2)

/-- The name of a value's type in messages. -/
def typeName : Json → String
  | .null => "NoneType"
  | .bool _ => "bool"
  | .int _ => "int"
  | .real _ => "float"
  | .str _ => "str"
  | .arr _ => "list"
  | .obj _ => "dict"

/-- Whether a value counts as set: zeros, empty texts, lists and objects, `false`
and `null` do not. -/
def isSet : Json → Bool
  | .null => false
  | .bool b => b
  | .int n => n != 0
  | .real x => !x.isZero
  | .str s => s != ""
  | .arr items => !items.isEmpty
  | .obj members => !members.isEmpty

mutual
/-- How many containers stand within each other in a value. -/
def depth : Json → Nat
  | .arr items => itemsDepth items + 1
  | .obj members => membersDepth members + 1
  | _ => 0

/-- The depth of the deepest item. -/
def itemsDepth : List Json → Nat
  | [] => 0
  | v :: rest => max (depth v) (itemsDepth rest)

/-- The depth of the deepest value of a member. -/
def membersDepth : List (Text × Json) → Nat
  | [] => 0
  | (_, v) :: rest => max (depth v) (membersDepth rest)
end

/-- The text that a value is. -/
def text? : Json → Option Text
  | .str s => some s
  | _ => none

/-- A list of texts as a value. -/
def texts (ss : List Text) : Json := .arr (ss.map .str)

/-- A text or nothing as a value. -/
def textOrNull : Option Text → Json
  | none => .null
  | some s => .str s

end Json

end GoogIndex
