/-
  Declaration/Window.lean --- declarations in a token stream.

  Normative source: SPEC_FULL §4.1 steps 2 and 3, `is_test_only` and `scan_declarations`.

  A declaration is five tokens in a row: `goog`, a point, a method name, an opening
  parenthesis and a string.  A window of that length slides over the tokens, so a
  call counts wherever it stands.
-/
import GoogIndex.Script.Token

set_option autoImplicit false

namespace GoogIndex

open GoogIndex.Script

/-- A call on `goog` with a string as its first argument. -/
structure GoogCall where
  method : String
  literal : String
  deriving DecidableEq, Repr, Inhabited

/-- Whether a token is this punctuator. -/
def isPunctuator (text : String) (t : Token) : Bool := t.kind = .punctuator && t.text = text

/-- The call that begins with the first token (SPEC_FULL §4.1, `_goog_call`). -/
def GoogCall.atFront? : List Token → Option GoogCall
  | object :: point :: method :: paren :: literal :: _ =>
      if object.kind = .identifier && object.text = "goog" && isPunctuator "." point
          && method.kind = .identifier && isPunctuator "(" paren && literal.kind = .string then
        some ⟨method.text, literal.text⟩
      else none
  | _ => none

/-- The calls in a token stream, in order. -/
def googCalls : List Token → List GoogCall
  | [] => []
  | t :: rest =>
      match GoogCall.atFront? (t :: rest) with
      | some call => call :: googCalls rest
      | none => googCalls rest

/-- A string literal without its quotes (SPEC_FULL §4.1 step 3, `_unquote`). -/
def unquote (literal : String) : String := .ofList (literal.toList.drop 1).dropLast

/-- The namespaces a token stream declares. -/
structure Declarations where
  provides : List String
  requires : List String
  isModule : Bool
  deriving DecidableEq, Repr, Inhabited

/-- Nothing declared. -/
def Declarations.none : Declarations := ⟨[], [], false⟩

/-- The namespaces provided by calls of `provide` and `module`, those required, and
whether a call of `module` is among the calls. -/
def Declarations.ofCalls (calls : List GoogCall) : Declarations :=
  { provides := (calls.filter fun c => c.method = "provide" || c.method = "module").map
      fun c => unquote c.literal
    requires := (calls.filter fun c => c.method = "require").map fun c => unquote c.literal
    isModule := calls.any fun c => c.method = "module" }

/-- The declarations of a token stream, in document order (SPEC_FULL §4.1 step 3). -/
def scanDeclarations (tokens : List Token) : Declarations := .ofCalls (googCalls tokens)

/-- Whether a token stream marks its file as test-only (SPEC_FULL §4.1 step 2). -/
def isTestOnly (tokens : List Token) : Bool :=
  (googCalls tokens).any fun c => c.method = "setTestOnly"

end GoogIndex
