/-
  Json/Fault.lean --- why a text is no JSON value.

  Normative source: SPEC_FULL §7, load-time corruption; §4.5, `InvalidJSON`.

  A malformed text has a problem at a position.  Two limits are separate causes: the
  nesting of lists and objects, and the digits of an integer.
-/

set_option autoImplicit false

namespace GoogIndex.Json

/-- What is wrong at the position of the fault. -/
inductive Problem where
  | expectingValue
  | expectingName
  | expectingColon
  | expectingComma
  | unterminatedString
  | invalidControl
  | invalidEscape
  | invalidUnitEscape
  | extraData
  | byteOrderMark
  deriving DecidableEq, Repr, Inhabited

/-- The words for a problem. -/
def Problem.words : Problem → String
  | .expectingValue => "Expecting value"
  | .expectingName => "Expecting property name enclosed in double quotes"
  | .expectingColon => "Expecting ':' delimiter"
  | .expectingComma => "Expecting ',' delimiter"
  | .unterminatedString => "Unterminated string starting at"
  | .invalidControl => "Invalid control character at"
  | .invalidEscape => "Invalid \\escape"
  | .invalidUnitEscape => "Invalid \\uXXXX escape"
  | .extraData => "Extra data"
  | .byteOrderMark => "Unexpected UTF-8 BOM (decode using utf-8-sig)"

/-- A containing value. -/
inductive Container where
  | array
  | object
  deriving DecidableEq, Repr, Inhabited

/-- Why reading a value failed. -/
inductive Fault where
  /-- the text has a problem at this offset, in this line and column -/
  | malformed (problem : Problem) (line column offset : Nat)
  /-- the containers are nested beyond the limit -/
  | tooDeep (container : Container)
  /-- an integer has more digits than the limit -/
  | tooManyDigits (count : Nat)
  deriving DecidableEq, Repr, Inhabited

/-- The most digits an integer may have. -/
def digitLimit : Nat := 4300

/-- The kind of a fault in reports. -/
def Fault.label : Fault → String
  | .malformed _ _ _ _ => "JSONDecodeError"
  | .tooDeep _ => "RecursionError"
  | .tooManyDigits _ => "ValueError"

/-- The report of a fault. -/
def Fault.message : Fault → String
  | .malformed problem line column offset =>
      problem.words ++ ": line " ++ toString line ++ " column " ++ toString column ++ " (char "
        ++ toString offset ++ ")"
  | .tooDeep .array =>
      "maximum recursion depth exceeded while decoding a JSON array from a unicode string"
  | .tooDeep .object =>
      "maximum recursion depth exceeded while decoding a JSON object from a unicode string"
  | .tooManyDigits count =>
      "Exceeds the limit (" ++ toString digitLimit
        ++ " digits) for integer string conversion: value has " ++ toString count
        ++ " digits; use sys.set_int_max_str_digits() to increase the limit"

end GoogIndex.Json
