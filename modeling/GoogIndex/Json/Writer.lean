/-
  Json/Writer.lean --- values as text.

  Normative source: SPEC_FULL §6 for the backing file; §4.5 for replies.

  Two texts exist for a value.  `write` is the interchange form: ASCII only, a blank
  after each comma and colon, members in order.  `display` is the form that
  messages use: texts are quoted as in other messages, and the constants have
  other spellings.
-/
import GoogIndex.Json.Value
import GoogIndex.Text.Quoted
import GoogIndex.Decimal.Shortest

set_option autoImplicit false

namespace GoogIndex

open GoogIndex.Text GoogIndex.Decimal

namespace Json

/-! ## Numbers -/

/-- The text of an integer. -/
def intText (n : Int) : List Char :=
  if n < 0 then '-' :: Nat.toDigits 10 n.natAbs else Nat.toDigits 10 n.natAbs

/-- An exponent has a sign and at least two digits. -/
def exponentText (e : Int) : List Char :=
  let digits := Nat.toDigits 10 e.natAbs
  let padded := if digits.length < 2 then '0' :: digits else digits
  (if e < 0 then '-' else '+') :: padded

/-- A decimal in words: positional from `1e-4` up to below `1e16`, always with a
fraction, and otherwise one digit, the rest of the digits and an exponent. -/
def decimalText (d : DecimalForm) : List Char :=
  let digits := Nat.toDigits 10 d.digits
  let point : Int := digits.length + d.exponent
  if -4 < point ∧ point ≤ 16 then
    if point ≤ 0 then
      '0' :: '.' :: (List.replicate (-point).toNat '0' ++ digits)
    else if (digits.length : Int) ≤ point then
      digits ++ List.replicate (point - digits.length).toNat '0' ++ ['.', '0']
    else
      digits.take point.toNat ++ '.' :: digits.drop point.toNat
  else
    let lead := digits.take 1
    let rest := digits.drop 1
    lead ++ (if rest.isEmpty then [] else '.' :: rest) ++ 'e' :: exponentText (point - 1)

/-- The text of a finite number. -/
def finiteText (negative : Bool) (m : Nat) (e : Int) : List Char :=
  let body := if m = 0 then ['0', '.', '0'] else decimalText (shortest m e)
  if negative then '-' :: body else body

/-- The text of a number in the interchange form. -/
def realText : Binary64 → List Char
  | .finite negative m e => finiteText negative m e
  | .infinite false => "Infinity".toList
  | .infinite true => "-Infinity".toList
  | .notANumber => "NaN".toList

/-- The text of a number in messages. -/
def realDisplay : Binary64 → List Char
  | .finite negative m e => finiteText negative m e
  | .infinite false => "inf".toList
  | .infinite true => "-inf".toList
  | .notANumber => "nan".toList

/-! ## Texts -/

/-- An escape with four hexadecimal digits. -/
def unitEscape (n : Nat) : List Char := '\\' :: 'u' :: hexDigits 4 n

/-- How a character of a text is written.  Beyond the sixteen-bit range a character
is written as its two surrogates. -/
def escapeChar (c : Char) : List Char :=
  if c = '"' then ['\\', '"']
  else if c = '\\' then ['\\', '\\']
  else if c = '\n' then ['\\', 'n']
  else if c = '\r' then ['\\', 'r']
  else if c = '\t' then ['\\', 't']
  else if c = '\x0c' then ['\\', 'f']
  else if c = '\x08' then ['\\', 'b']
  else if 0x20 ≤ c.toNat ∧ c.toNat < 0x7F then [c]
  else if c.toNat < 0x10000 then unitEscape c.toNat
  else
    let n := c.toNat - 0x10000
    unitEscape (0xD800 + n / 0x400) ++ unitEscape (0xDC00 + n % 0x400)

/-- How a code point of a text is written.  Half of a surrogate pair is written by its number. -/
def escapePoint : Point → List Char
  | .char c => escapeChar c
  | .lone half => unitEscape (Point.lone half).toNat

/-- A text between double quotes. -/
def stringText (s : Text) : List Char :=
  '"' :: (s.toList.flatMap escapePoint ++ ['"'])

/-! ## Values -/

mutual
/-- The interchange form of a value. -/
def writeChars : Json → List Char
  | .null => "null".toList
  | .bool true => "true".toList
  | .bool false => "false".toList
  | .int n => intText n
  | .real x => realText x
  | .str s => stringText s
  | .arr items => '[' :: (writeItems items ++ [']'])
  | .obj members => '\x7b' :: (writeMembers members ++ ['\x7d'])

/-- The items of a list, separated. -/
def writeItems : List Json → List Char
  | [] => []
  | [v] => writeChars v
  | v :: rest => writeChars v ++ ',' :: ' ' :: writeItems rest

/-- The members of an object, separated. -/
def writeMembers : List (Text × Json) → List Char
  | [] => []
  | [(k, v)] => stringText k ++ ':' :: ' ' :: writeChars v
  | (k, v) :: rest =>
      stringText k ++ ':' :: ' ' :: (writeChars v ++ ',' :: ' ' :: writeMembers rest)
end

/-- The interchange form of a value. -/
def write (v : Json) : String := .ofList (writeChars v)

mutual
/-- A value inside a message: texts are quoted. -/
def displayInner : Json → List Char
  | .null => "None".toList
  | .bool true => "True".toList
  | .bool false => "False".toList
  | .int n => intText n
  | .real x => realDisplay x
  | .str s => (quoted s).toList
  | .arr items => '[' :: (displayItems items ++ [']'])
  | .obj members => '\x7b' :: (displayMembers members ++ ['\x7d'])

/-- The items of a list inside a message. -/
def displayItems : List Json → List Char
  | [] => []
  | [v] => displayInner v
  | v :: rest => displayInner v ++ ',' :: ' ' :: displayItems rest

/-- The members of an object inside a message. -/
def displayMembers : List (Text × Json) → List Char
  | [] => []
  | [(k, v)] => (quoted k).toList ++ ':' :: ' ' :: displayInner v
  | (k, v) :: rest =>
      (quoted k).toList ++ ':' :: ' ' :: (displayInner v ++ ',' :: ' ' :: displayMembers rest)
end

/-- A value as a message shows it: a text at the top stands for itself. -/
def display : Json → Text
  | .str s => s
  | v => String.ofList (displayInner v)

end Json

end GoogIndex
