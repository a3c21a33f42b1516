/-
  Json/Reader.lean --- values from text.

  Normative source: SPEC_FULL §6 for the backing file; §4.5 for requests.

  The reader is a pushdown machine that goes over the characters once.  Its stack
  holds the containers that are open, its mode says what has to come next.  A text
  literal or a number is measured from its first character, and the characters it
  covers are then passed over, so the machine recurses on the text itself and needs
  no bound.

  A fault names the offset at which the text stops being the front of a value; the
  line and column follow from the offset.
-/
import GoogIndex.Json.Writer
import GoogIndex.Json.Fault

set_option autoImplicit false

namespace GoogIndex.Json

open GoogIndex.Decimal GoogIndex.Text

/-- A fault before its line and column are known. -/
inductive RawFault where
  | at (problem : Problem) (offset : Nat)
  | tooDeep (container : Container)
  | tooManyDigits (count : Nat)
  deriving DecidableEq, Repr, Inhabited

/-- Blanks between the parts of a value. -/
def isSpace (c : Char) : Bool := c = ' ' || c = '\t' || c = '\n' || c = '\r'

/-! ## Texts -/

/-- The sixteen-bit unit that four hexadecimal digits spell. -/
def unit? (a b c d : Char) : Option Nat := do
  let a ← hexValue? a
  let b ← hexValue? b
  let c ← hexValue? c
  let d ← hexValue? d
  return ((a * 16 + b) * 16 + c) * 16 + d

/-- What a second unit escape after a high surrogate contributes. -/
inductive LowUnit where
  /-- it is a low surrogate: both make one character -/
  | joined (c : Char)
  /-- there is none, or it is another unit -/
  | separate
  /-- it is not four hexadecimal digits -/
  | broken
  deriving DecidableEq, Repr

/-- Look for the low half after the high surrogate `n`. -/
def lowUnit (n : Nat) : List Char → LowUnit
  | '\\' :: 'u' :: a :: b :: c :: d :: _ :: _ =>
      match unit? a b c d with
      | none => .broken
      | some m =>
          if 0xDC00 ≤ m ∧ m ≤ 0xDFFF then
            .joined (Char.ofNat (0x10000 + (n - 0xD800) * 0x400 + (m - 0xDC00)))
          else .separate
  | _ => .separate

/-- The code point that an escape stands for and the count of characters it has
after the backslash, which is at `offset`.  A unit that is half of a pair and stands alone is
kept as it is. -/
def escape (quoteOffset offset : Nat) : List Char → Except RawFault (Point × Nat)
  | [] => .error (.at .unterminatedString quoteOffset)
  | 'u' :: a :: b :: c :: d :: e :: rest =>
      match unit? a b c d with
      | none => .error (.at .invalidUnitEscape (offset + 1))
      | some n =>
          if 0xD800 ≤ n ∧ n ≤ 0xDBFF then
            match lowUnit n (e :: rest) with
            | .joined ch => .ok (ch, 11)
            | .separate => .ok (.ofNat n, 5)
            | .broken => .error (.at .invalidUnitEscape (offset + 7))
          else .ok (.ofNat n, 5)
  | 'u' :: _ => .error (.at .invalidUnitEscape (offset + 1))
  | '"' :: _ => .ok ('"', 1)
  | '\\' :: _ => .ok ('\\', 1)
  | '/' :: _ => .ok ('/', 1)
  | 'b' :: _ => .ok ('\x08', 1)
  | 'f' :: _ => .ok ('\x0c', 1)
  | 'n' :: _ => .ok ('\n', 1)
  | 'r' :: _ => .ok ('\r', 1)
  | 't' :: _ => .ok ('\t', 1)
  | _ => .error (.at .invalidEscape offset)

/-- Read the inside of a text literal: `skip` characters are already accounted for,
the next character is at `offset`, the code points so far stand reversed in `done`.
The answer is the text and the offset after its closing quote. -/
def textFrom (quoteOffset : Nat) :
    (skip offset : Nat) → (done : List Point) → List Char → Except RawFault (Text × Nat)
  | _, _, _, [] => .error (.at .unterminatedString quoteOffset)
  | skip + 1, offset, done, _ :: rest => textFrom quoteOffset skip (offset + 1) done rest
  | 0, offset, done, c :: rest =>
      if c = '"' then .ok (.ofList done.reverse, offset + 1)
      else if c = '\\' then
        match escape quoteOffset offset rest with
        | .error e => .error e
        | .ok (p, used) => textFrom quoteOffset used (offset + 1) (p :: done) rest
      else if c.toNat < 0x20 then .error (.at .invalidControl offset)
      else textFrom quoteOffset 0 (offset + 1) (.char c :: done) rest

/-! ## Numbers -/

/-- The parts of a number literal. -/
structure NumberParts where
  negative : Bool
  whole : List Char
  fraction : List Char
  exponent : Option (Bool × List Char)
  length : Nat

/-- The digits at the front. -/
def digitsOf (cs : List Char) : List Char := cs.takeWhile Char.isDigit

/-- The exponent at the front: its sign, its digits and its length. -/
def exponentOf : List Char → Option (Bool × List Char × Nat)
  | c :: rest =>
      if c = 'e' ∨ c = 'E' then
        let (negative, signs, tail) : Bool × Nat × List Char :=
          match rest with
          | '-' :: tail => (true, 1, tail)
          | '+' :: tail => (false, 1, tail)
          | tail => (false, 0, tail)
        let digits := digitsOf tail
        if digits.isEmpty then none else some (negative, digits, 1 + signs + digits.length)
      else none
  | [] => none

/-- The number literal at the front.  A leading zero stands alone, a point needs a
digit after it, and so does an exponent. -/
def numberOf (cs : List Char) : Option NumberParts :=
  let (negative, body) : Bool × List Char :=
    match cs with
    | '-' :: rest => (true, rest)
    | _ => (false, cs)
  let digits := digitsOf body
  let whole := if digits.head? = some '0' then ['0'] else digits
  if whole.isEmpty then none
  else
    let afterWhole := body.drop whole.length
    let fraction :=
      match afterWhole with
      | '.' :: rest => digitsOf rest
      | _ => []
    let afterFraction :=
      if fraction.isEmpty then afterWhole else afterWhole.drop (1 + fraction.length)
    let signs := if negative then 1 else 0
    let points := if fraction.isEmpty then 0 else 1 + fraction.length
    match exponentOf afterFraction with
    | none => some ⟨negative, whole, fraction, none, signs + whole.length + points⟩
    | some (expNegative, expDigits, expLength) =>
        some ⟨negative, whole, fraction, some (expNegative, expDigits),
          signs + whole.length + points + expLength⟩

/-- The number that decimal digits spell. -/
def natOf (digits : List Char) : Nat := Nat.ofDigitChars 10 digits 0

/-- The value of a number literal: an integer if it has neither a fraction nor an
exponent. -/
def NumberParts.value (p : NumberParts) : Except RawFault Json :=
  match p.fraction, p.exponent with
  | [], none =>
      if digitLimit < p.whole.length then .error (.tooManyDigits p.whole.length)
      else
        let n : Int := natOf p.whole
        .ok (.int (if p.negative then -n else n))
  | fraction, exponent =>
      let digits := (p.whole ++ fraction).dropWhile (· = '0')
      let shift : Int :=
        match exponent with
        | none => 0
        | some (negative, ds) =>
            -- an exponent with very many digits decides by its sign alone
            let ds := ds.dropWhile (· = '0')
            let n : Int := if 12 < ds.length then 1000000000000 else natOf ds
            if negative then -n else n
      .ok (.real (Binary64.ofDecimal p.negative (natOf digits) digits.length
        (shift - fraction.length)))

/-! ## Values -/

/-- An open container: a list with its items so far, or an object with its members
so far and the key whose value is being read; both in reverse. -/
inductive Frame where
  | array (items : List Json)
  | object (members : List (Text × Json)) (key : Text)

/-- What has to come next. -/
inductive Mode where
  /-- a value -/
  | value
  /-- a value, or the end of the list just opened -/
  | firstItem
  /-- a key, or the end of the object just opened -/
  | firstKey
  /-- a key of an object that has these members, in reverse -/
  | key (members : List (Text × Json))
  /-- the colon after a key -/
  | colon (members : List (Text × Json)) (name : Text)
  /-- whatever may follow a complete value -/
  | done (v : Json)

/-- The machine between two characters: what has to come next, and the containers
that are open around it, the innermost first. -/
structure Machine where
  mode : Mode
  stack : List Frame

/-- The problem with a text that ends here, or with a character that has no place. -/
def Machine.problem (m : Machine) : Problem :=
  match m.mode, m.stack with
  | .value, _ => .expectingValue
  | .firstItem, _ => .expectingValue
  | .firstKey, _ => .expectingName
  | .key _, _ => .expectingName
  | .colon _ _, _ => .expectingColon
  | .done _, [] => .extraData
  | .done _, _ => .expectingComma

/-- A step of the machine: its next state and how many characters it consumed. -/
abbrev Move := Except RawFault (Machine × Nat)

/-- The constants that are values. -/
def constants : List (List Char × Json) :=
  [("null".toList, .null), ("true".toList, .bool true), ("false".toList, .bool false),
    ("NaN".toList, .real .notANumber), ("Infinity".toList, .real (.infinite false)),
    ("-Infinity".toList, .real (.infinite true))]

section limited

/- How many containers may be open at once depends on how much of the program is under way
where a text is read, so the reader has it from there. -/
variable (limit : Nat)

/-- Begin a value at `offset`, inside these containers. -/
def beginValue (stack : List Frame) (offset : Nat) (cs : List Char) : Move :=
  match cs with
  | '"' :: rest => do
      let (s, stop) ← textFrom offset 0 (offset + 1) [] rest
      return (⟨.done (.str s), stack⟩, stop - offset)
  | '[' :: _ =>
      if limit ≤ stack.length then .error (.tooDeep .array)
      else .ok (⟨.firstItem, .array [] :: stack⟩, 1)
  | '\x7b' :: _ =>
      if limit ≤ stack.length then .error (.tooDeep .object)
      else .ok (⟨.firstKey, stack⟩, 1)
  | _ =>
      match constants.find? fun k => k.1.isPrefixOf cs with
      | some (word, v) => .ok (⟨.done v, stack⟩, word.length)
      | none =>
          match numberOf cs with
          | none => .error (.at .expectingValue offset)
          | some parts => do
              let v ← parts.value
              return (⟨.done v, stack⟩, parts.length)

/-- Begin a key at `offset`, in an object that has these members. -/
def beginKey (members : List (Text × Json)) (stack : List Frame) (offset : Nat)
    (cs : List Char) : Move :=
  match cs with
  | '"' :: rest => do
      let (s, stop) ← textFrom offset 0 (offset + 1) [] rest
      return (⟨.colon members s, stack⟩, stop - offset)
  | _ => .error (.at .expectingName offset)

/-- The object that a list of members in reverse describes. -/
def closeObject (members : List (Text × Json)) : Json := .ofMembers members.reverse

/-- One step at a character that is not a blank. -/
def step (m : Machine) (offset : Nat) (c : Char) (cs : List Char) : Move :=
  match m.mode with
  | .value => beginValue limit m.stack offset cs
  | .firstItem =>
      match c, m.stack with
      | ']', .array _ :: outer => .ok (⟨.done (.arr []), outer⟩, 1)
      | _, stack => beginValue limit stack offset cs
  | .firstKey =>
      if c = '\x7d' then .ok (⟨.done (.obj []), m.stack⟩, 1) else beginKey [] m.stack offset cs
  | .key members => beginKey members m.stack offset cs
  | .colon members name =>
      if c = ':' then .ok (⟨.value, .object members name :: m.stack⟩, 1)
      else .error (.at m.problem offset)
  | .done v =>
      match c, m.stack with
      | ',', .array items :: outer => .ok (⟨.value, .array (v :: items) :: outer⟩, 1)
      | ']', .array items :: outer => .ok (⟨.done (.arr (v :: items).reverse), outer⟩, 1)
      | ',', .object members name :: outer => .ok (⟨.key ((name, v) :: members), outer⟩, 1)
      | '\x7d', .object members name :: outer =>
          .ok (⟨.done (closeObject ((name, v) :: members)), outer⟩, 1)
      | _, _ => .error (.at m.problem offset)

/-- Run the machine to the end of the text. -/
def run : (m : Machine) → (skip offset : Nat) → List Char → Except RawFault Json
  | m, _, offset, [] =>
      match m.mode, m.stack with
      | .done v, [] => .ok v
      | _, _ => .error (.at m.problem offset)
  | m, skip + 1, offset, _ :: rest => run m skip (offset + 1) rest
  | m, 0, offset, c :: rest =>
      if isSpace c then run m 0 (offset + 1) rest
      else
        match step limit m offset c (c :: rest) with
        | .error e => .error e
        | .ok (m', used) => run m' (used - 1) (offset + 1) rest

end limited

/-- Line and column of an offset: line feeds are counted, columns start at one. -/
def lineColumn (cs : List Char) (offset : Nat) : Nat × Nat :=
  (cs.take offset).foldl
    (fun (line, column) c => if c = '\n' then (line + 1, 1) else (line, column + 1)) (1, 1)

/-- A fault with its place in the text. -/
def RawFault.locate (cs : List Char) : RawFault → Fault
  | .at problem offset =>
      let (line, column) := lineColumn cs offset
      .malformed problem line column offset
  | .tooDeep container => .tooDeep container
  | .tooManyDigits count => .tooManyDigits count

/-- Read a text as one value, with so many containers open at once.  A byte order mark is not a
blank. -/
def readChars (limit : Nat) (cs : List Char) : Except Fault Json :=
  if cs.head? = some '\ufeff' then .error (.malformed .byteOrderMark 1 1 0)
  else
    match run limit ⟨.value, []⟩ 0 0 cs with
    | .ok v => .ok v
    | .error e => .error (e.locate cs)

/-- Read a text as one value, with so many containers open at once. -/
def read (limit : Nat) (s : String) : Except Fault Json := readChars limit s.toList

end GoogIndex.Json
