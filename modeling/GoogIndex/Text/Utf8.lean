/-
  Text/Utf8.lean --- strict UTF-8.

  Decoding stops at the first byte that no character allows, and the fault says
  which bytes are to blame: a byte that starts nothing, the start of a character
  whose continuation is wrong, or a character cut off by the end of the input.
-/
import GoogIndex.Text.Quoted

set_option autoImplicit false

namespace GoogIndex.Text

/-- What is wrong with a byte sequence. -/
inductive Utf8Reason where
  /-- the byte starts no character -/
  | invalidStart
  /-- the character's next byte does not continue it -/
  | invalidContinuation
  /-- the input ends inside the character -/
  | unexpectedEnd
  deriving DecidableEq, Repr, Inhabited

/-- Where decoding failed: the first byte to blame, its position, and how many
bytes belong to the broken character. -/
structure Utf8Fault where
  byte : Nat
  position : Nat
  count : Nat
  reason : Utf8Reason
  deriving DecidableEq, Repr, Inhabited

/-- The words for a reason. -/
def Utf8Reason.words : Utf8Reason → String
  | .invalidStart => "invalid start byte"
  | .invalidContinuation => "invalid continuation byte"
  | .unexpectedEnd => "unexpected end of data"

/-- The report of a fault. -/
def Utf8Fault.message (f : Utf8Fault) : String :=
  let place :=
    if f.count = 1 then
      "byte 0x" ++ .ofList (hexDigits 2 f.byte) ++ " in position " ++ toString f.position
    else
      "bytes in position " ++ toString f.position ++ "-" ++ toString (f.position + f.count - 1)
  "'utf-8' codec can't decode " ++ place ++ ": " ++ f.reason.words

/-- The bytes `0x80` to `0xBF` continue a character. -/
def isContinuation (b : Nat) : Bool := 0x80 ≤ b && b ≤ 0xBF

/-- The second byte of a character that starts with `a` lies in this range; the
narrower ranges exclude overlong forms, surrogates and values beyond `0x10FFFF`. -/
def secondByteAllowed (a b : Nat) : Bool :=
  isContinuation b
    && (a != 0xE0 || 0xA0 ≤ b) && (a != 0xED || b < 0xA0)
    && (a != 0xF0 || 0x90 ≤ b) && (a != 0xF4 || b < 0x90)

/-- How many bytes a character has, from its first byte. -/
def sequenceLength (a : Nat) : Option Nat :=
  if a < 0x80 then some 1
  else if a < 0xC2 then none
  else if a < 0xE0 then some 2
  else if a < 0xF0 then some 3
  else if a < 0xF5 then some 4
  else none

/-- A character in progress: its first byte, how many bytes were read, how many
are to come, and the value so far. -/
structure Partial where
  first : Nat
  seen : Nat
  owed : Nat
  value : Nat
  deriving DecidableEq, Repr, Inhabited

/-- Decode, with a character in progress (`owed = 0` when there is none), the
position of the next byte, and the characters read so far in reverse. -/
def decodeFrom : Partial → Nat → List Char → List UInt8 → Except Utf8Fault (List Char)
  | p, pos, done, [] =>
      if p.owed = 0 then .ok done.reverse
      else .error ⟨p.first, pos - p.seen, p.seen, .unexpectedEnd⟩
  | p, pos, done, byte :: rest =>
      let b := byte.toNat
      if p.owed = 0 then
        match sequenceLength b with
        | none => .error ⟨b, pos, 1, .invalidStart⟩
        | some 1 => decodeFrom ⟨0, 0, 0, 0⟩ (pos + 1) (Char.ofNat b :: done) rest
        | some len =>
            let bits := if len = 2 then b % 0x20 else if len = 3 then b % 0x10 else b % 0x08
            decodeFrom ⟨b, 1, len - 1, bits⟩ (pos + 1) done rest
      else
        let allowed := if p.seen = 1 then secondByteAllowed p.first b else isContinuation b
        if !allowed then .error ⟨p.first, pos - p.seen, p.seen, .invalidContinuation⟩
        else
          let value := p.value * 64 + b % 64
          if p.owed = 1 then decodeFrom ⟨0, 0, 0, 0⟩ (pos + 1) (Char.ofNat value :: done) rest
          else decodeFrom ⟨p.first, p.seen + 1, p.owed - 1, value⟩ (pos + 1) done rest

/-- The characters of a byte sequence. -/
def decodeUtf8 (bytes : List UInt8) : Except Utf8Fault (List Char) :=
  decodeFrom ⟨0, 0, 0, 0⟩ 0 [] bytes

/-- The bytes of one character. -/
def encodeChar (c : Char) : List UInt8 :=
  let n := c.toNat
  let byte (k : Nat) : UInt8 := UInt8.ofNat k
  if n < 0x80 then [byte n]
  else if n < 0x800 then [byte (0xC0 + n / 64), byte (0x80 + n % 64)]
  else if n < 0x10000 then
    [byte (0xE0 + n / 4096), byte (0x80 + n / 64 % 64), byte (0x80 + n % 64)]
  else
    [byte (0xF0 + n / 262144), byte (0x80 + n / 4096 % 64), byte (0x80 + n / 64 % 64),
      byte (0x80 + n % 64)]

/-- The bytes of a text. -/
def encodeUtf8 (s : String) : List UInt8 := s.toList.flatMap encodeChar

end GoogIndex.Text
