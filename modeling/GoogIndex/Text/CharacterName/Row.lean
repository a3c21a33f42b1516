/-
  Text/CharacterName/Row.lean --- the names of consecutive characters, written short.

  Neighbours often begin their names with the same words.  A row gives a name by the
  words that differ from the name before it, and a digit for how many words stay.
-/

set_option autoImplicit false

namespace GoogIndex.Text

/-! ## Parts -/

/-- The parts of a text between the marks. -/
def partsAt (mark : Char) : List Char → List (List Char)
  | [] => [[]]
  | c :: rest =>
      match partsAt mark rest with
      | [] => [[]]
      | part :: parts => if c = mark then [] :: part :: parts else (c :: part) :: parts

/-! ## Rows -/

/-- The words of a name. -/
abbrev NameWords := List (List Char)

/-- The names of consecutive characters.  A line holds entries with semicolons between
them, one entry a character. -/
structure NameRow where
  first : Nat
  lines : List String
  deriving Repr, Inhabited

/-- The names that entries stand for, where `before` is the name before them.  The digit in
front of an entry says how many words of the name before it stay; the others follow. -/
def namesIn (before : NameWords) : List (List Char) → List NameWords
  | [] => []
  | [] :: rest => [] :: namesIn [] rest
  | (digit :: words) :: rest =>
      let name := before.take (digit.toNat - '0'.toNat) ++ partsAt ' ' words
      name :: namesIn name rest

namespace NameRow

/-- The names of the row, in order. -/
def names (row : NameRow) : List NameWords :=
  namesIn [] (row.lines.flatMap fun line => partsAt ';' line.toList)

/-- The character to which the row gives a name. -/
def code? (row : NameRow) (name : NameWords) : Option Nat :=
  (row.names.findIdx? (· == name)).map (row.first + ·)

end NameRow

end GoogIndex.Text
