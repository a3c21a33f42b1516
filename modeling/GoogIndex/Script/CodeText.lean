/-
  Script/CodeText.lean --- texts by the numbers of their characters.

  An escape may give any number up to `0x10FFFF`, also one that is no character.  So what
  a token means is a list of numbers, and two names are the same when their numbers are.
-/

set_option autoImplicit false

namespace GoogIndex.Script

/-- The character with a number; a number that is no character stands for NUL. -/
def charOfCode (n : Nat) : Char := Char.ofNat n

/-- A text by the numbers of its characters. -/
structure CodeText where
  codes : List Nat
  deriving DecidableEq, Repr, Inhabited

namespace CodeText

/-- The numbers of a text. -/
def ofString (s : String) : CodeText := ⟨s.toList.map Char.toNat⟩

/-- The characters with these numbers. -/
def text (n : CodeText) : String := .ofList (n.codes.map charOfCode)

/-- Whether this is one of these words. -/
def isAmong (n : CodeText) (words : List String) : Bool := words.any fun w => n == ofString w

/-- Whether this is a word. -/
def isWord (n : CodeText) (word : String) : Bool := n == ofString word

theorem text_ofString (s : String) : (ofString s).text = s := by
  simp [text, ofString, charOfCode, Function.comp_def]

end CodeText

end GoogIndex.Script
