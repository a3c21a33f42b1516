/-
  Text/CharacterName.lean --- characters by their names in Unicode 14.

  Most names are data, and the tables of `Text.CharacterName.*` hold them in rows of
  consecutive characters.  The syllables of Hangul and the ideographs have names by rule:
  the sounds of the syllable, or the number of the character.  A name from a table may be
  written in capital or small letters.  One by rule is in capital letters, except that
  the families of `numberedFamilies` are as free as the tables.
-/
import GoogIndex.Text.Ranges
import GoogIndex.Text.CharacterName.Alias
import GoogIndex.Text.CharacterName.From0020
import GoogIndex.Text.CharacterName.From0B2A
import GoogIndex.Text.CharacterName.From1D00
import GoogIndex.Text.CharacterName.From2460
import GoogIndex.Text.CharacterName.From2B76
import GoogIndex.Text.CharacterName.FromA700
import GoogIndex.Text.CharacterName.From101D0
import GoogIndex.Text.CharacterName.From12400
import GoogIndex.Text.CharacterName.From1CF50
import GoogIndex.Text.CharacterName.From1F100
import GoogIndex.Text.CharacterName.From1FB94

set_option autoImplicit false

namespace GoogIndex.Text

/-! ## Tables -/

/-- The tables of names. -/
def nameTables : List (List NameRow) :=
  [namesFrom0020, namesFrom0B2A, namesFrom1D00, namesFrom2460, namesFrom2B76, namesFromA700,
   namesFrom101D0, namesFrom12400, namesFrom1CF50, namesFrom1F100, namesFrom1FB94, aliasNames]

/-! ## Syllables -/

/-- The first sounds of a syllable of Hangul. -/
def leadingSounds : List String :=
  ["G", "GG", "N", "D", "DD", "R", "M", "B", "BB", "S", "SS", "", "J", "JJ", "C", "K", "T", "P",
   "H"]

/-- The vowels of a syllable. -/
def vowelSounds : List String :=
  ["A", "AE", "YA", "YAE", "EO", "E", "YEO", "YE", "O", "WA", "WAE", "OE", "YO", "U", "WEO", "WE",
   "WI", "YU", "EU", "YI", "I"]

/-- The last sounds of a syllable. -/
def trailingSounds : List String :=
  ["", "G", "GG", "GS", "N", "NJ", "NH", "D", "L", "LG", "LM", "LB", "LS", "LT", "LP", "LH", "M",
   "B", "BS", "S", "SS", "NG", "J", "C", "K", "T", "P", "H"]

/-- The longest of these sounds at the front: its place, and the text after it.  No sound
has more than three letters. -/
def longestSound? (sounds : List String) (s : List Char) : Option (Nat × List Char) :=
  [3, 2, 1, 0].findSome? fun n =>
    (sounds.findIdx? (·.toList == s.take n)).map fun place => (place, s.drop n)

/-- The syllable with these sounds. -/
def syllableCode? (s : List Char) : Option Nat := do
  let (leading, s) ← longestSound? leadingSounds s
  let (vowel, s) ← longestSound? vowelSounds s
  let (trailing, s) ← longestSound? trailingSounds s
  if s.isEmpty then
    some (0xAC00 + (leading * vowelSounds.length + vowel) * trailingSounds.length + trailing)
  else none

/-! ## Numbers -/

/-- The number that digits spell in base sixteen; the letters are capital. -/
def capitalHex? (digits : List Char) : Option Nat :=
  digits.foldlM (fun n c =>
    if c.isDigit then some (n * 16 + (c.toNat - '0'.toNat))
    else if 'A' ≤ c ∧ c ≤ 'F' then some (n * 16 + (c.toNat - 'A'.toNat + 10))
    else none) 0

/-- The ideographs that are named by their numbers. -/
def ideographTable : CodeRanges := .ofList
  [(0x3400, 0x4DBF), (0x4E00, 0x9FFF), (0x20000, 0x2A6DF), (0x2A700, 0x2B738), (0x2B740, 0x2B81D),
   (0x2B820, 0x2CEA1), (0x2CEB0, 0x2EBE0), (0x30000, 0x3134A)]

/-- The ideograph with a number of four or five digits. -/
def ideographCode? (digits : List Char) : Option Nat :=
  if digits.length = 4 ∨ digits.length = 5 then (capitalHex? digits).filter ideographTable.contains
  else none

/-- Other families with numbers in their names. -/
def numberedFamilies : List (String × CodeRanges) :=
  [("CJK COMPATIBILITY IDEOGRAPH-", .ofList [(0xF900, 0xFA6D), (0xFA70, 0xFAD9),
      (0x2F800, 0x2FA1D)]),
   ("KHITAN SMALL SCRIPT CHARACTER-", .ofList [(0x18B00, 0x18CD5)]),
   ("NUSHU CHARACTER-", .ofList [(0x1B170, 0x1B2FB)])]

/-- The text after a front. -/
def afterFront? (front : String) (s : List Char) : Option (List Char) :=
  if front.toList.isPrefixOf s then some (s.drop front.length) else none

/-- The member of a family that a name in capital letters stands for.  Its number has no
zero in front. -/
def familyCode? (name : List Char) (family : String × CodeRanges) : Option Nat := do
  let digits ← afterFront? family.1 name
  if digits.head? = some '0' then none
  (capitalHex? digits).filter family.2.contains

/-! ## Names -/

/-- The character with a name. -/
def characterNamed? (name : List Char) : Option Nat :=
  match afterFront? "HANGUL SYLLABLE " name, afterFront? "CJK UNIFIED IDEOGRAPH-" name with
  | some sounds, _ => syllableCode? sounds
  | none, some digits => ideographCode? digits
  | none, none =>
      let capital := name.map Char.toUpper
      let words := partsAt ' ' capital
      (numberedFamilies.findSome? (familyCode? capital)).orElse fun _ =>
        nameTables.findSome? fun table => table.findSome? (·.code? words)

end GoogIndex.Text
