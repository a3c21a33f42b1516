/-
  Declaration/Marker.lean --- the marker of the base file.

  Normative source: SPEC_FULL §4.1 step 4, `has_provide_goog_flag`.

  The file that defines `goog` itself has no declaration for it; a block comment with
  the text `@provideGoog` marks it.  Comments are looked for in the plain text: from
  an opening `/*` to the next `*/`, wherever they stand.
-/
import GoogIndex.Script.Trivia

set_option autoImplicit false

namespace GoogIndex

open GoogIndex.Script

/-- The text that marks the base file. -/
def provideGoogFlag : String := "@provideGoog"

/-- Whether a text contains another. -/
def containsText (needle : List Char) : List Char → Bool
  | [] => needle.isEmpty
  | c :: rest => needle.isPrefixOf (c :: rest) || containsText needle rest

/-- The block comments of a text, without their delimiters: each runs from `/*` to the
next `*/`.  `skip` characters belong to the comment before. -/
def blockComments : (skip : Nat) → List Char → List (List Char)
  | _, [] => []
  | skip + 1, _ :: rest => blockComments skip rest
  | 0, '/' :: '*' :: rest =>
      match blockTextLength? 0 rest with
      | some n => rest.take n :: blockComments (n + 3) ('*' :: rest)
      | none => []
  | 0, _ :: rest => blockComments 0 rest

/-- Whether a block comment of a text carries the marker (SPEC_FULL §4.1 step 4). -/
def hasProvideGoogFlag (source : String) : Bool :=
  (blockComments 0 source.toList).any (containsText provideGoogFlag.toList)

end GoogIndex
