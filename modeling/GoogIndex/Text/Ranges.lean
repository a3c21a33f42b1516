/-
  Text/Ranges.lean --- sets of code points given as ranges.

  A character class of a standard is a finite union of ranges.  The tables of this
  library are written in that form, and membership is the only question asked of
  them.
-/

set_option autoImplicit false

namespace GoogIndex.Text

/-- A set of code points, held as ranges with both ends included. -/
structure CodeRanges where
  ranges : List (Nat × Nat)
  deriving Repr, Inhabited

namespace CodeRanges

/-- The set that a list of ranges covers. -/
def ofList (ranges : List (Nat × Nat)) : CodeRanges := ⟨ranges⟩

/-- A code point belongs to the set when some range covers it. -/
def contains (s : CodeRanges) (n : Nat) : Bool :=
  s.ranges.any fun r => decide (r.1 ≤ n) && decide (n ≤ r.2)

/-- Membership of a character is that of its code point. -/
def hasChar (s : CodeRanges) (c : Char) : Bool := s.contains c.toNat

end CodeRanges

end GoogIndex.Text
