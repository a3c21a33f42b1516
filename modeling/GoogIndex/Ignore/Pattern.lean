/-
  Ignore/Pattern.lean --- what an ignore pattern matches.

  Normative source: SPEC_FULL §4.4, the matching of patterns.

  A compiled pattern goes over a path once, from the left; wherever several ways of
  matching exist, the longest is tried first.  Which way succeeds first matters: a
  path below a folder that the pattern names is hit through the folder, and such a
  hit weighs less than one on the path itself.
-/
import GoogIndex.Text.Point

set_option autoImplicit false

namespace GoogIndex.Ignore

/-- How a pattern matches a path. -/
inductive Hit where
  /-- the path lies in a folder that the pattern names -/
  | inside
  /-- the pattern names the path -/
  | exact
  deriving DecidableEq, Repr, Inhabited

/-- A set of characters, given between brackets. -/
structure CharSet where
  negated : Bool
  ranges : List (Point × Point)
  deriving DecidableEq, Repr, Inhabited

/-- Membership in the set.  No character is exempt, not even the slash. -/
def CharSet.has (s : CharSet) (c : Point) : Bool :=
  (s.ranges.any fun r => decide (r.1 ≤ c) && decide (c ≤ r.2)) != s.negated

/-- An item of a pattern. -/
inductive Atom where
  /-- this character -/
  | literal (c : Point)
  /-- one character of a set -/
  | oneOf (s : CharSet)
  /-- one character of a name -/
  | one
  /-- any characters of a name -/
  | run
  /-- a whole name, which is not empty -/
  | name
  /-- any folders before the rest, or none -/
  | leadingFolders
  /-- any folders after what came before, or none -/
  | innerFolders
  deriving DecidableEq, Repr, Inhabited

/-- What has to follow the items of a pattern. -/
inductive Ending where
  /-- the path ends, or goes on inside of a folder -/
  | entry
  /-- the path goes on inside of a folder, and only that counts -/
  | folder
  /-- the path goes on, as the pattern says itself -/
  | below
  deriving DecidableEq, Repr, Inhabited

/-- A condition on paths. -/
inductive Matcher where
  /-- every path with a visible character -/
  | everything
  /-- every path with a slash -/
  | inFolder (hit : Hit)
  /-- items from the start of the path, and an ending -/
  | path (atoms : List Atom) (ending : Ending)
  deriving DecidableEq, Repr, Inhabited

/-- A compiled pattern: a condition on paths, and whether it takes paths back in. -/
structure Pattern where
  negated : Bool
  matcher : Matcher
  deriving DecidableEq, Repr, Inhabited

/-! ## Matching -/

/-- A line feed at the very end of a path is not seen by the end of a pattern. -/
def Ending.hit? : Ending → List Point → Option Hit
  | .entry, [] => some .exact
  | .entry, [.char '\n'] => some .exact
  | .entry, .char '/' :: _ => some .inside
  | .folder, .char '/' :: _ => some .inside
  | .below, .char '/' :: _ => some .exact
  | _, _ => none

/-- Take characters that satisfy `p`, as many as the rest of the pattern allows: the
longest front is tried first. -/
def longestFirst (p : Point → Bool) (next : List Point → Option Hit) : List Point → Option Hit
  | [] => next []
  | c :: rest =>
      if p c then
        match longestFirst p next rest with
        | some hit => some hit
        | none => next (c :: rest)
      else next (c :: rest)

/-- The same with one character at least. -/
def longestNonempty (p : Point → Bool) (next : List Point → Option Hit) : List Point → Option Hit
  | [] => none
  | c :: rest => if p c then longestFirst p next rest else none

/-- The characters of names. -/
def isNameChar (c : Point) : Bool := c != '/'

/-- The characters that folders may have between slashes: a line feed is none. -/
def isFolderChar (c : Point) : Bool := c != '\n'

/-- Match the next character. -/
def oneChar (p : Point → Bool) (next : List Point → Option Hit) : List Point → Option Hit
  | c :: rest => if p c then next rest else none
  | [] => none

/-- Match one item, and go on with `next`. -/
def Atom.step : Atom → (next : List Point → Option Hit) → List Point → Option Hit
  | .literal c, next, cs => oneChar (· == c) next cs
  | .oneOf s, next, cs => oneChar s.has next cs
  | .one, next, cs => oneChar isNameChar next cs
  | .run, next, cs => longestFirst isNameChar next cs
  | .name, next, cs => longestNonempty isNameChar next cs
  | .leadingFolders, next, cs =>
      match longestNonempty isFolderChar (oneChar (· == .char '/') next) cs with
      | some hit => some hit
      | none => next cs
  | .innerFolders, next, cs =>
      match oneChar (· == .char '/') (longestNonempty isFolderChar next) cs with
      | some hit => some hit
      | none => next cs

/-- Match the items in order, then the ending. -/
def matchAtoms (ending : Ending) : List Atom → List Point → Option Hit
  | [], cs => ending.hit? cs
  | a :: rest, cs => a.step (matchAtoms ending rest) cs

/-- How a condition holds of a path. -/
def Matcher.hit? : Matcher → List Point → Option Hit
  | .everything, cs => if cs.any (· != .char '\n') then some .exact else none
  | .inFolder hit, cs => if cs.contains '/' then some hit else none
  | .path atoms ending, cs => matchAtoms ending atoms cs

/-- How a pattern matches a path. -/
def Pattern.hit? (p : Pattern) (path : List Point) : Option Hit := p.matcher.hit? path

/-! ## Verdicts -/

/-- The patterns of a project, in order. -/
structure Spec where
  patterns : List Pattern
  deriving DecidableEq, Repr, Inhabited

/-- What the patterns decide: later patterns come first, and among all hits an exact
one outweighs those through a folder.  A negated pattern takes the path back in. -/
def Spec.verdict? (s : Spec) (path : List Point) : Option Bool :=
  let hits := s.patterns.reverse.filterMap fun p => (p.hit? path).map fun hit => (hit, !p.negated)
  match hits.find? fun h => h.1 = .exact with
  | some h => some h.2
  | none => hits.head?.map (·.2)

/-- A path is matched relative to the root: one slash in front, or else one step into
the current folder, is dropped. -/
def relativeChars : List Point → List Point
  | .char '/' :: rest => rest
  | .char '.' :: .char '/' :: rest => rest
  | cs => cs

/-- Whether the patterns ignore a path. -/
def Spec.ignores (s : Spec) (path : Text) : Bool :=
  (s.verdict? (relativeChars path.toList)).getD false

end GoogIndex.Ignore
