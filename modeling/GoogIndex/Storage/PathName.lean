/-
  Storage/PathName.lean --- paths as names between slashes.

  A path name is kept in normal form: slashes that follow each other count once, and
  so does a step that stays in place; a step upwards is kept, because it may lead
  through a link.  Two slashes in front are a root of their own.
-/
import GoogIndex.Text.Point

set_option autoImplicit false

namespace GoogIndex.Storage

/-- Where a path name starts. -/
inductive Anchor where
  | relative
  | root
  | doubleRoot
  deriving DecidableEq, Repr, Inhabited

/-- The text of an anchor. -/
def Anchor.text : Anchor → Text
  | .relative => ""
  | .root => "/"
  | .doubleRoot => "//"

/-- A path name. -/
structure PathName where
  anchor : Anchor
  names : List Text
  deriving DecidableEq, Repr, Inhabited

/-- The pieces between slashes, empty ones included. -/
def splitAtSlashes : List Point → List (List Point)
  | [] => [[]]
  | p :: rest =>
      if p = '/' then [] :: splitAtSlashes rest
      else
        match splitAtSlashes rest with
        | [] => [[p]]
        | piece :: more => (p :: piece) :: more

/-- Texts with a slash between them. -/
def joinSlashes (names : List Text) : Text := .intercalate "/" names

namespace PathName

/-- The anchor of a text. -/
def anchorOf : List Point → Anchor
  | .char '/' :: .char '/' :: .char '/' :: _ => .root
  | .char '/' :: .char '/' :: _ => .doubleRoot
  | .char '/' :: _ => .root
  | _ => .relative

/-- Read a path name. -/
def ofText (s : Text) : PathName :=
  let pieces := (splitAtSlashes s.toList).map Text.ofList
  ⟨anchorOf s.toList, pieces.filter fun n => n != "" && n != "."⟩

/-- The text of a path name; the current folder has a point for a name. -/
def toText (p : PathName) : Text :=
  if p.anchor = .relative ∧ p.names = [] then "." else p.anchor.text ++ joinSlashes p.names

/-- The path by which a walk from `root` comes to the entry that names lead to.  Unlike the
text of a path name it keeps the point for the current folder. -/
def below (root : PathName) (names : List Text) : Text :=
  let path := (PathName.mk root.anchor (root.names ++ names)).toText
  if root.anchor = .relative ∧ root.names = [] ∧ names ≠ [] then "./" ++ path else path

/-- Whether a path name starts at a root. -/
def isAbsolute (p : PathName) : Bool := p.anchor != .relative

/-- A path name as seen from another; an absolute one stays. -/
def join (base p : PathName) : PathName :=
  if p.isAbsolute then p else ⟨base.anchor, base.names ++ p.names⟩

/-- Go to an entry of the folder that a path name leads to. -/
def child (p : PathName) (name : Text) : PathName := p.join (ofText name)

/-- Leave the last name out, if there is one. -/
def parent (p : PathName) : PathName := ⟨p.anchor, p.names.dropLast⟩

/-- The path name as seen from `base`, if `base` is a front of it. -/
def relativeTo? (p base : PathName) : Option PathName :=
  if p.anchor = base.anchor ∧ base.names.isPrefixOf p.names then
    some ⟨.relative, p.names.drop base.names.length⟩
  else none

/-- Resolve steps upwards by the names alone. -/
def collapseNames (absolute : Bool) (names : List Text) : List Text :=
  (names.foldl (fun done (n : Text) =>
    if n = ".." then
      match done with
      | [] => if absolute then [] else [n]
      | last :: before => if last = ".." then n :: done else before
    else n :: done) []).reverse

/-- The absolute path name without steps upwards, for a working folder. -/
def absolute (p working : PathName) : PathName :=
  let joined := working.join p
  ⟨joined.anchor, collapseNames joined.isAbsolute joined.names⟩

end PathName

/-- The part of a name from its last point on.  A point that comes first or last
makes no suffix. -/
def suffixOf (name : Text) : Text :=
  let ps := name.toList
  let tail := (ps.reverse.takeWhile (· != .char '.')).reverse
  let stem := ps.take (ps.length - tail.length - 1)
  if tail.length = ps.length ∨ tail.isEmpty ∨ stem.isEmpty then "" else .ofList ('.' :: tail)

end GoogIndex.Storage
