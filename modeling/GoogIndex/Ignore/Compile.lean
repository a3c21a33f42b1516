/-
  Ignore/Compile.lean --- from the line of an ignore file to a pattern.

  Normative source: SPEC_FULL §4.4, the syntax of patterns.

  A line is cut at its slashes.  A single name applies at every depth, several are
  rooted; a slash at the end asks for a folder.  Two stars stand for any folders.
  Some lines are no patterns: blanks, comments, a lone slash, and a name with an open
  bracket.  Other lines are refused: one that names nothing, one with a name that ends
  in an escape, and one with a range of characters that runs backwards.
-/
import GoogIndex.Ignore.Pattern
import GoogIndex.Storage.PathName
import GoogIndex.Text.Blank
import GoogIndex.Text.Quoted

set_option autoImplicit false

namespace GoogIndex.Ignore

open GoogIndex.Storage GoogIndex.Text

/-- Why a line is refused. -/
inductive PatternFault where
  /-- it names nothing, or a name ends in an escape -/
  | invalid (line : Text)
  /-- a range runs backwards; the position is that in the regular expression which
  the line stands for -/
  | reversedRange (first last : Point) (position : Nat)
  deriving DecidableEq, Repr, Inhabited

/-- A character inside of a bracket: a backslash is written twice there. -/
def bracketText (c : Point) : List Point := if c = '\\' then ['\\', '\\'] else [c]

/-- The kind of a fault in reports. -/
def PatternFault.label : PatternFault → String
  | .invalid _ => "GitIgnorePatternError"
  | .reversedRange _ _ _ => "error"

/-- The report of a fault. -/
def PatternFault.message : PatternFault → Text
  | .invalid line => "Invalid git pattern: " ++ quoted line
  | .reversedRange first last position =>
      "bad character range " ++ Text.ofList (bracketText first) ++ "-"
        ++ Text.ofList (bracketText last) ++ " at position " ++ toString position

/-! ## Names with wild cards -/

/-- An item of a name. -/
inductive Glob where
  | literal (c : Point)
  | one
  | run
  | bracket (negated : Bool) (body : List Point)
  deriving DecidableEq, Repr

/-- Why a name cannot be read. -/
inductive GlobFault where
  /-- a bracket is not closed: the line is no pattern -/
  | unclosed
  /-- nothing follows the last escape -/
  | danglingEscape
  deriving DecidableEq, Repr

/-- The bracket after its opening: whether it is negated, its body, and its length
with the closing bracket.  A closing bracket that comes first belongs to the body. -/
def bracket? (cs : List Point) : Option (Bool × List Point × Nat) :=
  let negated := cs.head? = some (.char '!') || cs.head? = some (.char '^')
  let inner := if negated then cs.drop 1 else cs
  let lead : List Point := if inner.head? = some (.char ']') then [']'] else []
  let body := lead ++ (inner.drop lead.length).takeWhile (· != .char ']')
  if (inner.drop body.length).isEmpty then none
  else some (negated, body, (if negated then 1 else 0) + body.length + 1)

/-- Read a name; `skip` characters are accounted for. -/
def globs : (skip : Nat) → List Point → Except GlobFault (List Glob)
  | _, [] => .ok []
  | skip + 1, _ :: rest => globs skip rest
  | 0, c :: rest =>
      if c = '\\' then
        match rest with
        | [] => .error .danglingEscape
        | d :: _ => do return .literal d :: (← globs 1 rest)
      else if c = '*' then do return .run :: (← globs 0 rest)
      else if c = '?' then do return .one :: (← globs 0 rest)
      else if c = '[' then
        match bracket? rest with
        | none => .error .unclosed
        | some (negated, body, length) => do
            return .bracket negated body :: (← globs length rest)
      else do return .literal c :: (← globs 0 rest)

/-! ## Segments -/

/-- What stands between two slashes. -/
inductive Segment where
  /-- two stars: any folders -/
  | folders
  /-- one star: a whole name -/
  | name
  /-- a name with wild cards -/
  | glob (items : List Glob)
  deriving DecidableEq, Repr

/-- Two stars. -/
def twoStars : List Point := ['*', '*']

/-- Put the segments in relation to the root: an empty one in front stands for the
root, and a single name, with a slash after it or without, applies at every depth. -/
def rootedSegments : List (List Point) → List (List Point)
  | [] :: rest => rest
  | [s] => if s = twoStars then [s] else [twoStars, s]
  | [s, []] => if s = twoStars then [s, []] else [twoStars, s, []]
  | segments => segments

/-- A slash at the end stands for everything below. -/
def closeSegments : List (List Point) → List (List Point)
  | [] => []
  | [[]] => [twoStars]
  | s :: rest => s :: closeSegments rest

/-- Two stars twice in a row are the same as once. -/
def collapseStars : List (List Point) → List (List Point)
  | a :: b :: rest =>
      if a = twoStars ∧ b = twoStars then collapseStars (b :: rest)
      else a :: collapseStars (b :: rest)
  | segments => segments

/-- Read a segment. -/
def Segment.ofChars (cs : List Point) : Except GlobFault Segment :=
  if cs = twoStars then .ok .folders
  else if cs = [.char '*'] then .ok .name
  else (globs 0 cs).map .glob

/-! ## Atoms -/

/-- The ranges that the body of a bracket lists.  `position` is that of its first
character. -/
def ranges (position : Nat) : List Point → Except PatternFault (List (Point × Point))
  | first :: .char '-' :: last :: rest =>
      if last < first then .error (.reversedRange first last position)
      else do
        let width := (bracketText first).length + 1 + (bracketText last).length
        return (first, last) :: (← ranges (position + width) rest)
  | c :: rest => do
      return (c, c) :: (← ranges (position + (bracketText c).length) rest)
  | [] => .ok []

/-- The characters that regular expressions escape. -/
def isRegexSpecial (c : Point) : Bool :=
  "()[]\x7b\x7d?*+-|^$\\.&~# \t\n\r\x0b\x0c".toList.any fun special => c = special

/-- The width of an item in the regular expression it stands for. -/
def Glob.width : Glob → Nat
  | .literal c => if isRegexSpecial c then 2 else 1
  | .one => "[^/]".length
  | .run => "[^/]*".length
  | .bracket negated body =>
      2 + (if negated then 1 else 0) + (body.flatMap bracketText).length

/-- The atom for an item at a position. -/
def Glob.atom (position : Nat) : Glob → Except PatternFault Atom
  | .literal c => .ok (.literal c)
  | .one => .ok .one
  | .run => .ok .run
  | .bracket negated body => do
      let found ← ranges (position + if negated then 2 else 1) body
      return .oneOf ⟨negated, found⟩

/-- The atoms of a name, and the position after it. -/
def globAtoms (position : Nat) : List Glob → Except PatternFault (List Atom × Nat)
  | [] => .ok ([], position)
  | g :: rest => do
      let atom ← g.atom position
      let (atoms, stop) ← globAtoms (position + g.width) rest
      return (atom :: atoms, stop)

/-- The atoms of a segment that is no run of folders. -/
def Segment.atoms (position : Nat) : Segment → Except PatternFault (List Atom × Nat)
  | .folders => .ok ([.innerFolders], position + "(?:/.+)?".length)
  | .name => .ok ([.name], position + "[^/]+".length)
  | .glob items => globAtoms position items

/-- The atoms of the segments after the first.  Two stars at the end leave the slash
to the ending. -/
def restAtoms (position : Nat) : List Segment → Except PatternFault (List Atom)
  | [] => .ok []
  | [.folders] => .ok []
  | .folders :: rest => do
      let (atoms, stop) ← Segment.folders.atoms position
      return atoms ++ (← restAtoms stop rest)
  | s :: rest => do
      let (atoms, stop) ← s.atoms (position + 1)
      return .literal '/' :: atoms ++ (← restAtoms stop rest)

/-- The atoms of all segments.  Two stars in front stand for the folders before the
next name, which then needs no slash of its own. -/
def segmentAtoms : List Segment → Except PatternFault (List Atom)
  | .folders :: s :: rest => do
      let start := "^(?:.+/)?".length
      let (atoms, stop) ← s.atoms start
      return .leadingFolders :: atoms ++ (← restAtoms stop rest)
  | s :: rest => do
      let (atoms, stop) ← s.atoms 1
      return atoms ++ (← restAtoms stop rest)
  | [] => .ok []

/-! ## Lines -/

/-- The condition that segments describe.  `folderOnly` says that the line ended in a
slash. -/
def matcherOf (folderOnly : Bool) : List Segment → Except PatternFault Matcher
  | [.folders] => .ok (if folderOnly then .inFolder .inside else .everything)
  | [.folders, .name] => .ok .everything
  | [.folders, .name, .folders] => .ok (.inFolder (if folderOnly then .inside else .exact))
  | segments => do
      let atoms ← segmentAtoms segments
      let ending : Ending :=
        if segments.getLast? = some .folders then if folderOnly then .folder else .below
        else .entry
      return .path atoms ending

/-- A line without the blanks at its end, unless the last one is escaped. -/
def trimLine (line : Text) : List Point :=
  let cs := line.toList
  if [.char '\\', .char ' '].isSuffixOf cs then cs else dropAtEnd isBlank cs

/-- The pattern that a line states, if it states one. -/
def Pattern.ofLine (line : Text) : Except PatternFault (Option Pattern) :=
  let cs := trimLine line
  if cs.isEmpty ∨ cs.head? = some (.char '#') ∨ cs = [.char '/'] then .ok none
  else
    let negated := cs.head? = some (.char '!')
    let raw := splitAtSlashes (if negated then cs.drop 1 else cs)
    let folderOnly := raw.getLast? = some []
    let segments := collapseStars (closeSegments (rootedSegments raw))
    if segments.isEmpty then .error (.invalid line)
    else
      match segments.mapM Segment.ofChars with
      | .error .unclosed => .ok none
      | .error .danglingEscape => .error (.invalid line)
      | .ok segments => do
          let matcher ← matcherOf folderOnly segments
          return some ⟨negated, matcher⟩

/-- The patterns of all lines, up to the first that is refused. -/
def Spec.ofLines (lines : List Text) : Except PatternFault Spec := do
  let found ← (lines.filter fun (line : Text) => line != "").mapM Pattern.ofLine
  return ⟨found.filterMap id⟩

end GoogIndex.Ignore
