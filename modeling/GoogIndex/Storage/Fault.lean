/-
  Storage/Fault.lean --- why storage refuses an operation.
-/
import GoogIndex.Text.Quoted

set_option autoImplicit false

namespace GoogIndex.Storage

open GoogIndex.Text

/-- The reason of a refusal. -/
inductive Reason where
  | missing
  | busy
  | exists
  | notFolder
  | isFolder
  | nameTooLong
  | notEmpty
  | tooManyLinks
  deriving DecidableEq, Repr, Inhabited

/-- The number under which a reason is reported. -/
def Reason.number : Reason → Nat
  | .missing => 2
  | .busy => 16
  | .exists => 17
  | .notFolder => 20
  | .isFolder => 21
  | .nameTooLong => 36
  | .notEmpty => 39
  | .tooManyLinks => 40

/-- The words for a reason. -/
def Reason.words : Reason → String
  | .missing => "No such file or directory"
  | .busy => "Device or resource busy"
  | .exists => "File exists"
  | .notFolder => "Not a directory"
  | .isFolder => "Is a directory"
  | .nameTooLong => "File name too long"
  | .notEmpty => "Directory not empty"
  | .tooManyLinks => "Too many levels of symbolic links"

/-- The kind of a refusal in reports: some reasons have one of their own. -/
def Reason.label : Reason → String
  | .missing => "FileNotFoundError"
  | .exists => "FileExistsError"
  | .notFolder => "NotADirectoryError"
  | .isFolder => "IsADirectoryError"
  | .busy => "OSError"
  | .nameTooLong => "OSError"
  | .notEmpty => "OSError"
  | .tooManyLinks => "OSError"

/-- A refusal: its reason and the paths that the operation was about. -/
structure Refusal where
  reason : Reason
  paths : List Text
  deriving DecidableEq, Repr, Inhabited

/-- The report of a refusal: two paths are shown as a move. -/
def Refusal.message (r : Refusal) : String :=
  "[Errno " ++ toString r.reason.number ++ "] " ++ r.reason.words ++
    match r.paths with
    | [] => ""
    | [path] => ": " ++ quoted path
    | source :: target :: _ => ": " ++ quoted source ++ " -> " ++ quoted target

/-- What ends an operation that storage does not refuse. -/
inductive Breach where
  /-- the path has a NUL and names nothing -/
  | nullByte
  /-- the path has so many halves of surrogate pairs at this position, of which this one, the
  first, is not read from a byte -/
  | unencodable (first : Fin 0x800) (position count : Nat)
  /-- more folders stand within each other than the program can go through -/
  | tooDeep
  deriving DecidableEq, Repr, Inhabited

/-- The first half of a surrogate pair that is not read from a byte, with its position and how
many halves stand there in a row. -/
def unencodable? : (position : Nat) → List Point → Option Breach
  | _, [] => none
  | position, .char _ :: rest => unencodable? (position + 1) rest
  | position, .lone half :: rest =>
      if (Point.lone half).isByte then unencodable? (position + 1) rest
      else some (.unencodable half position (1 + (rest.takeWhile Point.isLone).length))

/-- What keeps a text from being the path of anything.  It is encoded before it is looked at. -/
def breach? (path : Text) : Option Breach :=
  match unencodable? 0 path.toList with
  | some b => some b
  | none => if path.toList.contains '\x00' then some .nullByte else none

/-- Whether a code point may stand in a path. -/
def isPathPoint : Point → Bool
  | .char c => c != '\x00'
  | .lone half => (Point.lone half).isByte

theorem unencodable?_eq_none_iff {position : Nat} {ps : List Point} :
    unencodable? position ps = none ↔ ∀ p ∈ ps, p.isLone = true → p.isByte = true := by
  induction ps generalizing position with
  | nil => simp [unencodable?]
  | cons p rest ih =>
      cases p with
      | char c => simp [unencodable?, ih, Point.isLone]
      | lone half =>
          by_cases hbyte : (Point.lone half).isByte = true
          · simp [unencodable?, hbyte, ih]
          · simp [unencodable?, hbyte, Point.isLone]

/-- A text is a path if each of its code points may stand in one. -/
theorem breach?_eq_none_iff {path : Text} :
    breach? path = none ↔ ∀ p ∈ path.toList, isPathPoint p = true := by
  have hpoint (p : Point) : isPathPoint p = true ↔
      (p.isLone = true → p.isByte = true) ∧ p ≠ '\x00' := by
    cases p <;> simp [isPathPoint, Point.isLone]
  simp only [hpoint, forall_and, ← @unencodable?_eq_none_iff 0]
  unfold breach?
  cases unencodable? 0 path.toList with
  | some b => simp
  | none =>
      have hnull : Point.char '\x00' ∉ path.toList ↔ ∀ p ∈ path.toList, p ≠ '\x00' :=
        ⟨fun h p hp heq => h (heq ▸ hp), fun h hmem => h _ hmem rfl⟩
      simp [hnull]

/-- The kind of a breach in reports. -/
def Breach.label : Breach → String
  | .nullByte => "ValueError"
  | .unencodable _ _ _ => "UnicodeEncodeError"
  | .tooDeep => "RecursionError"

/-- The report of a breach. -/
def Breach.message : Breach → String
  | .nullByte => "embedded null byte"
  | .unencodable first position count =>
      let place :=
        if count = 1 then
          "character '" ++ .ofList (numberEscape (Point.lone first).toNat) ++ "' in position "
            ++ toString position
        else
          "characters in position " ++ toString position ++ "-" ++ toString (position + count - 1)
      "'utf-8' codec can't encode " ++ place ++ ": surrogates not allowed"
  | .tooDeep => "maximum recursion depth exceeded"

/-- Why a path cannot be accessed. -/
inductive Fault where
  /-- storage refuses the operation -/
  | refused (r : Refusal)
  /-- the operation does not come to storage -/
  | broken (b : Breach)
  deriving DecidableEq, Repr, Inhabited

/-- The kind of a fault in reports. -/
def Fault.label : Fault → String
  | .refused r => r.reason.label
  | .broken b => b.label

/-- The report of a fault. -/
def Fault.message : Fault → String
  | .refused r => r.message
  | .broken b => b.message

/-- A refusal about one path. -/
def refuse {α : Type} (reason : Reason) (path : Text) : Except Fault α :=
  .error (.refused ⟨reason, [path]⟩)

end GoogIndex.Storage
