/-
  Storage/AtomicWrite.lean --- writing a file as a whole.

  Normative source: SPEC_FULL §4.3, `write_file`.

  The new content goes into a temporary file in the target's folder, which then takes
  the target's name in one move.  Whatever goes wrong before the move leaves the
  target alone, and the temporary file is taken away again.

  Every step can be made to fail by an `Interruption`: what the steps before it have
  done is then what a failing step of the real storage would leave behind.
-/
import GoogIndex.Storage.Access

set_option autoImplicit false

namespace GoogIndex.Storage

/-- The steps of a write. -/
inductive WriteStep where
  /-- make the folder of this path -/
  | makeFolder (path : Text)
  | createTemporary
  | writeContent
  | readMode
  | setMode
  | moveIntoPlace
  deriving DecidableEq, Repr, Inhabited

/-- The steps that fail, and how. -/
abbrev Interruption := WriteStep → Option Fault

/-- No step fails by itself. -/
def Interruption.never : Interruption := fun _ => none

/-- How a write ends. -/
inductive WriteOutcome where
  /-- the target has the new content -/
  | written
  /-- storage refused a step -/
  | refused (r : Refusal)
  /-- a fault that is no refusal ended the write -/
  | broken (f : Fault)
  deriving DecidableEq, Repr, Inhabited

/-- The outcome of a fault. -/
def WriteOutcome.ofFault : Fault → WriteOutcome
  | .refused r => .refused r
  | f => .broken f

/-- What a write returns: nothing, or the refusal.  A fault that is no refusal is passed on. -/
def WriteOutcome.report : WriteOutcome → Except Fault (Option Refusal)
  | .written => .ok none
  | .refused r => .ok (some r)
  | .broken f => .error f

/-- The end of a write for its caller: what is returned goes to the callback first, if one
was given.  The callback acts on a state of the caller's. -/
def WriteOutcome.announce {σ : Type} (callback : Option (Option Refusal → σ → σ)) (state : σ)
    (o : WriteOutcome) : Except Fault (Option Refusal) × σ :=
  match o.report with
  | .error f => (.error f, state)
  | .ok value => (.ok value, callback.elim state fun call => call value state)

/-- A tree after an operation that may have failed halfway. -/
structure Attempt where
  tree : Tree
  fault : Option Fault
  deriving DecidableEq, Repr, Inhabited

namespace Tree

/-- Run a step unless it is interrupted. -/
def attempt {α : Type} (interrupt : Interruption) (step : WriteStep) (run : Except Fault α) :
    Except Fault α :=
  match interrupt step with
  | some f => .error f
  | none => run

/-- After a folder could not be made: that is no fault if it is there. -/
def settleFolder (t : Tree) (path : Text) (f : Fault) : Attempt :=
  match f with
  | .broken _ => ⟨t, some f⟩
  | .refused _ =>
      match t.isFolder path with
      | .ok true => ⟨t, none⟩
      | .ok false => ⟨t, some f⟩
      | .error g => ⟨t, some g⟩

/-- Make a folder; one that is there already is no fault. -/
def ensureFolder (interrupt : Interruption) (t : Tree) (path : Text) : Attempt :=
  match attempt interrupt (.makeFolder path) (t.makeFolder path) with
  | .ok t' => ⟨t', none⟩
  | .error (.refused ⟨.missing, paths⟩) => ⟨t, some (.refused ⟨.missing, paths⟩)⟩
  | .error f => t.settleFolder path f

/-- How many folders the program can make one for the sake of the other: each call waits for
the one that makes the folder around its own. -/
def folderCalls : Nat := 985

/-- Make a folder with the missing folders on the way to it, while there is room for this
many calls.  The names of its path stand in reverse. -/
def ensureFoldersWithin (interrupt : Interruption) (anchor : Anchor) :
    (calls : Nat) → Tree → List Text → Attempt
  | 0, t, _ => ⟨t, some (.broken .tooDeep)⟩
  | _ + 1, t, [] => ensureFolder interrupt t (PathName.mk anchor []).toText
  | calls + 1, t, name :: before =>
      let path := (PathName.mk anchor (name :: before).reverse).toText
      match attempt interrupt (.makeFolder path) (t.makeFolder path) with
      | .ok t' => ⟨t', none⟩
      | .error (.refused ⟨.missing, _⟩) =>
          let parents := ensureFoldersWithin interrupt anchor calls t before
          match parents.fault with
          | some _ => parents
          | none => ensureFolder interrupt parents.tree path
      | .error f => t.settleFolder path f

/-- Make a folder with the missing folders on the way to it.  The names of its path
stand in reverse. -/
def ensureFolders (interrupt : Interruption) (anchor : Anchor) (t : Tree) (names : List Text) :
    Attempt :=
  ensureFoldersWithin interrupt anchor folderCalls t names

/-- A name for a temporary file. -/
def temporaryName (n : Nat) : Text :=
  let digits := Nat.toDigits 10 n
  "tmp" ++ String.ofList (List.replicate (8 - digits.length) '0' ++ digits) ++ ".tmp"

/-- Make a temporary file under one name; its path comes with the tree. -/
def createNumbered (t : Tree) (folder : PathName) (n : Nat) : Except Fault (Tree × Text) :=
  let path := (folder.child (temporaryName n)).toText
  (t.createFile 0o600 path).map fun t' => (t', path)

/-- Whether a fault says that a name is taken. -/
def isTaken : Fault → Bool
  | .refused r => r.reason == .exists
  | .broken _ => false

/-- The first of some attempts, counted from `n`, whose name is not taken. -/
def firstFree {α : Type} (make : Nat → Except Fault α) : (tries n : Nat) → Except Fault α
  | 0, n => make n
  | tries + 1, n =>
      match make n with
      | .ok made => .ok made
      | .error f => if isTaken f then firstFree make tries (n + 1) else .error f

/-- Make a temporary file under the first name that is free, counting from `n`. -/
def createTemporary (t : Tree) (folder : PathName) (tries n : Nat) : Except Fault (Tree × Text) :=
  firstFree (t.createNumbered folder) tries n

/-- How many names may be taken in a folder. -/
def entryCount (t : Tree) (folder : PathName) : Nat :=
  match t.node folder.toText with
  | .ok (.folder _ inner) => inner.size
  | _ => 0

/-- The permissions for the new file: those of the target, or the usual ones (SPEC_FULL §4.3,
`_file_mode`). -/
def modeFor (interrupt : Interruption) (t : Tree) (target : Text) : Except Fault Nat :=
  match attempt interrupt .readMode (t.attributesOf target) with
  | .ok a => .ok a.mode
  | .error (.refused _) => .ok (0o666 &&& (0o7777 ^^^ t.umask))
  | .error f => .error f

/-- The steps from the temporary file to the move.  A fault comes with the tree that
it leaves.  The permissions are those of the target in `before`, the tree without the
temporary file: whatever name that file has, no target leads to it. -/
def fillAndMove (interrupt : Interruption) (before t : Tree) (content : List UInt8)
    (temporary target : Text) : Attempt :=
  match attempt interrupt .writeContent (t.setContent content temporary) with
  | .error f => ⟨t, some f⟩
  | .ok t =>
      match modeFor interrupt before target with
      | .error f => ⟨t, some f⟩
      | .ok mode =>
          match attempt interrupt .setMode (t.setMode mode temporary) with
          | .error f => ⟨t, some f⟩
          | .ok t =>
              match attempt interrupt .moveIntoPlace (t.moveFile temporary target) with
              | .error f => ⟨t, some f⟩
              | .ok t => ⟨t, none⟩

/-- A tree after a write, and how the write ended. -/
structure Written where
  tree : Tree
  outcome : WriteOutcome
  deriving DecidableEq, Repr, Inhabited

/-- Write a text to a path as a whole (SPEC_FULL §4.3, `write_file`). -/
def writeFile (t : Tree) (interrupt : Interruption) (content : String) (path : Text) : Written :=
  let target := PathName.ofText path
  let parents := ensureFolders interrupt target.parent.anchor t target.parent.names.reverse
  match parents.fault with
  | some f => ⟨parents.tree, .ofFault f⟩
  | none =>
      let t := parents.tree
      let folder := target.parent.absolute t.workingName
      let created := t.createTemporary folder (t.entryCount folder) 0
      match attempt interrupt .createTemporary created with
      | .error f => ⟨t, .ofFault f⟩
      | .ok (made, temporary) =>
          let moved :=
            fillAndMove interrupt t made (Text.encodeUtf8 content) temporary target.toText
          match moved.fault with
          | none => ⟨moved.tree, .written⟩
          | some f =>
              -- the temporary file is taken away, if that is possible
              let cleaned :=
                match moved.tree.remove temporary with
                | .ok t => t
                | .error _ => moved.tree
              ⟨cleaned, .ofFault f⟩

end Tree

end GoogIndex.Storage
