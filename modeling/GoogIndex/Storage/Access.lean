/-
  Storage/Access.lean --- reading from storage, and its single changes.

  Normative source: SPEC_FULL §4.2 for the time of a file; §4.3 for the steps of a write.

  Each change is one operation: it either happens as a whole, or is refused and
  leaves the tree as it was.
-/
import GoogIndex.Storage.Tree
import GoogIndex.Text.Blank
import GoogIndex.Text.Utf8

set_option autoImplicit false

namespace GoogIndex.Storage

open GoogIndex.Text

/-- Why a text cannot be read. -/
inductive ReadFault where
  | access (f : Fault)
  | undecodable (f : Utf8Fault)
  deriving DecidableEq, Repr, Inhabited

/-- The kind of a fault in reports. -/
def ReadFault.label : ReadFault → String
  | .access f => f.label
  | .undecodable _ => "UnicodeDecodeError"

/-- The report of a fault. -/
def ReadFault.message : ReadFault → String
  | .access f => f.message
  | .undecodable f => f.message

namespace Tree

/-! ## Reading -/

/-- The node that a path leads to, through links. -/
def node (t : Tree) (path : Text) : Except Fault Node := (t.lookup true path).map (·.2)

/-- The attributes of what a path leads to. -/
def attributesOf (t : Tree) (path : Text) : Except Fault Attributes := do
  match ← t.node path with
  | .file a _ => return a
  | .folder a _ => return a
  | .link _ => refuse .missing path

/-- The modification time of what a path leads to, in whole milliseconds (SPEC_FULL §4.2,
`modified_millis`). -/
def modifiedMillis (t : Tree) (path : Text) : Except Fault Int :=
  (t.attributesOf path).map fun a => a.modified.millis

/-- The content of a file. -/
def bytesOf (t : Tree) (path : Text) : Except Fault (List UInt8) := do
  match ← t.node path with
  | .file _ content => return content
  | .folder _ _ => refuse .isFolder path
  | .link _ => refuse .missing path

/-- The text of a file, its line ends unified. -/
def textOf (t : Tree) (path : Text) : Except ReadFault String :=
  match t.bytesOf path with
  | .error f => .error (.access f)
  | .ok bytes =>
      match decodeUtf8 bytes with
      | .error f => .error (.undecodable f)
      | .ok cs => .ok (.ofList (unifyNewlines cs))

/-- The reasons that only mean that a path leads nowhere. -/
def Reason.isAbsence : Reason → Bool
  | .missing => true
  | .notFolder => true
  | .tooManyLinks => true
  | _ => false

/-- A condition on what a path leads to; false if it leads nowhere.  Other refusals are
reported. -/
def asks (t : Tree) (path : Text) (p : Node → Bool) : Except Fault Bool :=
  match t.node path with
  | .ok node => .ok (p node)
  | .error (.broken _) => .ok false
  | .error (.refused r) =>
      if Reason.isAbsence r.reason then .ok false else .error (.refused r)

/-- Whether a path leads to something. -/
def leadsSomewhere (t : Tree) (path : Text) : Except Fault Bool := t.asks path fun _ => true

/-- Whether a path leads to a folder. -/
def isFolder (t : Tree) (path : Text) : Except Fault Bool := t.asks path Node.isFolder

/-- Whether a path can be seen to lead to something, whatever the reason if not. -/
def canBeSeen (t : Tree) (path : Text) : Bool := (t.node path).isOk

/-- Whether an entry of a folder is a folder, links followed. -/
def entryIsFolder (t : Tree) (folder : Location) (name : Text) : Node → Bool
  | .folder _ _ => true
  | .file _ _ => false
  | .link _ =>
      match t.walk true linkLimit folder [.down name] with
      | .ok (.found _ node) => node.isFolder
      | _ => false

/-! ## Walks -/

/-- Whether a walk takes the entry that names lead to for a folder.  A link is one if the path
of the walk leads to a folder; where that cannot be seen, it is none. -/
def seesFolder (t : Tree) (root : PathName) (names : List Text) : Node → Bool
  | .folder _ _ => true
  | .file _ _ => false
  | .link _ =>
      match t.node (root.below names) with
      | .ok node => node.isFolder
      | .error _ => false

/-- Whether a walk can list the folder that names lead to: its path must not be too long.  A
folder that cannot be listed is passed over in silence. -/
def canBeListed (root : PathName) (names : List Text) : Bool :=
  decide ((root.below names).byteSize ≤ pathLimit)

/-- Whether an entry of the folder that `names` lead to is a folder beyond the calls of a walk.
A walk calls itself for each folder, and asks of each whether it is a link. -/
def liesBeyond (t : Tree) (calls : Nat) (root : PathName) (names : List Text) (name : Text)
    (node : Node) : Bool :=
  decide (calls ≤ names.length) && t.seesFolder root (names ++ [name]) node

/-- Whether a walk comes to a folder beyond its calls.  `enters` says which of the folders in the
folder that `names` lead to it goes into. -/
def walksBeyond (t : Tree) (calls : Nat) (root : PathName)
    (enters : (names : List Text) → (name : Text) → Bool) :
    (names : List Text) → Folder → Bool
  | _, .empty => false
  | names, .file _ _ _ rest => walksBeyond t calls root enters names rest
  | names, .link name target rest =>
      enters names name && t.liesBeyond calls root names name (.link target) ||
        walksBeyond t calls root enters names rest
  | names, .folder name a inner rest =>
      enters names name && (t.liesBeyond calls root names name (.folder a inner) ||
          canBeListed root (names ++ [name]) &&
            walksBeyond t calls root enters (names ++ [name]) inner) ||
        walksBeyond t calls root enters names rest

/-- The path name of the working folder. -/
def workingName (t : Tree) : PathName := ⟨.root, t.working⟩

/-! ## Real paths -/

/-- Where a path leads through all links: to a location, or as far as a link that leads
back to itself, with the steps after it taken by name. -/
inductive Real where
  | resolved (location : Location)
  | looping (location : Location)
  deriving DecidableEq, Repr, Inhabited

/-- The location of a real path. -/
def Real.location : Real → Location
  | .resolved location => location
  | .looping location => location

/-- Take steps by name alone. -/
def byName : Location → List Step → Location
  | here, [] => here
  | here, .stay :: rest => byName here rest
  | here, .up :: rest => byName here.dropLast rest
  | here, .down name :: rest => byName (here ++ [name]) rest

/-- Follow steps as far as names exist, and by name alone from there.  `resolve` follows
the target of a link; a link at a location in `met` leads back to itself. -/
def realSteps (t : Tree) (resolve : List Location → Location → List Step → Real)
    (met : List Location) : Location → List Step → Real
  | here, [] => .resolved here
  | here, .stay :: rest => realSteps t resolve met here rest
  | here, .up :: rest => realSteps t resolve met here.dropLast rest
  | here, .down name :: rest =>
      let there := here ++ [name]
      match t.at? there with
      | some (.link target) =>
          if met.contains there then .looping (byName there rest)
          else
            let base := if startsAtRoot target then [] else here
            match resolve (there :: met) base (steps target) with
            | .looping stop => .looping (byName stop rest)
            | .resolved stop => realSteps t resolve met stop rest
      | _ => realSteps t resolve met there rest

/-- Follow steps through links that are nested at most so deep. -/
def realFrom (t : Tree) : (depth : Nat) → List Location → Location → List Step → Real
  | 0, _, here, todo => .looping (byName here todo)
  | depth + 1, met, here, todo => realSteps t (realFrom t depth) met here todo

/-- The real path of a path; what does not exist is followed by name.  A chain of links
without a repetition is no longer than there are links. -/
def realPath (t : Tree) (path : Text) : Real :=
  t.realFrom (t.root.linkCount + 1) [] (t.start path) (steps path)

/-! ## Changes -/

/-- Make a folder. -/
def makeFolder (t : Tree) (path : Text) : Except Fault Tree :=
  match breach? path with
  | some b => .error (.broken b)
  | none =>
      match t.slot path with
      | .error reason => refuse reason path
      | .ok .unnamed => refuse .exists path
      | .ok (.entry folder name) =>
          match t.at? (folder ++ [name]) with
          | some _ => refuse .exists path
          | none =>
              let mode := 0o777 &&& (0o7777 ^^^ t.umask)
              .ok (t.changeEntries folder fun f => f.put name (.folder ⟨mode, t.clock⟩ .empty))

/-- Make an empty file where nothing is yet. -/
def createFile (t : Tree) (mode : Nat) (path : Text) : Except Fault Tree :=
  match breach? path with
  | some b => .error (.broken b)
  | none =>
      match t.slot path with
      | .error reason => refuse reason path
      | .ok .unnamed => refuse .exists path
      | .ok (.entry folder name) =>
          match t.at? (folder ++ [name]) with
          | some _ => refuse .exists path
          | none => .ok (t.changeEntries folder fun f => f.put name (.file ⟨mode, t.clock⟩ []))

/-- Replace the content of a file. -/
def setContent (t : Tree) (content : List UInt8) (path : Text) : Except Fault Tree := do
  let (location, node) ← t.lookup true path
  match node with
  | .file a _ =>
      return t.changeNode location fun _ => .file { a with modified := t.clock } content
  | .folder _ _ => refuse .isFolder path
  | .link _ => refuse .missing path

/-- Change the permissions of what a path leads to. -/
def setMode (t : Tree) (mode : Nat) (path : Text) : Except Fault Tree := do
  let (location, _) ← t.lookup true path
  return t.changeNode location (Node.withAttributes fun a => { a with mode := mode })

/-- Take a file or a link away. -/
def remove (t : Tree) (path : Text) : Except Fault Tree :=
  match breach? path with
  | some b => .error (.broken b)
  | none =>
      match t.slot path with
      | .error reason => refuse reason path
      | .ok .unnamed => refuse .isFolder path
      | .ok (.entry folder name) =>
          match t.at? (folder ++ [name]) with
          | none => refuse .missing path
          | some (.folder _ _) => refuse .isFolder path
          | some _ => .ok (t.changeEntries folder fun f => f.erase name)

/-- Move a file onto a name, whose former entry is gone then. -/
def moveFile (t : Tree) (source target : Text) : Except Fault Tree :=
  let refuseMove (reason : Reason) : Except Fault Tree :=
    .error (.refused ⟨reason, [source, target]⟩)
  match (breach? source).or (breach? target) with
  | some b => .error (.broken b)
  | none =>
      match t.slot source with
      | .error reason => refuseMove reason
      | .ok from? =>
          match t.slot target with
          | .error reason => refuseMove reason
          | .ok to? =>
              match from?, to? with
              | .entry folder name, .entry toFolder toName =>
                  match t.at? (folder ++ [name]) with
                  | some (.file a content) =>
                      match t.at? (toFolder ++ [toName]) with
                      | some (.folder _ _) => refuseMove .isFolder
                      | _ =>
                          .ok ((t.changeEntries folder fun f => f.erase name).changeEntries toFolder
                            fun f => f.put toName (.file a content))
                  | some _ => refuseMove .isFolder
                  | none => refuseMove .missing
              | _, _ => refuseMove .busy

end Tree

end GoogIndex.Storage
