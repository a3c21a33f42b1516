/-
  Storage/Tree.lean --- the whole of storage, and how a path leads through it.

  A path is followed name by name from the root or from the working folder.  A link
  on the way is replaced by its target, at most forty times for one path.  A location
  is a path without links or steps upwards: the names from the root down.
-/
import GoogIndex.Storage.Fault
import GoogIndex.Storage.Folder
import GoogIndex.Storage.PathName

set_option autoImplicit false

namespace GoogIndex.Storage

/-- The names from the root down to a place. -/
abbrev Location := List Text

/-- Storage: the folder at the root, the working folder, the time at which changes
are made, and the permissions that new entries do not get. -/
structure Tree where
  attributes : Attributes
  root : Folder
  working : Location
  clock : FileTime
  umask : Nat
  deriving DecidableEq, Repr, Inhabited

namespace Tree

/-! ## Locations -/

/-- What stands at a location below a node. -/
def nodeBelow : Node → Location → Option Node
  | node, [] => some node
  | .folder _ inner, name :: rest => (inner.find? name).bind fun node => nodeBelow node rest
  | _, _ :: _ => none

/-- What stands at a location. -/
def at? (t : Tree) (location : Location) : Option Node :=
  nodeBelow (.folder t.attributes t.root) location

/-- Change a folder at a location below a folder, with its attributes. -/
def changeBelow (f : Attributes → Folder → Attributes × Folder) :
    Location → Attributes → Folder → Attributes × Folder
  | [], a, inner => f a inner
  | name :: rest, a, inner =>
      match inner.find? name with
      | some (.folder b deeper) =>
          let changed := changeBelow f rest b deeper
          (a, inner.put name (.folder changed.1 changed.2))
      | _ => (a, inner)

/-- Change a folder at a location. -/
def changeFolder (t : Tree) (location : Location) (f : Attributes → Folder → Attributes × Folder) :
    Tree :=
  let changed := changeBelow f location t.attributes t.root
  { t with attributes := changed.1, root := changed.2 }

/-- Change the entries of the folder at a location, now. -/
def changeEntries (t : Tree) (location : Location) (f : Folder → Folder) : Tree :=
  t.changeFolder location fun a inner => ({ a with modified := t.clock }, f inner)

/-- Change what stands at a location, without a change to the folder around it. -/
def changeNode (t : Tree) (location : Location) (f : Node → Node) : Tree :=
  match location.getLast? with
  | none =>
      match f (.folder t.attributes t.root) with
      | .folder a root => { t with attributes := a, root := root }
      | _ => t
  | some name =>
      t.changeFolder location.dropLast fun a inner =>
        match inner.find? name with
        | some node => (a, inner.put name (f node))
        | none => (a, inner)

/-! ## Steps -/

/-- A step of a path. -/
inductive Step where
  | stay
  | up
  | down (name : Text)
  deriving DecidableEq, Repr, Inhabited

/-- The step that a name between slashes is. -/
def Step.ofName (name : Text) : Step :=
  if name = "." then .stay else if name = ".." then .up else .down name

/-- The steps of a path.  A slash at the end is a step that stays: it holds only in a
folder. -/
def steps (path : Text) : List Step :=
  let pieces := (splitAtSlashes path.toList).map Text.ofList
  let found := (pieces.filter fun (n : Text) => n != "").map Step.ofName
  if pieces.getLast? = some ("" : Text) then found ++ [.stay] else found

/-- Whether a path starts at the root. -/
def startsAtRoot (path : Text) : Bool := path.toList.head? = some (.char '/')

/-- The longest name, in bytes. -/
def nameLimit : Nat := 255

/-- The longest path, in bytes. -/
def pathLimit : Nat := 4095

/-- The most links that a path may go through. -/
def linkLimit : Nat := 40

/-- Where a path leads. -/
inductive Place where
  /-- to what stands at this location -/
  | found (location : Location) (node : Node)
  /-- to a name that this folder does not have -/
  | absent (folder : Location) (name : Text)
  deriving DecidableEq, Repr

/-- How far steps lead before the next link. -/
inductive Reached where
  | place (p : Place)
  /-- a link in this folder, with the steps that remain after it -/
  | link (folder : Location) (target : Text) (remaining : List Step)
  deriving Repr

/-- Follow steps up to the next link.  The link at the very end is followed only on
demand. -/
def advance (t : Tree) (followLast : Bool) : Location → List Step → Except Reason Reached
  | here, [] =>
      match t.at? here with
      | some node => .ok (.place (.found here node))
      | none => .error .missing
  | here, step :: rest =>
      match t.at? here with
      | some (.folder _ inner) =>
          match step with
          | .stay => advance t followLast here rest
          | .up => advance t followLast here.dropLast rest
          | .down name =>
              if nameLimit < name.byteSize then .error .nameTooLong
              else
                match inner.find? name with
                | none => if rest.isEmpty then .ok (.place (.absent here name)) else .error .missing
                | some (.link target) =>
                    if rest.isEmpty && !followLast then
                      .ok (.place (.found (here ++ [name]) (.link target)))
                    else .ok (.link here target rest)
                | some _ => advance t followLast (here ++ [name]) rest
      | some _ => .error .notFolder
      | none => .error .missing

/-- Without steps, what stands here is found. -/
theorem advance_nil (t : Tree) (followLast : Bool) (here : Location) :
    t.advance followLast here [] =
      (t.at? here).elim (.error .missing) fun node => .ok (.place (.found here node)) := by
  rw [advance]
  cases t.at? here <;> rfl

/-- Follow steps through at most `links` links. -/
def walk (t : Tree) (followLast : Bool) : (links : Nat) → Location → List Step → Except Reason Place
  | links, here, todo =>
      match advance t followLast here todo with
      | .error reason => .error reason
      | .ok (.place p) => .ok p
      | .ok (.link folder target remaining) =>
          match links with
          | 0 => .error .tooManyLinks
          | links + 1 =>
              walk t followLast links (if startsAtRoot target then [] else folder)
                (steps target ++ remaining)

/-- Where the steps of a path start. -/
def start (t : Tree) (path : Text) : Location := if startsAtRoot path then [] else t.working

/-- Follow a path.  No path leads anywhere that is empty or too long. -/
def follow (t : Tree) (followLast : Bool) (path : Text) : Except Reason Place :=
  if path = "" then .error .missing
  else if pathLimit < path.byteSize then .error .nameTooLong
  else t.walk followLast linkLimit (t.start path) (steps path)

/-- What a path leads to. -/
def lookup (t : Tree) (followLast : Bool) (path : Text) : Except Fault (Location × Node) :=
  match breach? path with
  | some b => .error (.broken b)
  | none =>
      match t.follow followLast path with
      | .error reason => refuse reason path
      | .ok (.absent _ _) => refuse .missing path
      | .ok (.found location node) => .ok (location, node)

/-- A name in a folder that is there; the name itself need not be. -/
inductive Slot where
  | entry (folder : Location) (name : Text)
  /-- the path ends in a step that is no name -/
  | unnamed
  deriving DecidableEq, Repr

/-- The slot that a path designates.  Its folder has to be there. -/
def slot (t : Tree) (path : Text) : Except Reason Slot :=
  if path = "" then .error .missing
  else if pathLimit < path.byteSize then .error .nameTooLong
  else
    let todo := steps path
    match t.walk true linkLimit (t.start path) todo.dropLast with
    | .error reason => .error reason
    | .ok (.absent _ _) => .error .missing
    | .ok (.found folder node) =>
        if !node.isFolder then .error .notFolder
        else
          match todo.getLast? with
          | some (.down name) =>
              if nameLimit < name.byteSize then .error .nameTooLong
              else .ok (.entry folder name)
          | _ => .ok .unnamed

end Tree

end GoogIndex.Storage
