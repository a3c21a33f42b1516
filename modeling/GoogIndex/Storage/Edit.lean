/-
  Storage/Edit.lean --- edits of a tree, as a user makes them.

  The program itself only writes whole files (`Storage.AtomicWrite`).  What happens to
  a tree between two of its runs is made of these edits.
-/
import GoogIndex.Storage.Access

set_option autoImplicit false

namespace GoogIndex.Storage.Tree

open GoogIndex.Storage

/-! ## Folders -/

/-- Make a folder, unless it is there. -/
def provideFolder (t : Tree) (path : Text) : Except Fault Tree :=
  match t.makeFolder path with
  | .ok t' => .ok t'
  | .error f =>
      match t.node path with
      | .ok (.folder _ _) => .ok t
      | _ => .error f

/-- Make a folder and those on the way to it, unless they are there.  The names of its
path stand in reverse. -/
def provideFoldersFrom (anchor : Anchor) (t : Tree) : List Text → Except Fault Tree
  | [] => .ok t
  | [name] => t.provideFolder (PathName.mk anchor [name]).toText
  | name :: before => do
      let parent := (PathName.mk anchor before.reverse).toText
      let t ← if t.canBeSeen parent then .ok t else provideFoldersFrom anchor t before
      t.provideFolder (PathName.mk anchor (name :: before).reverse).toText

/-- Make a folder and those on the way to it, unless they are there. -/
def provideFolders (t : Tree) (path : Text) : Except Fault Tree :=
  let p := PathName.ofText path
  provideFoldersFrom p.anchor t p.names.reverse

/-! ## Files and links -/

/-- Write a file in place; a new one gets the usual permissions. -/
def overwrite (t : Tree) (content : List UInt8) (path : Text) : Except Fault Tree :=
  match breach? path with
  | some b => .error (.broken b)
  | none =>
      match t.follow true path with
      | .error reason => refuse reason path
      | .ok (.absent folder name) =>
          let mode := 0o666 &&& (0o7777 ^^^ t.umask)
          .ok (t.changeEntries folder fun f => f.put name (.file ⟨mode, t.clock⟩ content))
      | .ok (.found _ _) => t.setContent content path

/-- Set the modification time of what a path leads to. -/
def setModified (t : Tree) (modified : Int) (path : Text) : Except Fault Tree := do
  let (location, _) ← t.lookup true path
  return t.changeNode location
    (Node.withAttributes fun a => { a with modified := .nearest modified })

/-- Put a file with its modification time into the tree, with the folders it needs. -/
def place (t : Tree) (path : Text) (content : List UInt8) (modified : Int) (mode : Option Nat) :
    Except Fault Tree := do
  let t ← t.provideFolders (PathName.ofText path).parent.toText
  let t ← t.overwrite content path
  let t ← t.setModified modified path
  match mode with
  | some m => t.setMode m path
  | none => return t

/-- Make a link. -/
def makeLink (t : Tree) (target path : Text) : Except Fault Tree :=
  let refuseLink (reason : Reason) : Except Fault Tree :=
    .error (.refused ⟨reason, [target, path]⟩)
  match (breach? target).or (breach? path) with
  | some b => .error (.broken b)
  | none =>
      match t.slot path with
      | .error reason => refuseLink reason
      | .ok .unnamed => refuseLink .exists
      | .ok (.entry folder name) =>
          match t.at? (folder ++ [name]) with
          | some _ => refuseLink .exists
          | none => .ok (t.changeEntries folder fun f => f.put name (.link target))

/-- Take a folder away with everything in it. -/
def removeFolder (t : Tree) (path : Text) : Except Fault Tree :=
  match breach? path with
  | some b => .error (.broken b)
  | none =>
      match t.slot path with
      | .error reason => refuse reason path
      | .ok .unnamed => refuse .busy path
      | .ok (.entry folder name) =>
          match t.at? (folder ++ [name]) with
          | none => refuse .missing path
          | some (.folder _ _) => .ok (t.changeEntries folder fun f => f.erase name)
          | some _ => refuse .notFolder path

/-! ## Listings -/

/-- The paths of all entries below a folder at a location, whose own path stands in
front; folders have a slash at their end. -/
def listBelow (t : Tree) (base : Text) (here : Location) : Folder → List Text
  | .empty => []
  | .file name _ _ rest => (base ++ name) :: listBelow t base here rest
  | .link name target rest =>
      let path := base ++ name
      (if t.entryIsFolder here name (.link target) then path ++ "/" else path)
        :: listBelow t base here rest
  | .folder name _ inner rest =>
      let path := base ++ name ++ "/"
      path :: (listBelow t path (here ++ [name]) inner ++ listBelow t base here rest)

/-- Everything below the working folder, sorted. -/
def listing (t : Tree) : List Text :=
  match t.at? t.working with
  | some (.folder _ inner) =>
      (t.listBelow "" t.working inner).mergeSort fun a b => decide (a ≤ b)
  | _ => []

end GoogIndex.Storage.Tree
