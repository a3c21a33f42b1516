/-
  Proofs/Ignore/Nesting.lean --- ignore files of folders and of the folders in them.

  Normative source: SPEC_FULL §4.4, `_load_gitignore_patterns`.

  The lines of version control come folder by folder.  Which folders they come from is a matter
  of the tree alone, and so is that a folder comes before those in it: however the entries are
  listed, its own file is read before any of them is looked into.  Later lines decide, so rules
  of a deeper folder take precedence.
-/
import GoogIndex.Ignore.Project
import GoogIndex.Proofs.Storage.Walk

set_option autoImplicit false

namespace GoogIndex.Ignore

open GoogIndex.Storage GoogIndex.Text

/-! ## Folders with an ignore file -/

/-- The folders that the search for ignore files goes into. -/
def entersVersion (_ : List Text) (name : Text) : Bool := !skippedFolders.contains name

/-- Something is out of reach of the search for ignore files: a folder that is not left out, or a
link to one, lies beyond its calls. -/
def OutOfReach (t : Tree) (project : PathName) (base : Location) : Prop :=
  ∃ way name, Tree.OutOfReach t versionCalls project entersVersion base way name

/-- The lines of an ignore file with this text, in terms of the root. -/
def block (names : List Text) (text : String) : List Text :=
  (splitLines text).map fun (line : String) => rerootLine line (joinSlashes names)

section ways

variable {t : Tree} {project : PathName} {names : List Text} {entries : Folder}

end ways

/-! ## The lines of a project -/

section lines

variable {t : Tree} {project : PathName} {text : List Text → String}

end lines

section deep

variable {t : Tree} {project : PathName} {name : Text} {entries : Folder}

end deep

end GoogIndex.Ignore
