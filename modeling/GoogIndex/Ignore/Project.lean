/-
  Ignore/Project.lean --- the patterns of a project.

  Normative source: SPEC_FULL §4.4, `load_ignore_patterns` and `should_ignore`.

  A project has its own ignore file, or a standard one if there is none.  On demand
  the ignore files of version control come before it: those of a folder precede those
  of the folders in it, so that deeper rules decide.
-/
import GoogIndex.Ignore.Compile
import GoogIndex.Ignore.Nested
import GoogIndex.Storage.Access

set_option autoImplicit false

namespace GoogIndex.Ignore

open GoogIndex.Storage GoogIndex.Text

/-- The name of a project's ignore file. -/
def ignoreFile : Text := ".closuredepsignore"

/-- The name of an ignore file of version control. -/
def versionIgnoreFile : Text := ".gitignore"

/-- The lines that hold for a project without an ignore file (SPEC_FULL §4.4). -/
def standardLines : List Text :=
  ["# closuredeps ignore patterns (gitignore syntax)", "node_modules/", "bower_components/",
    "dist/", "build/", "out/", "coverage/", "*.min.js", ".git/", ".hg/", ".svn/", ".idea/",
    ".vscode/"]

/-- Folders in which no ignore files of version control are looked for. -/
def skippedFolders : List Text := [".git", ".hg", ".svn", "node_modules", "bower_components"]

/-- Why the patterns of a project cannot be had. -/
inductive LoadFault where
  | unreadable (f : ReadFault)
  | pattern (f : PatternFault)
  deriving DecidableEq, Repr, Inhabited

/-- The kind of a fault in reports. -/
def LoadFault.label : LoadFault → String
  | .unreadable f => f.label
  | .pattern f => f.label

/-- The report of a fault. -/
def LoadFault.message : LoadFault → Text
  | .unreadable f => f.message
  | .pattern f => f.message

/-- How many folders the search for ignore files can go into, one inside the other. -/
def versionCalls : Nat := 987

/-- The lines of a folder's own ignore file, in terms of the root.  `names` lead from
the project to the folder. -/
def ownLines (t : Tree) (project : PathName) (names : List Text) (entries : Folder) :
    Except ReadFault (List Text) :=
  match entries.find? versionIgnoreFile with
  | none => .ok []
  | some node =>
      if t.seesFolder project (names ++ [versionIgnoreFile]) node then .ok []
      else
        match t.textOf (PathName.mk project.anchor
            (project.names ++ names ++ [versionIgnoreFile])).toText with
        | .error f => .error f
        | .ok text => .ok ((splitLines text).map fun (line : String) =>
          rerootLine line (joinSlashes names))

/-- The lines of the folders among some entries, each folder before those in it. -/
def innerLines (t : Tree) (project : PathName) :
    (names : List Text) → Folder → Except ReadFault (List Text)
  | _, .empty => .ok []
  | names, .file _ _ _ rest => innerLines t project names rest
  | names, .link name target rest =>
      if skippedFolders.contains name then innerLines t project names rest
      else if t.liesBeyond versionCalls project names name (.link target) then
        .error (.access (.broken .tooDeep))
      else innerLines t project names rest
  | names, .folder name a inner rest =>
      if skippedFolders.contains name then innerLines t project names rest
      else if t.liesBeyond versionCalls project names name (.folder a inner) then
        .error (.access (.broken .tooDeep))
      else if Tree.canBeListed project (names ++ [name]) then do
        let own ← ownLines t project (names ++ [name]) inner
        let deeper ← innerLines t project (names ++ [name]) inner
        let others ← innerLines t project names rest
        return own ++ deeper ++ others
      else innerLines t project names rest

/-- All lines of ignore files of version control in a project (SPEC_FULL §4.4,
`_load_gitignore_patterns`). -/
def versionLines (t : Tree) (project : PathName) : Except ReadFault (List Text) :=
  match t.lookup true project.toText with
  | .ok (_, .folder _ entries) => do
      let own ← ownLines t project [] entries
      let deeper ← innerLines t project [] entries
      return own ++ deeper
  | .error (.broken b) => .error (.access (.broken b))
  | _ => .ok []

/-- The lines of the project's own ignore file, or the standard ones. -/
def projectLines (t : Tree) (project : PathName) : Except ReadFault (List Text) :=
  let path := (project.child ignoreFile).toText
  match t.leadsSomewhere path with
  | .error f => .error (.access f)
  | .ok false => .ok standardLines
  | .ok true => (t.textOf path).map fun text => (splitLines text).map Text.ofString

/-- The patterns of a project (SPEC_FULL §4.4, `load_ignore_patterns`). -/
def loadSpec (t : Tree) (project : PathName) (withVersionFiles : Bool) : Except LoadFault Spec :=
  let lines : Except ReadFault (List Text) := do
    let version ← if withVersionFiles then versionLines t project else .ok []
    return version ++ (← projectLines t project)
  match lines with
  | .error f => .error (.unreadable f)
  | .ok lines =>
      match Spec.ofLines lines with
      | .error f => .error (.pattern f)
      | .ok spec => .ok spec

/-- A path as the patterns see it: relative to the project if it lies in it. -/
def relativePath (path project : PathName) : Text :=
  ((path.relativeTo? project).getD path).toText

/-- Whether a project's patterns ignore a path (SPEC_FULL §4.4, `should_ignore`). -/
def shouldIgnore (spec : Spec) (path project : PathName) : Bool :=
  spec.ignores (relativePath path project)

end GoogIndex.Ignore
