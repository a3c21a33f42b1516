/-
  Scan/Discovery.lean --- the sources below a root.

  Normative source: SPEC_FULL §4.4, `iter_source_files`.

  A source is an entry that is no folder and has one of the extensions.  Ignored
  folders are not entered, and neither are folders that are only linked to.  The
  sources of a folder come before those in its folders, both sorted by name.
-/
import GoogIndex.Ignore.Project
import GoogIndex.Scan.Settings

set_option autoImplicit false

namespace GoogIndex.Scan

open GoogIndex.Ignore GoogIndex.Storage GoogIndex.Text

/-- What decides about entries: the extensions of sources, and which relative paths are
ignored; the path of a folder has a slash at its end. -/
structure Filter where
  extensions : List Text
  ignores : Text → Bool

/-- The relative path that names lead along. -/
def relativeText (names : List Text) : Text := joinSlashes names

/-- Whether a name has one of the extensions. -/
def Filter.hasExtension (f : Filter) (name : Text) : Bool :=
  f.extensions.contains (lower (suffixOf name))

/-- Whether the entry that names lead to is a source, given that it is no folder. -/
def Filter.keepsFile (f : Filter) (names : List Text) (name : Text) : Bool :=
  f.hasExtension name && !f.ignores (relativeText (names ++ [name]))

/-- Whether the folder that names lead to is entered. -/
def Filter.entersFolder (f : Filter) (names : List Text) (name : Text) : Bool :=
  !f.ignores (relativeText (names ++ [name]) ++ "/")

/-- What was found among some entries: the names of sources, and the sources of each
folder among them under the folder's name. -/
structure Found where
  files : List Text
  folders : List (Text × List (List Text))
  deriving Repr, Inhabited

/-- Entries are sorted by name. -/
def sortNames (names : List Text) : List Text := names.mergeSort fun a b => decide (a ≤ b)

/-- Folders are sorted by name. -/
def sortFolders (folders : List (Text × List (List Text))) :
    List (Text × List (List Text)) := folders.mergeSort fun a b => decide (a.1 ≤ b.1)

/-- The sources of a folder, in order, as the names that lead to them. -/
def Found.ordered (names : List Text) (f : Found) : List (List Text) :=
  (sortNames f.files).map (fun name => names ++ [name]) ++
    (sortFolders f.folders).flatMap (·.2)

/-- Look through the entries of the folder to which `names` lead from the root. -/
def findAmong (t : Tree) (filter : Filter) (root : PathName) :
    (names : List Text) → Folder → Found
  | _, .empty => ⟨[], []⟩
  | names, .file name _ _ rest =>
      let others := findAmong t filter root names rest
      if filter.keepsFile names name then { others with files := name :: others.files } else others
  | names, .link name target rest =>
      let others := findAmong t filter root names rest
      if !t.seesFolder root (names ++ [name]) (.link target) && filter.keepsFile names name then
        { others with files := name :: others.files }
      else others
  | names, .folder name _ inner rest =>
      let others := findAmong t filter root names rest
      if filter.entersFolder names name && Tree.canBeListed root (names ++ [name]) then
        let inside := (findAmong t filter root (names ++ [name]) inner).ordered (names ++ [name])
        { others with folders := (name, inside) :: others.folders }
      else others

/-- The sources below a root, in order, as the names that lead to them from there.  A
root that is no folder has none. -/
def sourceNames (t : Tree) (filter : Filter) (root : PathName) : List (List Text) :=
  match t.lookup true root.toText with
  | .ok (_, .folder _ entries) => (findAmong t filter root [] entries).ordered []
  | _ => []

/-- How many folders a search can go into, one inside the other. -/
def searchCalls : Nat := 989

/-- Whether there is a folder to enter beyond the calls of a search. -/
def goesBeyond (t : Tree) (filter : Filter) (root : PathName) : Bool :=
  match t.lookup true root.toText with
  | .ok (_, .folder _ entries) => t.walksBeyond searchCalls root filter.entersFolder [] entries
  | _ => false

/-- The paths of the sources below a root, in order. -/
def discover (t : Tree) (filter : Filter) (root : PathName) : List PathName :=
  (sourceNames t filter root).map fun names => ⟨root.anchor, root.names ++ names⟩

/-- Search for the sources below a root.  What ends a search is a root that is no path, or a
folder beyond its calls. -/
def search (t : Tree) (filter : Filter) (root : PathName) : Except Breach (List PathName) :=
  match breach? root.toText with
  | some b => .error b
  | none => if goesBeyond t filter root then .error .tooDeep else .ok (discover t filter root)

/-- The sources of a project that its ignore files leave (SPEC_FULL §4.4, `iter_source_files`). -/
def discoverSources (t : Tree) (root : PathName) (extensions : List Text)
    (withVersionFiles : Bool) : Except LoadFault (List PathName) := do
  let spec ← loadSpec t root withVersionFiles
  (search t ⟨extensions, spec.ignores⟩ root).mapError fun b => .unreadable (.access (.broken b))

end GoogIndex.Scan
