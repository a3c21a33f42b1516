/-
  Main.lean --- the program on real storage.

  Normative source: SPEC_FULL §4.5, `main`.

  The library works on trees.  Here the part of real storage that a command reaches is
  read into a tree, and what the command has changed in the tree is written back.  A
  session does so for every request anew, because storage changes between requests.
-/
import GoogIndex.Command.Program
import GoogIndex.Command.Reach
import GoogIndex.Storage.Edit

set_option autoImplicit false

namespace GoogIndex

open GoogIndex.Command GoogIndex.Scan GoogIndex.Storage

/-! ## From storage into a tree -/

/-- A time in nanoseconds. -/
def nanoseconds (time : IO.FS.SystemTime) : Int := time.sec * 1000000000 + time.nsec.toNat

/-- A tree after an edit, if the edit was possible. -/
def Storage.Tree.accept (t : Tree) (edited : Except Storage.Fault Tree) : Tree :=
  match edited with
  | .ok edited => edited
  | .error _ => t

/-- Take in a folder or a link to a folder, and the folders and links on the way to it, as
far as they are there. -/
partial def loadFolders (t : Tree) (path : PathName) : IO Tree := do
  if path.names.isEmpty then return t
  let t ← loadFolders t path.parent
  let place := (← IO.currentDir) / path.toText.shown
  if !(← place.isDir) then return t
  let .ok found ← place.symlinkMetadata.toBaseIO | return t
  if found.type == .symlink then
    let .ok target ← (IO.FS.realPath place).toBaseIO | return t
    let t ← loadFolders t (.ofText target.toString)
    return t.accept (t.makeLink target.toString path.toText)
  else return t.accept (t.provideFolders path.toText)

/-- Take in what stands at a path; a folder with everything below it if it is to be
entered.  A link to a folder is entered only at the top.  What cannot be read is left
out. -/
partial def loadEntry (enter atTop : Bool) (t : Tree) (path : PathName) : IO Tree := do
  let place := (← IO.currentDir) / path.toText.shown
  let .ok found ← place.symlinkMetadata.toBaseIO | return t
  match found.type with
  | .file =>
      let .ok content ← (IO.FS.readBinFile place).toBaseIO | return t
      return t.accept (t.place path.toText content.toList (nanoseconds found.modified) none)
  | .symlink =>
      let .ok target ← (IO.FS.realPath place).toBaseIO | return t
      let target := PathName.ofText target.toString
      let t ← loadFolders t target.parent
      let t ← loadEntry (enter && atTop) false t target
      return t.accept (t.makeLink target.toText path.toText)
  | .dir =>
      let t := t.accept (t.provideFolders path.toText)
      if !enter then return t
      let .ok entries ← place.readDir.toBaseIO | return t
      entries.foldlM (fun t entry => loadEntry true false t (path.child entry.fileName)) t
  | .other => return t

/-- Take in what stands at a path and what leads to it. -/
def loadPath (t : Tree) (path : Text) : IO Tree := do
  let path := PathName.ofText path
  loadEntry true true (← loadFolders t path.parent) path

/-- The tree of these paths.  Its clock stands before all times of real storage. -/
def loadPaths (paths : List Text) : IO Tree := do
  let working := PathName.ofText (← IO.currentDir).toString
  let bare : Tree := ⟨⟨0o755, 0⟩, .empty, [], .nearest (-1), 0o022⟩
  let t ← loadFolders bare working
  paths.foldlM loadPath { t with working := working.names }

/-! ## From a tree into storage -/

/-- Write back the files of a folder that have changed.  They are written in place, so
that they keep their permissions. -/
partial def storeFolder (path : String) (before after : Folder) : IO Unit := do
  for (name, node) in after.entries do
    let here := path ++ "/" ++ name.shown
    match before.find? name, node with
    | some (.folder _ old), .folder _ inner => storeFolder here old inner
    | _, .folder _ inner => do
        IO.FS.createDirAll here
        storeFolder here .empty inner
    | some (.file old _), .file a content =>
        if a != old then IO.FS.writeBinFile here ⟨content.toArray⟩
    | _, .file _ content => IO.FS.writeBinFile here ⟨content.toArray⟩
    | _, .link _ => pure ()

/-- Write back what has changed in a tree. -/
def store (before after : Tree) : IO Unit := storeFolder "" before.root after.root

/-! ## Running -/

/-- Print lines at once. -/
def printLines (lines : List String) : IO Unit := do
  for line in lines do IO.println line
  (← IO.getStdout).flush

/-- Print lines for diagnosis. -/
def printErrors (lines : List String) : IO Unit := do
  for line in lines do IO.eprintln line

/-- The code that the program ends with. -/
def Command.Exit.report : Exit → IO UInt32
  | .code n => return n.toUInt32
  | .uncaught label => do
      IO.eprintln label
      return 1

/-- Answer the lines of the input until it ends, or until a line ends the session. -/
partial def answerLines (settings : Settings) (verbose : Bool) : IO UInt32 := do
  let line ← (← IO.getStdin).getLine
  if line.isEmpty then return 0
  let before ← loadPaths (reachOfRequest settings line)
  let s := (Text.inputLines line).foldl (Session.take settings) ⟨before, [], [], none⟩
  store before s.tree
  printErrors (eventLines verbose s.events)
  printLines (s.replies.map Json.write)
  match s.fault with
  | some f => (Exit.uncaught f.label).report
  | none => answerLines settings verbose

/-- Run a command line that is no session. -/
def runOnce (settings : Settings) (words : List String) : IO UInt32 := do
  let before ← loadPaths (reachOfWords settings words)
  let (after, transcript) := Command.run before settings words ""
  store before after
  printErrors transcript.errors
  printLines transcript.output
  transcript.exit.report

end GoogIndex

open GoogIndex GoogIndex.Command GoogIndex.Scan

/-- Run the program: a session, or a single command. -/
def main (words : List String) : IO UInt32 := do
  let settings : Settings :=
    ⟨← IO.getEnv Settings.cacheFileVariable, ← IO.getEnv Settings.extensionsVariable⟩
  match Options.ofWords words with
  | .ok o =>
      if o.sidecar then
        printLines [readyReply.write]
        answerLines settings o.verbose
      else runOnce settings words
  | .error _ => runOnce settings words
