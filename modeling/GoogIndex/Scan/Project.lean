/-
  Scan/Project.lean --- a scan of a whole project.

  Normative source: SPEC_FULL §4.4, `scan_project`.

  The sources below a root are found, looked up in the project's cache or extracted,
  and the cache is written back.  Failing to write it is part of the report; every
  other fault ends the scan.
-/
import GoogIndex.Scan.Batch
import GoogIndex.Scan.Discovery

set_option autoImplicit false

namespace GoogIndex.Scan

open GoogIndex.Cache GoogIndex.Ignore GoogIndex.Storage GoogIndex.Text

/-- What a scan is asked for. -/
structure Request where
  root : Text
  cacheFile : Option Text
  withVersionFiles : Bool
  skipErrors : Bool
  deriving DecidableEq, Repr, Inhabited

/-- The report of a scan (SPEC_FULL §4.4). -/
structure Report where
  root : Text
  cacheFile : Text
  result : Result
  saveError : Option Refusal
  deriving Repr, Inhabited

/-- A report as a value. -/
def Report.toJson (r : Report) : Json :=
  .obj [("root", .str r.root), ("cache_file", .str r.cacheFile),
    ("files", .arr (r.result.records.map fun e => e.record.toJson)),
    ("cache_hits", .int r.result.hits), ("cache_misses", .int r.result.misses),
    ("missing", .texts r.result.missing), ("failed", .texts r.result.failed),
    ("save_error", .textOrNull (r.saveError.map fun refusal => refusal.message))]

/-- Why a scan has no report. -/
inductive ProjectFault where
  /-- the root lies behind a link that leads back to itself -/
  | linkLoop (path : Text)
  /-- the root, as it was given, is no folder -/
  | notFound (root : Text)
  | storage (f : Fault)
  | ignoreFiles (f : Ignore.LoadFault)
  | batch (f : BatchFault)
  deriving DecidableEq, Repr, Inhabited

/-- The kind of a fault in reports. -/
def ProjectFault.label : ProjectFault → String
  | .linkLoop _ => "RuntimeError"
  | .notFound _ => "FileNotFoundError"
  | .storage f => f.label
  | .ignoreFiles f => f.label
  | .batch f => f.label

/-- The report of a fault. -/
def ProjectFault.message : ProjectFault → Text
  | .linkLoop path => "Symlink loop from " ++ quoted path
  | .notFound root => "Project directory not found: " ++ root
  | .storage f => f.message
  | .ignoreFiles f => f.message
  | .batch f => f.message

/-- A tree after an operation, its outcome, and what was reported. -/
structure Ran (α : Type) where
  tree : Tree
  outcome : α
  events : List Event
  deriving Repr, Inhabited

/-- What keeps a root from being resolved: the first of its names that no path may have is
looked up behind those before it.  If these lead into a link that leads back to itself, the
root is taken by name, and looked up as a whole. -/
def rootBreach? (t : Tree) (root : PathName) : Option Breach :=
  let sound := root.names.takeWhile fun name => (breach? name).isNone
  match root.names.drop sound.length with
  | [] => none
  | name :: _ =>
      match t.realPath (PathName.mk root.anchor sound).toText with
      | .resolved _ => breach? (PathName.mk root.anchor (sound ++ [name])).toText
      | .looping _ => breach? (PathName.mk .root (t.realPath root.toText).location).toText

/-- The real path of a root. -/
def resolveRoot (t : Tree) (root : Text) : Except ProjectFault PathName :=
  let given := PathName.ofText root
  match rootBreach? t given with
  | some b => .error (.storage (.broken b))
  | none =>
      let path : PathName := ⟨.root, (t.realPath given.toText).location⟩
      match t.node path.toText with
      | .error (.refused ⟨.tooManyLinks, _⟩) => .error (.linkLoop path.toText)
      | _ => .ok path

/-- The root of a scan, which has to be a folder. -/
def openRoot (t : Tree) (root : Text) : Except ProjectFault PathName := do
  let path ← resolveRoot t root
  match t.isFolder path.toText with
  | .error f => .error (.storage f)
  | .ok false => .error (.notFound root)
  | .ok true => .ok path

/-- Write the cache back, and report. -/
def conclude (t : Tree) (root : PathName) (cacheFile : Text) (p : Progress) :
    Ran (Except ProjectFault Report) :=
  let saved := p.cache.save .never t false
  let events := p.events ++ saved.events
  match saved.outcome with
  | .written => ⟨saved.tree, .ok ⟨root.toText, cacheFile, p.result, none⟩, events⟩
  | .refused r => ⟨saved.tree, .ok ⟨root.toText, cacheFile, p.result, some r⟩, events⟩
  | .broken f => ⟨saved.tree, .error (.storage f), events⟩

/-- Scan a project (SPEC_FULL §4.4, `scan_project`). -/
def scanProject (t : Tree) (settings : Settings) (request : Request) :
    Ran (Except ProjectFault Report) :=
  match openRoot t request.root with
  | .error f => ⟨t, .error f, []⟩
  | .ok root =>
      let cacheFile := settings.cachePath root request.cacheFile
      let loaded := SourceCache.load t cacheFile
      match discoverSources t root settings.extensionList request.withVersionFiles with
      | .error f => ⟨t, .error (.ignoreFiles f), loaded.events⟩
      | .ok paths =>
          let p := scanSources t false request.skipErrors loaded.outcome
            (paths.map PathName.toText)
          match p.fault with
          | some f => ⟨t, .error (.batch f), loaded.events ++ p.events⟩
          | none =>
              let done := conclude t root cacheFile p
              { done with events := loaded.events ++ done.events }

end GoogIndex.Scan
