/-
  Scan/Batch.lean --- records for a list of sources, through a cache.

  Normative source: SPEC_FULL §4.4, `scan_sources`.

  Each path is looked up in the cache and extracted if the cache has nothing fresh.
  A path that no longer leads to anything is missing; a path whose extraction fails
  ends the batch, or is left out on demand.  The batch takes modification times and
  extractions from functions, so it does not matter where they come from.
-/
import GoogIndex.Cache.SourceCache

set_option autoImplicit false

namespace GoogIndex.Scan

open GoogIndex.Cache GoogIndex.Storage

/-- What a batch asks about a source, at the moment when it asks. -/
structure Sight where
  modified : Text → Except Fault Int
  extract : Text → Reported (Except ExtractionFault Extraction)

/-- The sources as they stand in a tree. -/
def Sight.ofTree (t : Tree) (keepTree : Bool) : Sight :=
  ⟨t.modifiedMillis, fun path => extractFile t path keepTree⟩

/-- The result of a batch (SPEC_FULL §4.4, `ScanResult`). -/
structure Result where
  records : List Extraction
  hits : Nat
  misses : Nat
  missing : List Text
  failed : List Text
  deriving DecidableEq, Repr, Inhabited

/-- Before the first source. -/
def Result.start : Result := ⟨[], 0, 0, [], []⟩

/-- Why a batch ends early. -/
inductive BatchFault where
  | storage (f : Fault)
  | extraction (f : ExtractionFault)
  deriving DecidableEq, Repr, Inhabited

/-- The kind of a fault in reports. -/
def BatchFault.label : BatchFault → String
  | .storage f => f.label
  | .extraction f => f.label

/-- The report of a fault. -/
def BatchFault.message : BatchFault → Text
  | .storage f => f.message
  | .extraction f => f.message

/-- A batch on its way: what it has so far, and the fault that ended it. -/
structure Progress where
  cache : SourceCache
  result : Result
  events : List Event
  fault : Option BatchFault
  deriving Repr, Inhabited

namespace Progress

/-- The start of a batch with a cache. -/
def start (c : SourceCache) : Progress := ⟨c, .start, [], none⟩

/-- Whether a source with this fault counts as missing. -/
def isGone : Fault → Bool
  | .refused r => r.reason == .missing || r.reason == .notFolder
  | .broken _ => false

/-- A source is missing. -/
def miss (p : Progress) (path : Text) : Progress :=
  { p with
    cache := p.cache.remove path
    result := { p.result with missing := p.result.missing ++ [path] }
    events := p.events ++ [.sourceVanished path] }

/-- A source has a fresh record. -/
def hit (p : Progress) (r : Record) : Progress :=
  { p with
    result := { p.result with
      records := p.result.records ++ [⟨r, none⟩]
      hits := p.result.hits + 1 } }

/-- A source has been extracted. -/
def store (p : Progress) (path : Text) (e : Extraction) : Progress :=
  { p with
    cache := p.cache.set path e.record
    result := { p.result with records := p.result.records ++ [e] } }

/-- A source is left out. -/
def leaveOut (p : Progress) (path : Text) (f : ExtractionFailure) : Progress :=
  { p with
    result := { p.result with failed := p.result.failed ++ [path] }
    events := p.events ++ [.extractionSkipped f.path f.cause.message] }

/-- Extract a source for which the cache has nothing fresh. -/
def extract (skipErrors : Bool) (p : Progress) (path : Text)
    (extracted : Reported (Except ExtractionFault Extraction)) : Progress :=
  let p :=
    { p with
      result := { p.result with misses := p.result.misses + 1 }
      events := p.events ++ extracted.events }
  match extracted.outcome with
  | .ok e => p.store path e
  | .error (.failed f) =>
      if skipErrors then p.leaveOut path f
      else { p with fault := some (.extraction (.failed f)) }
  | .error f => { p with fault := some (.extraction f) }

/-- Take care of one source. -/
def visit (skipErrors : Bool) (p : Progress) (sight : Sight) (path : Text) : Progress :=
  match p.cache.get path (sight.modified path) with
  | .error f =>
      if isGone f then p.miss path else { p with fault := some (.storage f) }
  | .ok (some r, cache) => { p with cache := cache }.hit r
  | .ok (none, cache) => { p with cache := cache }.extract skipErrors path (sight.extract path)

/-- Take care of sources, each seen at its own moment, until one ends the batch. -/
def visitAll (skipErrors : Bool) : Progress → List (Text × Sight) → Progress
  | p, [] => p
  | p, (path, sight) :: rest =>
      let p := p.visit skipErrors sight path
      match p.fault with
      | some _ => p
      | none => visitAll skipErrors p rest

/-- The end of a batch is reported unless a fault came first. -/
def finish (p : Progress) : Progress :=
  match p.fault with
  | some _ => p
  | none =>
      { p with
        events := p.events ++
          [.scanComplete p.result.hits p.result.misses p.result.failed.length] }

end Progress

/-- The records of sources, each seen at its own moment. -/
def scanSeen (skipErrors : Bool) (c : SourceCache) (sources : List (Text × Sight)) : Progress :=
  ((Progress.start c).visitAll skipErrors sources).finish

/-- The records of sources that all stand in one tree (SPEC_FULL §4.4, `scan_sources`). -/
def scanSources (t : Tree) (keepTree skipErrors : Bool) (c : SourceCache) (paths : List Text) :
    Progress :=
  scanSeen skipErrors c (paths.map fun path => (path, Sight.ofTree t keepTree))

end GoogIndex.Scan
