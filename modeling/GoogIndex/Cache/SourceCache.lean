/-
  Cache/SourceCache.lean --- records of sources, trusted while the files are unchanged.

  Normative source: SPEC_FULL §4.2, `SourceCache`.

  Records and the times they are valid for stand in two tables.  Only loading a cache
  file gives a record a time; one that is stored later has none before it was saved
  and loaded again, so it is never taken for fresh.
-/
import GoogIndex.Cache.Entry
import GoogIndex.Cache.Table
import GoogIndex.Declaration.Extraction
import GoogIndex.Json.Reader
import GoogIndex.Storage.AtomicWrite

set_option autoImplicit false

namespace GoogIndex.Cache

open GoogIndex.Storage

/-- A cache of records, and the file behind it (SPEC_FULL §3). -/
structure SourceCache where
  file : Text
  sources : Table Record
  stamps : Table Stamp
  deriving DecidableEq, Repr, Inhabited

namespace SourceCache

/-- A cache without records. -/
def empty (file : Text) : SourceCache := ⟨file, .empty, .empty⟩

/-! ## Lookup and change -/

/-- Forget a path (SPEC_FULL §4.2, `remove_source`). -/
def remove (c : SourceCache) (path : Text) : SourceCache :=
  { c with sources := c.sources.erase path, stamps := c.stamps.erase path }

/-- Store a record; it gets no time (SPEC_FULL §4.2, `set_source`). -/
def set (c : SourceCache) (path : Text) (r : Record) : SourceCache :=
  { c with sources := c.sources.put path r }

/-- Whether the record of a path is valid for a modification time. -/
def isFresh (c : SourceCache) (path : Text) (modified : Int) : Bool :=
  ((c.stamps.get? path).map fun s => s.isMillis modified).getD false

/-- The record of a path if its file is unchanged.  `modified` is the file's present modification
time, which is asked for only if there is a record; a fault in it is passed on.  A record that is
out of date is forgotten (SPEC_FULL §4.2, `get_source`). -/
def get (c : SourceCache) (path : Text) (modified : Except Fault Int) :
    Except Fault (Option Record × SourceCache) :=
  match c.sources.get? path with
  | none => .ok (none, c)
  | some r =>
      match modified with
      | .error f => .error f
      | .ok time => if c.isFresh path time then .ok (some r, c) else .ok (none, c.remove path)

/-! ## Loading -/

/-- Take an entry in if it is valid. -/
def addEntry (c : SourceCache) (path : Text) (value : Json) : SourceCache :=
  match Entry.ofJson? value with
  | none => c
  | some e =>
      { c with sources := c.sources.put path (e.record path), stamps := c.stamps.put path e.stamp }

/-- Take the members of an object in, as far as they are valid entries. -/
def addEntries (c : SourceCache) (members : List (Text × Json)) : SourceCache :=
  members.foldl (fun c m => c.addEntry m.1 m.2) c

/-- How many members are no valid entries. -/
def skippedCount (members : List (Text × Json)) : Nat :=
  members.countP fun m => (Entry.ofJson? m.2).isNone

/-- Why a cache file is of no use. -/
inductive LoadFault where
  | unreadable (f : ReadFault)
  | malformed (f : Json.Fault)
  deriving DecidableEq, Repr, Inhabited

/-- The kind of a fault in reports. -/
def LoadFault.label : LoadFault → String
  | .unreadable f => f.label
  | .malformed f => f.label

/-- The most containers that may be open at once where a cache file is read. -/
def depthLimit : Nat := 984

/-- The value in a cache file. -/
def readValue (t : Tree) (file : Text) : Except LoadFault Json :=
  match t.textOf file with
  | .error f => .error (.unreadable f)
  | .ok text => (Json.read depthLimit text).mapError .malformed

/-- The cache of a file.  A file that is not there, or of no use, makes an empty cache (SPEC_FULL
§4.2, `_load`). -/
def load (t : Tree) (file : Text) : Reported SourceCache :=
  if !t.canBeSeen file then ⟨empty file, []⟩
  else
    match readValue t file with
    | .error f => ⟨empty file, [.loadFailure file f.label]⟩
    | .ok (.obj members) =>
        let skipped := skippedCount members
        ⟨(empty file).addEntries members,
          if skipped = 0 then [] else [.skippedEntries file skipped]⟩
    | .ok _ => ⟨empty file, []⟩

/-! ## Saving -/

/-- The entries to save, each with the present modification time of its file.  A file
whose time storage refuses to tell is left out. -/
def snapshotRows (modified : Text → Except Fault Int) :
    List (Text × Record) → Except Fault (List (Text × Json))
  | [] => .ok []
  | (path, r) :: rest =>
      match modified path with
      | .ok time => do return (path, r.toEntry time) :: (← snapshotRows modified rest)
      | .error (.refused _) => snapshotRows modified rest
      | .error f => .error f

/-- The saved form of a cache (SPEC_FULL §4.2, `snapshot`). -/
def snapshot (c : SourceCache) (modified : Text → Except Fault Int) :
    Except Fault (List (Text × Json)) := snapshotRows modified c.sources.rows

/-- A tree after saving, how that ended, and what was reported. -/
structure Saved where
  tree : Tree
  outcome : WriteOutcome
  events : List Event
  deriving Repr, Inhabited

/-- Write the cache to its file.  A refusal is reported as an event unless the caller takes care
of it (SPEC_FULL §4.2, `save`). -/
def save (interrupt : Interruption) (t : Tree) (c : SourceCache) (handled : Bool) : Saved :=
  match c.snapshot t.modifiedMillis with
  | .error f => ⟨t, .broken f, []⟩
  | .ok entries =>
      let w := t.writeFile interrupt (Json.obj entries).write c.file
      match w.outcome with
      | .refused r => ⟨w.tree, w.outcome, if handled then [] else [.saveFailure c.file r.message]⟩
      | outcome => ⟨w.tree, outcome, []⟩

end SourceCache

end GoogIndex.Cache
