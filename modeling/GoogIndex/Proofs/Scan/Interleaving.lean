/-
  Proofs/Scan/Interleaving.lean --- edits between the steps of one scan.

  Normative source: SPEC_FULL §4.2, the time that `save` records; §11.

  A scan asks storage many times: for the time of a source, for its text, for its time
  again when the cache is saved.  Edits may come between any two of these steps.  So each
  step sees a tree of its own, and a scan among edits is a choice of these trees.  What is
  saved for a source is the record that extraction gave when the scan came by, with the
  time that the source has when it is saved.  An edit between the two pairs the record of
  the old text with the time of the new one.
-/
import Mathlib.Data.List.Nodup
import GoogIndex.Proofs.Scan.History
import GoogIndex.Proofs.Scan.Selection
import GoogIndex.Proofs.Scan.Settled

set_option autoImplicit false

namespace GoogIndex.Scan

open GoogIndex.Cache GoogIndex.Storage

/-! ## A scan among edits -/

/-- A source of a scan, with the tree at the lookup and the tree at the extraction. -/
structure Encounter where
  path : Text
  looked : Tree
  read : Tree
  deriving Repr, Inhabited

namespace Encounter

/-- What the batch sees of the source. -/
def sight (e : Encounter) : Sight :=
  ⟨e.looked.modifiedMillis, fun path => extractFile e.read path false⟩

/-- The tree that the source's record comes from: a lookup that is answered vouches for the
tree that it sees, one in vain is followed by an extraction, and one that fails gives no
record. -/
def moment (e : Encounter) (c : SourceCache) : Option Tree :=
  match (c.get e.path (e.looked.modifiedMillis e.path)).map (·.1) with
  | .ok (some _) => some e.looked
  | .ok none => some e.read
  | .error _ => none

/-- The record that the batch takes for the source. -/
def taken (e : Encounter) (c : SourceCache) : Option Record :=
  (e.moment c).bind fun t => recordOf t e.path

end Encounter

/-- A save that asks for the times of the paths at one moment or another, and writes the file
at yet another: the tree with the saved cache, if that ends well. -/
def saveWith (time : Text → Except Fault Int) (written : Tree) (c : SourceCache) : Option Tree :=
  match c.snapshot time with
  | .error _ => none
  | .ok entries =>
      let w := written.writeFile .never (Json.obj entries).write c.file
      match w.outcome with
      | .written => some w.tree
      | _ => none

/-- The trees that the steps of a scan see: when the cache file is loaded, at each source in
turn, when the time to save with a path is asked for, and when the cache file is written. -/
structure Schedule where
  opened : Tree
  encounters : List Encounter
  stamped : Text → Tree
  written : Tree
  deriving Inhabited

namespace Schedule

/-- The cache that the scan starts with. -/
def loaded (s : Schedule) (file : Text) : SourceCache := (SourceCache.load s.opened file).outcome

/-- The batch of the scan. -/
def progress (s : Schedule) (file : Text) (skipErrors : Bool) : Progress :=
  scanSeen skipErrors (s.loaded file) (s.encounters.map fun e => (e.path, e.sight))

/-- The times that are saved. -/
def time (s : Schedule) (path : Text) : Except Fault Int := (s.stamped path).modifiedMillis path

/-- The tree with the saved cache, if the batch comes to its end and the save ends well. -/
def leaves (s : Schedule) (file : Text) (skipErrors : Bool) : Option Tree :=
  match (s.progress file skipErrors).fault with
  | some _ => none
  | none => saveWith s.time s.written (s.progress file skipErrors).cache

/-- The record that the scan takes for a path, or leaves as it was loaded. -/
def taken (s : Schedule) (file path : Text) : Option Record :=
  match s.encounters.find? fun e => e.path == path with
  | some e => e.taken (s.loaded file)
  | none => (s.loaded file).sources.get? path

/-- No edit comes in between. -/
def still (t : Tree) (paths : List Text) : Schedule :=
  ⟨t, paths.map fun path => ⟨path, t, t⟩, fun _ => t, t⟩

end Schedule

/-- A path has the same text in two trees if it has the same time in them. -/
def TimeTells (t t' : Tree) (path : Text) : Prop :=
  ∀ time, t.modifiedMillis path = .ok time → t'.modifiedMillis path = .ok time →
    textFor t path = textFor t' path

/-! ## What the batch takes -/

section taken

variable {e : Encounter} {c c' : SourceCache} {p : Progress} {skipErrors : Bool}

theorem SameFor.taken (h : SameFor c c' e.path) : e.taken c' = e.taken c := by
  unfold Encounter.taken Encounter.moment
  rw [h.answer]

/-- A visit leaves in the cache what it takes, if it does not end the batch and the cache is
accurate when it is asked. -/
theorem kept_visit (hacc : Accurate e.looked p.cache e.path)
    (h : (p.visit skipErrors e.sight e.path).fault = none) :
    (p.visit skipErrors e.sight e.path).cache.sources.get? e.path = e.taken p.cache := by
  unfold Progress.visit at h ⊢
  unfold Encounter.taken Encounter.moment
  simp only [Encounter.sight] at h ⊢
  rcases p.cache.get_cases e.path (e.looked.modifiedMillis e.path) with
    ⟨hr, hg⟩ | ⟨r, f, _, _, hg⟩ | ⟨r, time, hr, hm, hfresh, hg⟩ | ⟨r, time, _, _, _, hg⟩
  · rw [hg]
    exact kept_extract e.read hr
  · rw [hg] at h ⊢
    simp only at h ⊢
    split at h
    · rename_i hgone
      rw [if_pos hgone]
      exact SourceCache.get?_sources_remove_self p.cache e.path
    · cases h
  · rw [hg]
    exact hr.trans (hacc r time hr hm hfresh).symm
  · rw [hg]
    exact kept_extract e.read (SourceCache.get?_sources_remove_self p.cache e.path)

/-- A batch that comes to its end leaves in the cache what it takes for each of its sources. -/
theorem kept_visitAll {encounters : List Encounter}
    (hdistinct : (encounters.map Encounter.path).Nodup)
    (h : (p.visitAll skipErrors (encounters.map fun e => (e.path, e.sight))).fault = none)
    (he : e ∈ encounters) (hacc : Accurate e.looked p.cache e.path) :
    (p.visitAll skipErrors (encounters.map fun e => (e.path, e.sight))).cache.sources.get? e.path =
      e.taken p.cache := by
  induction encounters generalizing p with
  | nil => cases he
  | cons first rest ih =>
      obtain ⟨hnot, hdistinct⟩ := List.nodup_cons.mp hdistinct
      rw [List.map_cons, Progress.visitAll] at h ⊢
      cases hfault : (p.visit skipErrors first.sight first.path).fault with
      | some f =>
          simp only [hfault] at h
          cases h
      | none =>
          simp only [hfault] at h ⊢
          rcases List.mem_cons.mp he with rfl | he
          · -- the sources after it are others
            have hrest : e.path ∉ (rest.map fun e => (e.path, e.sight)).map (·.1) := by
              rwa [List.map_map]
            exact (sameFor_visitAll skipErrors _ _ hrest).1.trans (kept_visit hacc hfault)
          · have hne : e.path ≠ first.path := fun heq => hnot (heq ▸ List.mem_map_of_mem he)
            have hsame := sameFor_visit skipErrors p first.sight hne
            exact (ih hdistinct h he (hsame.accurate hacc)).trans hsame.taken

end taken

/-! ## What is saved -/

/-- Everything that a save has done. -/
theorem written_of_saveWith {time : Text → Except Fault Int} {t after : Tree} {c : SourceCache}
    (h : saveWith time t c = some after) :
    let w := t.writeFile .never
      (Json.obj ((liveRows time c.sources.rows).map LiveRow.member)).write c.file
    w.outcome = .written ∧ after = w.tree := by
  unfold saveWith at h
  cases hs : c.snapshot time with
  | error f =>
      rw [hs] at h
      cases h
  | ok entries =>
      simp only [hs] at h
      rw [SourceCache.snapshotRows_eq hs] at h
      split at h
      · rename_i hwritten
        exact ⟨hwritten, (Option.some.inj h).symm⟩
      · cases h

/-- A save that sees one tree all the time. -/
theorem saveWith_of_save {t : Tree} {c : SourceCache}
    (h : (c.save .never t false).outcome = .written) :
    saveWith t.modifiedMillis t c = some (c.save .never t false).tree := by
  unfold SourceCache.save at h ⊢
  unfold saveWith
  cases hs : c.snapshot t.modifiedMillis with
  | error f =>
      rw [hs] at h
      cases h
  | ok entries =>
      simp only [hs] at h ⊢
      cases ho : (t.writeFile .never (Json.obj entries).write c.file).outcome with
      | written => rfl
      | refused r =>
          rw [ho] at h
          cases h
      | broken f =>
          rw [ho] at h
          cases h

namespace Schedule

variable {s : Schedule} {file path : Text} {skipErrors : Bool} {after t : Tree}

/-- The cache of the batch is one that calls on the loaded cache lead to. -/
theorem cache_progress (s : Schedule) (file : Text) (skipErrors : Bool) :
    (s.progress file skipErrors).cache = (s.loaded file).afterAll
      [.batch skipErrors (s.encounters.map fun e => (e.path, e.sight))] := rfl

theorem keyed_progress (s : Schedule) (file : Text) (skipErrors : Bool) :
    (s.progress file skipErrors).cache.Keyed :=
  cache_progress s file skipErrors ▸ SourceCache.keyed_afterAll s.opened file _

theorem legible_progress (s : Schedule) (file : Text) (skipErrors : Bool) :
    (s.progress file skipErrors).cache.Legible := by
  refine legible_scanSeen (SourceCache.legible_load s.opened file) fun source hsource e he => ?_
  obtain ⟨encounter, _, rfl⟩ := List.mem_map.mp hsource
  exact legible_of_extractFile he

theorem file_progress (s : Schedule) (file : Text) (skipErrors : Bool) :
    (s.progress file skipErrors).cache.file = file :=
  cache_progress s file skipErrors ▸ SourceCache.file_afterAll s.opened file _

/-- What is taken for a source is what is taken when the scan comes across it. -/
theorem taken_of_mem (file : Text) (hdistinct : (s.encounters.map Encounter.path).Nodup)
    {e : Encounter} (he : e ∈ s.encounters) : s.taken file e.path = e.taken (s.loaded file) := by
  unfold taken
  cases hfind : s.encounters.find? fun e' => e'.path == e.path with
  | some e' =>
      have hpath : e'.path = e.path := by simpa using List.find?_some hfind
      rw [List.inj_on_of_nodup_map hdistinct (List.mem_of_find?_eq_some hfind) he hpath]
  | none => simpa using List.find?_eq_none.mp hfind e he

/-- A path that is no source keeps what was loaded for it. -/
theorem taken_of_not_mem (file : Text) (h : path ∉ s.encounters.map Encounter.path) :
    s.taken file path = (s.loaded file).sources.get? path := by
  unfold taken
  cases hfind : s.encounters.find? fun e => e.path == path with
  | some e =>
      have hpath : e.path = path := by simpa using List.find?_some hfind
      exact absurd (hpath ▸ List.mem_map_of_mem (List.mem_of_find?_eq_some hfind)) h
  | none => rfl

/-- What the batch has for a path in the end is what the scan takes for it. -/
theorem kept_progress (hdistinct : (s.encounters.map Encounter.path).Nodup)
    (h : (s.progress file skipErrors).fault = none)
    (hlooked : ∀ e ∈ s.encounters, e.path = path → Accurate e.looked (s.loaded file) path) :
    (s.progress file skipErrors).cache.sources.get? path = s.taken file path := by
  unfold progress scanSeen at h ⊢
  rw [Progress.cache_finish]
  rw [Progress.fault_finish] at h
  by_cases hmem : path ∈ s.encounters.map Encounter.path
  · obtain ⟨e, he, rfl⟩ := List.mem_map.mp hmem
    rw [taken_of_mem file hdistinct he]
    exact kept_visitAll hdistinct h he (hlooked e he rfl)
  · rw [taken_of_not_mem file hmem]
    have hnot : path ∉ (s.encounters.map fun e => (e.path, e.sight)).map (·.1) := by
      rwa [List.map_map]
    exact (sameFor_visitAll skipErrors (.start (s.loaded file)) _ hnot).1

/-- Everything that a scan with a saved cache has done. -/
theorem saved_of_leaves (h : s.leaves file skipErrors = some after) :
    (s.progress file skipErrors).fault = none ∧
      let rows := liveRows s.time (s.progress file skipErrors).cache.sources.rows
      let w := s.written.writeFile .never (Json.obj (rows.map LiveRow.member)).write file
      w.outcome = .written ∧ after = w.tree := by
  unfold leaves at h
  cases hfault : (s.progress file skipErrors).fault with
  | some f =>
      rw [hfault] at h
      cases h
  | none =>
      rw [hfault] at h
      have hsaved := written_of_saveWith h
      rw [file_progress] at hsaved
      exact ⟨rfl, hsaved⟩

/-- The saved cache, loaded from what the file holds, has the rows of the batch with the times
that were saved. -/
theorem load_of_leaves (h : s.leaves file skipErrors = some after) {bytes : List UInt8}
    (hbytes : after.bytesOf file = .ok bytes) (hkept : t.bytesOf file = .ok bytes) :
    (SourceCache.load t file).outcome = .ofLive file
      (liveRows s.time (s.progress file skipErrors).cache.sources.rows) := by
  obtain ⟨_, hwritten, rfl⟩ := saved_of_leaves h
  have hkeyed := keyed_progress s file skipErrors
  obtain ⟨folder, name, hslot, _, hreplaced⟩ := Tree.replaced_of_written hwritten
  rw [hreplaced.eq_content hslot hbytes] at hkept
  have hread := SourceCache.read_liveRows hkeyed (fun path _ htime => ⟨s.stamped path, htime⟩)
    ((legible_progress s file skipErrors).live s.time)
  exact congrArg Reported.outcome (SourceCache.load_of_readValue
    (Tree.canBeSeen_of_bytesOf hkept) (hkeyed.sublist (SourceCache.paths_liveRows s.time _))
    (SourceCache.readValue_of_bytesOf hread hkept))

/-- A record that is taken for a path has that path. -/
theorem path_of_taken (hdistinct : (s.encounters.map Encounter.path).Nodup) {r : Record}
    (h : s.taken file path = some r) : r.path = path := by
  by_cases hmem : path ∈ s.encounters.map Encounter.path
  · obtain ⟨e, he, rfl⟩ := List.mem_map.mp hmem
    rw [taken_of_mem file hdistinct he] at h
    obtain ⟨_, _, hrecord⟩ := Option.bind_eq_some_iff.mp h
    exact path_of_recordOf hrecord
  · rw [taken_of_not_mem file hmem] at h
    exact SourceCache.path_of_load h

/-- The saved cache holds for a path what the scan took for it, with the time that was saved. -/
theorem entry_of_leaves (hdistinct : (s.encounters.map Encounter.path).Nodup)
    (h : s.leaves file skipErrors = some after) {bytes : List UInt8}
    (hbytes : after.bytesOf file = .ok bytes) (hkept : t.bytesOf file = .ok bytes)
    (hlooked : ∀ e ∈ s.encounters, e.path = path → Accurate e.looked (s.loaded file) path) :
    let again := (SourceCache.load t file).outcome
    again.sources.get? path = ((s.time path).toOption.bind fun _ => s.taken file path) ∧
      again.stamps.get? path = (s.time path).toOption.bind fun time =>
        (s.taken file path).map fun _ => .whole time := by
  intro again
  have htaken : Table.find path (s.progress file skipErrors).cache.sources.rows =
      s.taken file path := kept_progress hdistinct (saved_of_leaves h).1 hlooked
  have hpath : (s.taken file path).map (fun r => { r with path := path }) = s.taken file path := by
    cases hr : s.taken file path with
    | none => rfl
    | some r => rw [Option.map_some, ← path_of_taken hdistinct hr]
  have hload : again = _ := load_of_leaves h hbytes hkept
  rw [hload, SourceCache.get?_sources_ofLive, SourceCache.get?_stamps_ofLive, htaken, hpath]
  exact ⟨rfl, rfl⟩

section still

variable {settings : Settings} {request : Request} {root : PathName} {paths : List PathName}
  {report : Report}

/-- A scan comes across each of its sources once. -/
theorem distinct_still (ht : t.WellFormed)
    (h : Reports t settings request root file paths report) :
    ((still t (paths.map PathName.toText)).encounters.map Encounter.path).Nodup := by
  simpa [still, Function.comp_def] using
    nodup_discoverSources ht (legal_of_openRoot ht h.opened) h.found

/-- A scan with a saved cache is one whose steps all see the same tree. -/
theorem leaves_still (h : Reports t settings request root file paths report)
    (hsaved : report.saveError = none) :
    (still t (paths.map PathName.toText)).leaves file request.skipErrors =
      some (scanProject t settings request).tree := by
  have hprogress : (still t (paths.map PathName.toText)).progress file request.skipErrors =
      batchOf t request file paths := by
    simp only [progress, still, loaded, batchOf, scanSources, List.map_map]
    rfl
  rw [leaves, hprogress, h.noFault, h.tree]
  exact saveWith_of_save (h.written hsaved)

end still

/-! ## What holds afterwards -/

/-- A scan asks for the time of a path in this tree, for a lookup or for the save. -/
def Asks (s : Schedule) (path : Text) (u : Tree) : Prop :=
  (∃ e ∈ s.encounters, e.path = path ∧ e.looked = u) ∨ s.stamped path = u

/-- Each edit gives a path a time of its own: a time stands for one text of the path from the
start of the scan until its time is saved, and from then on, and the time of the path's loaded
entry is none of the new ones; otherwise an entry that is out of date would become fresh. -/
structure Timed (s : Schedule) (file path : Text) (t : Tree) : Prop where
  before : ∀ u, s.Asks path u → TimeTells s.opened u path
  afterwards : TimeTells (s.stamped path) t path
  unused : ∀ u, s.Asks path u → ∀ time, u.modifiedMillis path = .ok time →
    (s.loaded file).isFresh path time = true → s.opened.modifiedMillis path = .ok time

/-- A cache that is accurate at the start is accurate whenever the scan asks for a time. -/
theorem accurate_of_asks (hstart : Accurate s.opened (s.loaded file) path)
    (htimed : s.Timed file path t) {u : Tree} (hu : s.Asks path u) :
    Accurate u (s.loaded file) path := by
  intro r time hr htime hfresh
  have hopened := htimed.unused u hu time htime hfresh
  rw [← recordOf_of_textFor (htimed.before u hu time hopened htime)]
  exact hstart r time hr hopened hfresh

/-- An entry is accurate afterwards exactly if, as long as its path has the time that was saved,
its record is what extraction gives for the text at the moment when the time was asked for. -/
theorem accurate_iff (hdistinct : (s.encounters.map Encounter.path).Nodup)
    (h : s.leaves file skipErrors = some after) {bytes : List UInt8}
    (hbytes : after.bytesOf file = .ok bytes) (hkept : t.bytesOf file = .ok bytes)
    (hlooked : ∀ e ∈ s.encounters, e.path = path → Accurate e.looked (s.loaded file) path)
    (htells : TimeTells (s.stamped path) t path) :
    Accurate t (SourceCache.load t file).outcome path ↔ ∀ r time, s.taken file path = some r →
      s.time path = .ok time → t.modifiedMillis path = .ok time →
        recordOf (s.stamped path) path = some r := by
  obtain ⟨hsources, hstamps⟩ := entry_of_leaves hdistinct h hbytes hkept hlooked
  constructor
  · intro hacc r time hr htime hnow
    rw [htime, hr] at hsources hstamps
    rw [recordOf_of_textFor (htells time htime hnow)]
    refine hacc r time hsources hnow (SourceCache.isFresh_iff.mpr ⟨_, hstamps, ?_⟩)
    simp [Stamp.isMillis]
  · intro hright r now hsource hnow hfresh
    obtain ⟨stamp, hstamp, hmillis⟩ := SourceCache.isFresh_iff.mp hfresh
    cases htime : s.time path with
    | error f =>
        rw [hsources, htime] at hsource
        cases hsource
    | ok time =>
        have hr : s.taken file path = some r := by
          rw [← hsource, hsources, htime]
          rfl
        rw [htime, hr] at hstamps
        cases hstamps.symm.trans hstamp
        -- the saved time is the present one
        have hsame : time = now := by simpa [Stamp.isMillis] using hmillis
        subst hsame
        rw [← recordOf_of_textFor (htells time htime hnow)]
        exact hright r time hr htime hnow

/-- A scan among edits that starts with an accurate cache and saves it, and any later moment at
which the cache file is unchanged.  The entry of a source of the scan is accurate then exactly
if, as long as the source has the time that was saved, its record is what extraction gives for
the text at the moment when that time was asked for.  That is so if no edit came between the
lookup or the extraction that the record comes from and that moment; earlier and later edits
do no harm.  And the entry of another path is accurate if it was not out of date at that
moment. -/
theorem accurate_after_edits (s : Schedule) (file path : Text) (skipErrors : Bool)
    (after t : Tree) (bytes : List UInt8) (hdistinct : (s.encounters.map Encounter.path).Nodup)
    (hstart : Accurate s.opened (s.loaded file) path) (htimed : s.Timed file path t)
    (hleaves : s.leaves file skipErrors = some after)
    (hbytes : after.bytesOf file = .ok bytes) (hkept : t.bytesOf file = .ok bytes) :
    let again := (SourceCache.load t file).outcome
    (∀ e ∈ s.encounters, e.path = path →
      (Accurate t again path ↔ ∀ r time, e.taken (s.loaded file) = some r →
        s.time path = .ok time → t.modifiedMillis path = .ok time →
          recordOf (s.stamped path) path = some r) ∧
      ((∀ m, e.moment (s.loaded file) = some m →
        textFor m path = textFor (s.stamped path) path) → Accurate t again path)) ∧
    (path ∉ s.encounters.map Encounter.path →
      (∀ r time, (s.loaded file).sources.get? path = some r → s.time path = .ok time →
        (s.loaded file).isFresh path time = true) → Accurate t again path) := by
  intro again
  have hlooked : ∀ e ∈ s.encounters, e.path = path → Accurate e.looked (s.loaded file) path :=
    fun e he hpath => accurate_of_asks hstart htimed (.inl ⟨e, he, hpath, rfl⟩)
  have haccurate := accurate_iff hdistinct hleaves hbytes hkept hlooked htimed.afterwards
  refine ⟨fun e he hpath => ?_, fun hnot hfresh => ?_⟩
  · subst hpath
    rw [taken_of_mem file hdistinct he] at haccurate
    refine ⟨haccurate, fun hunedited => haccurate.mpr fun r time hr _ _ => ?_⟩
    obtain ⟨m, hm, hrecord⟩ := Option.bind_eq_some_iff.mp hr
    rw [← recordOf_of_textFor (hunedited m hm), hrecord]
  · rw [taken_of_not_mem file hnot] at haccurate
    have hacc := accurate_of_asks hstart htimed (.inr rfl)
    exact haccurate.mpr fun r time hr htime _ => hacc r time hr htime (hfresh r time hr htime)

end Schedule

/-! ### A source that is edited while it is scanned -/

/-- The source is edited; there is no cache file yet. -/
def sharedLate : Tree := sharedTree "/*@provideGoog*/" 2000000000 .empty

/-- The source is empty; the cache file has its record with the time of a later edit. -/
def sharedAhead : Tree := sharedTree "" 1000000000 (sharedCache "2000")

/-- A scan of the source, which is looked up and read before the edit.  Its time is asked for
in the given tree, and the cache file is written after the edit. -/
def overtaken (stamped : Tree) : Schedule :=
  ⟨sharedStart, [⟨"/src/a.js", sharedStart, sharedStart⟩], fun _ => stamped, sharedLate⟩

/-- A scan of the source, which is edited before it is looked up. -/
def misled : Schedule :=
  ⟨sharedAhead, [⟨"/src/a.js", sharedEdited "2000", sharedEdited "2000"⟩],
    fun _ => sharedEdited "2000", sharedEdited "2000"⟩

/-- The cache with the record of the empty source and the time of the edit. -/
def staleCache : SourceCache where
  file := "/cache.json"
  sources := Table.empty.put "/src/a.js" ⟨"/src/a.js", [], [], false⟩
  stamps := Table.empty.put "/src/a.js" (.whole 2000)

theorem load_sharedTree (js : String) (time : FileTime) :
    (SourceCache.load (sharedTree js time (sharedCache "2000")) "/cache.json").outcome =
      staleCache := by with_unfolding_all rfl

/-- There is no cache at the start of the scan. -/
theorem loaded_overtaken (stamped : Tree) :
    (overtaken stamped).loaded "/cache.json" = .empty "/cache.json" := rfl

theorem distinct_overtaken (stamped : Tree) :
    ((overtaken stamped).encounters.map Encounter.path).Nodup := List.nodup_singleton _

theorem accurate_overtaken (stamped t : Tree) (path : Text) :
    Accurate t ((overtaken stamped).loaded "/cache.json") path := by
  intro r time hr
  rw [loaded_overtaken] at hr
  cases hr

/-- Only the source has a row in the cache file, and its time is that of the edit. -/
theorem accurate_misled (path : Text) :
    Accurate misled.opened (misled.loaded "/cache.json") path := by
  intro r time hr htime hfresh
  have hloaded : misled.loaded "/cache.json" = staleCache := load_sharedTree _ _
  rw [hloaded] at hr hfresh
  by_cases hpath : path = "/src/a.js"
  · subst hpath
    cases htime
    cases hfresh
  · rw [staleCache, Table.get?_put_of_ne _ _ hpath] at hr
    cases hr

set_option maxRecDepth 2000 in
/-- The record of the empty source is saved with the time of the tree in which the time was
asked for. -/
theorem leaves_overtaken :
    (overtaken sharedStart).leaves "/cache.json" true = some (sharedEdited "1000") ∧
      (overtaken sharedLate).leaves "/cache.json" true = some (sharedEdited "2000") :=
  ⟨by with_unfolding_all rfl, by with_unfolding_all rfl⟩

/-- The row of the cache file is taken to be fresh. -/
theorem progress_misled : (misled.progress "/cache.json" true).fault = none ∧
    (misled.progress "/cache.json" true).cache = staleCache := by
  have hloaded : misled.loaded "/cache.json" = staleCache := load_sharedTree _ _
  unfold Schedule.progress
  rw [hloaded]
  exact ⟨by with_unfolding_all rfl, by with_unfolding_all rfl⟩

set_option maxRecDepth 2000 in
theorem leaves_misled : misled.leaves "/cache.json" true = some (sharedEdited "2000") := by
  unfold Schedule.leaves
  rw [progress_misled.1, progress_misled.2]
  with_unfolding_all rfl

/-- The record of the empty source is not that of the edited one. -/
theorem stale_sharedEdited :
    ¬ Accurate (sharedEdited "2000")
      (SourceCache.load (sharedEdited "2000") "/cache.json").outcome "/src/a.js" := by
  rw [sharedEdited, load_sharedTree]
  intro hacc
  have hrecord := recordOf_eq_some_iff.mp (hacc ⟨"/src/a.js", [], [], false⟩ 2000 rfl rfl rfl)
  cases (extractFile_sharedEdited "2000" (by simp)).symm.trans hrecord

/-- The trees before, at and after these scans. -/
def sharedTrees : List Tree :=
  [sharedStart, sharedAhead, sharedLate, sharedEdited "1000", sharedEdited "2000"]

/-- The source has the text of its time in each of the trees. -/
theorem textFor_sharedTrees : ∀ t ∈ sharedTrees, ∃ time,
    t.modifiedMillis "/src/a.js" = .ok time ∧
      textFor t "/src/a.js" = .ok (sharedText time) := by
  intro t ht
  simp only [sharedTrees, List.mem_cons, List.not_mem_nil, or_false] at ht
  rcases ht with rfl | rfl | rfl | rfl | rfl
  · exact ⟨1000, rfl, by with_unfolding_all rfl⟩
  · exact ⟨1000, rfl, by with_unfolding_all rfl⟩
  · exact ⟨2000, rfl, by with_unfolding_all rfl⟩
  · exact ⟨2000, rfl, by with_unfolding_all rfl⟩
  · exact ⟨2000, rfl, by with_unfolding_all rfl⟩

theorem timeTells_sharedTrees :
    ∀ t ∈ sharedTrees, ∀ t' ∈ sharedTrees, TimeTells t t' "/src/a.js" := by
  intro t ht t' ht' time htime htime'
  obtain ⟨time₁, hmodified, htext⟩ := textFor_sharedTrees t ht
  obtain ⟨time₂, hmodified', htext'⟩ := textFor_sharedTrees t' ht'
  cases hmodified.symm.trans htime
  cases hmodified'.symm.trans htime'
  rw [htext, htext']

/-- The times of the source are its own, from the start of the scan until after it. -/
theorem timed_overtaken {stamped t : Tree} (hstamped : stamped ∈ sharedTrees)
    (ht : t ∈ sharedTrees) : (overtaken stamped).Timed "/cache.json" "/src/a.js" t where
  before := by
    have hearly : sharedStart ∈ sharedTrees := by simp [sharedTrees]
    rintro u (⟨e, he, _, rfl⟩ | rfl)
    · cases List.mem_singleton.mp he
      exact timeTells_sharedTrees _ hearly _ hearly
    · exact timeTells_sharedTrees _ hearly _ hstamped
  afterwards := timeTells_sharedTrees _ hstamped _ ht
  unused := by
    intro u _ time _ hfresh
    rw [loaded_overtaken] at hfresh
    cases hfresh

/-- Two scans among trees in which a time stands for one text of the source, each with a cache
that is accurate at its start.  The first one starts without a cache; the source is edited
after it was read, and has the new time when the times are asked for.  The second one starts
with a row that is out of date; the source is edited before it is looked up, and has the time
of the row then.  Both save a fresh entry with the record of the old text. -/
theorem outdated_of_overtaken :
    let s := overtaken sharedLate
    let after := sharedEdited "2000"
    (∀ t ∈ [sharedStart, sharedAhead, sharedLate, after],
      ∀ t' ∈ [sharedStart, sharedAhead, sharedLate, after], TimeTells t t' "/src/a.js") ∧
    ((∀ path, Accurate s.opened (s.loaded "/cache.json") path) ∧
      s.Timed "/cache.json" "/src/a.js" after ∧ s.leaves "/cache.json" true = some after) ∧
    ((∀ path, Accurate misled.opened (misled.loaded "/cache.json") path) ∧
      misled.leaves "/cache.json" true = some after) ∧
    ¬ Accurate after (SourceCache.load after "/cache.json").outcome "/src/a.js" := by
  intro s after
  have hsub : [sharedStart, sharedAhead, sharedLate, after] ⊆ sharedTrees := by
    simp [sharedTrees, after]
  have htimed : s.Timed "/cache.json" "/src/a.js" after :=
    timed_overtaken (by simp [sharedTrees]) (by simp [sharedTrees, after])
  exact ⟨fun t ht t' ht' => timeTells_sharedTrees t (hsub ht) t' (hsub ht'),
    ⟨accurate_overtaken _ _, htimed, leaves_overtaken.2⟩, ⟨accurate_misled, leaves_misled⟩,
    stale_sharedEdited⟩

/-- If the edit comes after the time was asked for, the entry is accurate. -/
theorem accurate_after_edits_sample :
    let after := sharedEdited "1000"
    (overtaken sharedStart).leaves "/cache.json" true = some after ∧
      Accurate after (SourceCache.load after "/cache.json").outcome "/src/a.js" := by
  have htimed : (overtaken sharedStart).Timed "/cache.json" "/src/a.js" (sharedEdited "1000") :=
    timed_overtaken (by simp [sharedTrees]) (by simp [sharedTrees])
  have hsource := (Schedule.accurate_after_edits (overtaken sharedStart) "/cache.json" "/src/a.js"
    true _ _ _ (distinct_overtaken _) (accurate_overtaken _ _ _) htimed leaves_overtaken.1
    (bytesOf_sharedTree _ _ _) (bytesOf_sharedTree _ _ _)).1 _ List.mem_cons_self rfl
  refine ⟨leaves_overtaken.1, hsource.2 fun m hm => ?_⟩
  have hread : sharedStart = m := Option.some.inj hm
  rw [← hread]
  rfl

end GoogIndex.Scan
