/-
  Proofs/Scan/Transparency.lean --- a scan with its cache file, and without it.

  Normative source: SPEC_FULL §1, unchanged files are not read again; §4.4.

  The cache only saves work: with a cache file whose fresh records are right, a scan
  gives the same records and leaves out the same sources as without the file.  And what
  it saves is again a cache whose records are right.
-/
import GoogIndex.Proofs.Scan.Project
import GoogIndex.Proofs.Storage.Kept
import Mathlib.Data.List.Basic

set_option autoImplicit false

namespace GoogIndex.Scan

open GoogIndex.Cache GoogIndex.Ignore GoogIndex.Storage

/-! ## Without the cache file -/

/-- Without its file a cache is empty. -/
theorem load_of_lacks {t bare : Tree} {place : Location} (h : Tree.Lacks t bare place)
    {file : Text} {node : Node} (hfile : t.lookup true file = .ok (place, node)) :
    (SourceCache.load bare file).outcome = .empty file := by
  have hunseen : bare.canBeSeen file = false := by
    rw [Bool.eq_false_iff, ne_eq, Tree.canBeSeen_eq_true_iff]
    rintro ⟨stop, found, hlookup⟩
    obtain ⟨node', hlookup', _⟩ := h.lookup_of_bare hlookup
    cases hfile.symm.trans hlookup'
    obtain ⟨_, _, _, _, hat⟩ := Tree.lookup_eq_ok_iff.mp hlookup
    have hgone := h.gone
    rw [Tree.shapeAt, hat] at hgone
    cases hgone
  unfold SourceCache.load
  rw [hunseen]
  rfl

/-- A source whose path does not lead to the file has the same record without it. -/
theorem recordOf_of_lacks {t bare : Tree} {place : Location} (h : Tree.Lacks t bare place)
    {path : Text} (hnormal : (PathName.ofText path).toText = path)
    (hpath : t.leadsTo path place = false) : recordOf bare path = recordOf t path := by
  have hstart := Tree.start_of_working h.working.symm path
  exact (recordOf_of_renews h.renews hstart hpath hnormal).symm

/-! ## After the save -/

/-- What a scan that saved its cache leaves of a tree in which the cache file was a file:
the cache file can be read, and so can every other file, with its time. -/
theorem kept_of_reports {t : Tree} {settings : Settings} {request : Request} {root : PathName}
    {file : Text} {paths : List PathName} {report : Report}
    (h : Reports t settings request root file paths report) (hsaved : report.saveError = none)
    (hnormal : (PathName.ofText file).toText = file) {place : Location} {a : Attributes}
    {bytes : List UInt8} (hfile : t.lookup true file = .ok (place, .file a bytes)) :
    (∃ content, (scanProject t settings request).tree.bytesOf file = .ok content) ∧
      ∀ path stop b content, t.lookup true path = .ok (stop, .file b content) → stop ≠ place →
        (scanProject t settings request).tree.lookup true path = .ok (stop, .file b content) := by
  obtain ⟨hwritten, htree⟩ := SourceCache.written_of_save (h.written hsaved)
  obtain ⟨folder, name, hslot, _, hreplaced⟩ := Tree.replaced_of_written hwritten
  rw [← htree, ← h.tree] at hreplaced
  rw [file_batchOf, hnormal] at hslot
  have hextends := Tree.extends_ensureFolders .never (PathName.ofText file).parent.anchor t
    (PathName.ofText file).parent.names.reverse
  rw [file_batchOf] at hreplaced
  have hfile' := hextends.lookup_file hfile
  refine ⟨?_, ?_⟩
  · obtain ⟨b, htarget⟩ := hreplaced.lookup_target hslot hfile'
    exact ⟨_, Tree.bytesOf_eq_ok_iff.mpr ⟨_, b, htarget⟩⟩
  · intro path stop b content hpath hne
    exact hreplaced.lookup_kept hslot hfile' (hextends.lookup_file hpath) hne

/-- The saved cache holds for a source its time and its record, and these are still what the
source says. -/
theorem right_of_reports {t : Tree} {settings : Settings} {request : Request} {root : PathName}
    {file : Text} {paths : List PathName} {report : Report}
    (h : Reports t settings request root file paths report) (hsaved : report.saveError = none)
    (hnormal : (PathName.ofText file).toText = file) {place : Location} {a : Attributes}
    {bytes : List UInt8} (hfile : t.lookup true file = .ok (place, .file a bytes)) {path : Text}
    (hpath : (PathName.ofText path).toText = path) (haway : t.leadsTo path place = false)
    {r : Record} (hrecord : recordOf t path = some r)
    (hkept : (batchOf t request file paths).cache.sources.get? path = some r) :
    let after := (scanProject t settings request).tree
    let again := (SourceCache.load after file).outcome
    ∃ time, after.modifiedMillis path = .ok time ∧ again.stamps.get? path = some (.whole time) ∧
      again.sources.get? path = some r ∧ recordOf after path = some r := by
  intro after again
  obtain ⟨⟨content, hcontent⟩, hfiles⟩ := kept_of_reports h hsaved hnormal hfile
  obtain ⟨source, hsource⟩ := exists_bytesOf_of_recordOf hrecord
  rw [hpath] at hsource
  obtain ⟨stop, b, hlookup⟩ := Tree.bytesOf_eq_ok_iff.mp hsource
  have hlookup' := hfiles path stop b source hlookup (Tree.ne_of_leadsTo haway hlookup)
  have htime : t.modifiedMillis path = .ok b.modified.millis := by
    simp only [Tree.modifiedMillis, Tree.attributesOf, Storage.Tree.node, hlookup]
    rfl
  have htime' : after.modifiedMillis path = .ok b.modified.millis := by
    simp only [after, Tree.modifiedMillis, Tree.attributesOf, Storage.Tree.node, hlookup']
    rfl
  obtain ⟨hsources, hstamps⟩ := load_of_reports h hsaved hcontent path
  have hsame : ({ r with path := path } : Record) = r := by rw [← path_of_recordOf hrecord]
  refine ⟨_, htime', ?_, ?_, ?_⟩
  · rw [hstamps, htime, hkept]
    rfl
  · rw [hsources, htime, hkept]
    exact congrArg some hsame
  · have hsource' : after.bytesOf path = .ok source :=
      Tree.bytesOf_eq_ok_iff.mpr ⟨stop, b, hlookup'⟩
    rw [← hpath] at hsource hsource'
    rw [recordOf_congr hsource hsource', hrecord]

/-! ## The two scans -/

/-- A loaded record whose time is the present one has the declarations that extraction
gives. -/
def RightWhenFresh (t : Tree) (c : SourceCache) (path : Text) : Prop :=
  ∀ s r time, c.stamps.get? path = some s → c.sources.get? path = some r →
    t.modifiedMillis path = .ok time → s.isMillis time = true →
    ∃ e, (extractFile t path false).outcome = .ok e ∧ r.provides = e.record.provides ∧
      r.requires = e.record.requires ∧ r.isModule = e.record.isModule

theorem accurate_of_rightWhenFresh {t : Tree} {file path : Text}
    (h : RightWhenFresh t (SourceCache.load t file).outcome path) :
    Accurate t (SourceCache.load t file).outcome path := by
  intro r time hr htime hfresh
  obtain ⟨s, hs, hmillis⟩ := SourceCache.isFresh_iff.mp hfresh
  obtain ⟨⟨record, tree⟩, he, hprovides, hrequires, hmodule⟩ := h s r time hs hr htime hmillis
  have hpath : r.path = record.path :=
    (SourceCache.path_of_load hr).trans (path_of_extractFile he).symm
  have hrecord : r = record := by
    rcases r with ⟨path, provides, requires, isModule⟩
    rcases record with ⟨path', provides', requires', isModule'⟩
    simp only at hpath hprovides hrequires hmodule
    rw [hpath, hprovides, hrequires, hmodule]
  cases tree_of_extractFile he
  rw [hrecord]
  exact recordOf_eq_some_iff.mpr he

/-- A batch with right records is complete, if its paths are in normal form. -/
theorem complete_of_batchOf {t : Tree} {request : Request} (hskip : request.skipErrors = true)
    {file : Text} {paths : List PathName}
    (hnormal : ∀ p ∈ paths, PathName.ofText p.toText = p)
    (hacc : ∀ p ∈ paths, Accurate t (SourceCache.load t file).outcome p.toText)
    (hfault : (batchOf t request file paths).fault = none) :
    Complete t (paths.map PathName.toText) (.start (SourceCache.load t file).outcome)
      (batchOf t request file paths) := by
  unfold batchOf at hfault ⊢
  rw [hskip] at hfault ⊢
  refine (sound_of_scanSources ?_ hfault).2 ?_
  · intro path hpath
    obtain ⟨p, hp, rfl⟩ := List.mem_map.mp hpath
    exact hacc p hp
  · intro path hpath f hf
    obtain ⟨p, hp, rfl⟩ := List.mem_map.mp hpath
    exact recordOf_of_modifiedMillis_error (by rw [hnormal p hp]) hf

/-- One scan is the same with its cache file and without it.  The cache file is neither a
source nor an ignore file of the scan, and no path of one leads to it; its bytes are
arbitrary, except that a fresh record has the declarations of its source.  If both scans
give a report, they find the same sources, give the same records and leave out the same
paths, which are the sources without a record.  If the scan with the file saves its cache,
the saved file holds for every reported source its time and its record, and these are
still what the source says. -/
theorem transparent_of_scans (t : Tree) (settings : Settings) (request : Request)
    (root : PathName) (paths : List PathName) (place : Location) (a : Attributes)
    (bytes : List UInt8) (report report' : Report)
    (hwell : t.WellFormed) (hskip : request.skipErrors = true)
    (hroot : openRoot t request.root = .ok root)
    (hpaths : discoverSources t root settings.extensionList request.withVersionFiles = .ok paths)
    (hfile : t.lookup true (settings.cachePath root request.cacheFile) =
      .ok (place, .file a bytes))
    (hsources : ∀ names, ⟨root.anchor, root.names ++ names⟩ ∈ paths → t.Apart root place names)
    (hignore : ∀ names ∈ ignoreFiles t root request.withVersionFiles, t.Apart root place names)
    (hright : ∀ p ∈ paths, RightWhenFresh t
      (SourceCache.load t (settings.cachePath root request.cacheFile)).outcome p.toText)
    (hscan : (scanProject t settings request).outcome = .ok report)
    (hscan' : (scanProject (t.without place) settings request).outcome = .ok report') :
    discoverSources (t.without place) root settings.extensionList request.withVersionFiles =
      .ok paths ∧
    report.result.records = report'.result.records ∧
    (∀ path, path ∈ report.result.missing ∨ path ∈ report.result.failed ↔
      path ∈ report'.result.missing ∨ path ∈ report'.result.failed) ∧
    (∀ path, path ∈ report.result.missing ∨ path ∈ report.result.failed ↔
      path ∈ paths.map PathName.toText ∧
        path ∉ report.result.records.map fun e => e.record.path) ∧
    (report.saveError = none → ∀ e ∈ report.result.records,
      let after := (scanProject t settings request).tree
      let again := (SourceCache.load after (settings.cachePath root request.cacheFile)).outcome
      ∃ time, after.modifiedMillis e.record.path = .ok time ∧
        again.stamps.get? e.record.path = some (.whole time) ∧
        again.sources.get? e.record.path = some e.record ∧
        (extractFile after e.record.path false).outcome = .ok e) := by
  obtain ⟨_, _, _, _, hat⟩ := Tree.lookup_eq_ok_iff.mp hfile
  have hlacks := Tree.lacks_without hwell hat
  obtain ⟨base, b, entries, hbase⟩ := (resolved_of_openRoot hroot).2
  -- both scans have the same root, the same cache file and the same sources
  obtain ⟨root₁, file, paths₁, h⟩ := reports_of_scanProject hscan
  cases hroot.symm.trans h.opened
  cases hpaths.symm.trans h.found
  obtain ⟨root₂, file₂, paths₂, h'⟩ := reports_of_scanProject hscan'
  have hroot₂ := openRoot_of_lacks hlacks hroot h'.opened
  subst root₂
  cases h.cacheFile.symm.trans h'.cacheFile
  have hfound := h'.found
  have hpaths₂ := discoverSources_of_lacks hlacks hbase hignore hpaths hsources hfound
  subst paths₂
  rw [h.cacheFile] at hfile hright ⊢
  have hlegal := legal_of_openRoot hwell hroot
  have hnormal : ∀ p ∈ paths, PathName.ofText p.toText = p := fun p hp =>
    normal_of_mem_discoverSources hwell hlegal hpaths hp
  have haway : ∀ p ∈ paths, t.leadsTo p.toText place = false := by
    intro p hp
    obtain ⟨spec, _, rfl⟩ := names_of_discoverSources hpaths
    obtain ⟨names, _, rfl⟩ := exists_names_of_mem_discover hp
    exact (hsources names hp).resolved
  have hrecord : ∀ p ∈ paths, recordOf (t.without place) p.toText = recordOf t p.toText :=
    fun p hp => recordOf_of_lacks hlacks (by rw [hnormal p hp]) (haway p hp)
  have hall := complete_of_batchOf hskip hnormal
    (fun p hp => accurate_of_rightWhenFresh (hright p hp)) h.noFault
  have hall' : Complete (t.without place) (paths.map PathName.toText)
      (.start (SourceCache.load (t.without place) file).outcome)
      (batchOf (t.without place) request file paths) := by
    refine complete_of_batchOf hskip hnormal (fun p _ => ?_) h'.noFault
    rw [load_of_lacks hlacks hfile]
    exact accurate_of_recordOf (.inl rfl)
  have hrecords : report.result.records = report'.result.records := by
    rw [h.result, h'.result, hall.records_start, hall'.records_start, List.filterMap_congr]
    intro path hpath
    obtain ⟨p, hp, rfl⟩ := List.mem_map.mp hpath
    exact (hrecord p hp).symm
  refine ⟨hfound, hrecords, ?_, ?_, ?_⟩
  · intro path
    rw [h.result, h'.result, hall.absent_start, hall'.absent_start, ← h.result, ← h'.result,
      hrecords]
  · intro path
    rw [h.result, hall.absent_start]
  · intro hsaved e he after again
    rw [h.result] at he
    obtain ⟨hpath, hsome, htree⟩ := hall.mem_records he
    have hkept := (hall.seen _ hpath).trans hsome
    obtain ⟨p, hp, hpe⟩ := List.mem_map.mp hpath
    have hfileNormal : (PathName.ofText file).toText = file := by
      rw [← h.cacheFile]
      exact normal_cachePath settings hlegal request.cacheFile
    have hpathNormal : (PathName.ofText e.record.path).toText = e.record.path := by
      rw [← hpe, hnormal p hp]
    obtain ⟨time, htime, hstamp, hsource, hafter⟩ := right_of_reports h hsaved hfileNormal hfile
      hpathNormal (hpe ▸ haway p hp) hsome hkept
    refine ⟨time, htime, hstamp, hsource, ?_⟩
    rw [recordOf_eq_some_iff.mp hafter, ← htree]

/-! ### An instance -/

/-- A cache file with one valid entry and one that is none. -/
def cachedBytes : List UInt8 :=
  ("\x7b\"/p/a.js\": \x7b\"modifiedDates\": 1000, \"provides\": [\"goog\"], " ++
    "\"requires\": []\x7d, \"/p/b.js\": 7\x7d").toUTF8.toList

/-- A project with one source, whose record stands in the cache file. -/
def cachedTree : Tree :=
  { attributes := ⟨0o755, 0⟩
    root :=
      .folder "p" ⟨0o755, 0⟩
        (.file "a.js" ⟨0o644, 1000000000⟩ "/*@provideGoog*/".toUTF8.toList
          (.file ".closuredepsignore" ⟨0o644, 0⟩ []
            (.file "cache.json" ⟨0o644, 0⟩ cachedBytes .empty)))
        .empty
    working := []
    clock := 3000000000
    umask := 0o022 }

/-- A scan of the project. -/
def cachedRequest : Request := ⟨"p", some "cache.json", false, true⟩

/-- The report of a scan of the project, with so many hits and misses. -/
def cachedReport (hits misses : Nat) : Report :=
  ⟨"/p", "/p/cache.json", ⟨[⟨⟨"/p/a.js", ["goog"], [], false⟩, none⟩], hits, misses, [], []⟩, none⟩

/-- The scan with the cache file has a hit where the other one extracts; both report the
same record, and it is saved again. -/
theorem transparent_of_scans_sample :
    (scanProject cachedTree ⟨none, none⟩ cachedRequest).outcome = .ok (cachedReport 1 0) ∧
    (scanProject (cachedTree.without ["p", "cache.json"]) ⟨none, none⟩ cachedRequest).outcome =
      .ok (cachedReport 0 1) ∧
    (let after := (scanProject cachedTree ⟨none, none⟩ cachedRequest).tree
     let again := (SourceCache.load after "/p/cache.json").outcome
     ∃ time, after.modifiedMillis "/p/a.js" = .ok time ∧
       again.stamps.get? "/p/a.js" = some (.whole time) ∧
       again.sources.get? "/p/a.js" = some ⟨"/p/a.js", ["goog"], [], false⟩) := by
  have hscan : (scanProject cachedTree ⟨none, none⟩ cachedRequest).outcome =
      .ok (cachedReport 1 0) := by with_unfolding_all rfl
  have hscan' : (scanProject (cachedTree.without ["p", "cache.json"]) ⟨none, none⟩
      cachedRequest).outcome = .ok (cachedReport 0 1) := by with_unfolding_all rfl
  have hfile : cachedTree.lookup true "/p/cache.json" =
      .ok (["p", "cache.json"], .file ⟨0o644, 0⟩ cachedBytes) := by with_unfolding_all rfl
  have hsource : (SourceCache.load cachedTree "/p/cache.json").outcome.sources.get? "/p/a.js" =
      some ⟨"/p/a.js", ["goog"], [], false⟩ := by with_unfolding_all rfl
  have hextract : (extractFile cachedTree "/p/a.js" false).outcome =
      .ok ⟨⟨"/p/a.js", ["goog"], [], false⟩, none⟩ := by with_unfolding_all rfl
  have hcache : Settings.cachePath ⟨none, none⟩ ⟨.root, ["p"]⟩ (some "cache.json") =
      "/p/cache.json" := by with_unfolding_all rfl
  have h := transparent_of_scans cachedTree ⟨none, none⟩ cachedRequest ⟨.root, ["p"]⟩
    [⟨.root, ["p", "a.js"]⟩] ["p", "cache.json"] ⟨0o644, 0⟩ cachedBytes _ _ (by decide) rfl
    (by with_unfolding_all rfl) (by with_unfolding_all rfl) (hcache ▸ hfile)
    (by
      intro names hnames
      cases List.mem_singleton.mp hnames
      decide)
    (by decide)
    (by
      intro p hp s r time _ hr _ _
      cases List.mem_singleton.mp hp
      rw [show cachedRequest.cacheFile = some ("cache.json" : Text) from rfl, hcache] at hr
      cases hsource.symm.trans hr
      exact ⟨_, hextract, rfl, rfl, rfl⟩)
    hscan hscan'
  obtain ⟨time, htime, hstamp, hrecord, _⟩ := h.2.2.2.2 rfl _ List.mem_cons_self
  exact ⟨hscan, hscan', time, htime, hstamp, hrecord⟩

end GoogIndex.Scan
