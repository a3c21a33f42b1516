/-
  Proofs/Scan/Tolerance.lean --- which cache files a scan tolerates.

  Normative source: SPEC_FULL §7, load-time corruption; §4.2.

  A cache file that cannot be used is like no cache file, and so is an entry that is not
  valid.  A valid entry counts under whatever key it stands.  Its key is asked about in two
  places: when it is a source, before it is extracted, and at the end, when the cache is
  saved.  So a scan that ends without the cache file ends with it exactly if storage can
  be asked about these keys; and what it saves then has valid entries only.
-/
import GoogIndex.Proofs.Cache.Saving
import GoogIndex.Proofs.Scan.Ending
import GoogIndex.Proofs.Scan.Transparency

set_option autoImplicit false

namespace GoogIndex.Scan

open GoogIndex.Cache GoogIndex.Storage

/-! ## The end of a scan -/

section scan

variable {t : Tree} {settings : Settings} {request : Request} {root : PathName} {file : Text}
  {paths : List PathName} {report : Report}

/-- The keys of the cache are paths after the batch if they were paths before it, provided that
the sources are. -/
theorem keys_batchOf_iff (hlegal : ∀ p ∈ paths, breach? p.toText = none) :
    (∀ key ∈ (batchOf t request file paths).cache.sources.keys, breach? key = none) ↔
      ∀ key ∈ (SourceCache.load t file).outcome.sources.keys, breach? key = none := by
  -- a key that is no path is no source, and the batch leaves what is no source alone
  have hsame : ∀ key, breach? key ≠ none →
      (batchOf t request file paths).cache.sources.get? key =
        (SourceCache.load t file).outcome.sources.get? key := by
    intro key hbreach
    refine (sameFor_scanSources t request.skipErrors _ fun hmem => hbreach ?_).1
    obtain ⟨p, hp, rfl⟩ := List.mem_map.mp hmem
    exact hlegal p hp
  constructor
  · intro h key hkey
    by_contra hbreach
    rw [Table.mem_keys_iff, ← hsame key hbreach, ← Table.mem_keys_iff] at hkey
    exact hbreach (h key hkey)
  · intro h key hkey
    by_contra hbreach
    rw [Table.mem_keys_iff, hsame key hbreach, ← Table.mem_keys_iff] at hkey
    exact hbreach (h key hkey)

/-- The batch of a scan that skips failures comes to its end exactly if the sources are paths and
storage can be asked about each one in the cache file. -/
theorem fault_batchOf_iff (hskip : request.skipErrors = true)
    (hnormal : ∀ p ∈ paths, PathName.ofText p.toText = p) :
    (batchOf t request file paths).fault = none ↔
      ∀ p ∈ paths, breach? p.toText = none ∧
        ((SourceCache.load t file).outcome.sources.get? p.toText ≠ none →
          Checkable t p.toText) := by
  rw [batchOf, hskip, fault_scanSources_iff_of_normal, List.forall_mem_map]
  intro path hpath
  obtain ⟨p, hp, rfl⟩ := List.mem_map.mp hpath
  rw [hnormal p hp]

/-- A scan that skips failures, and has found its sources, has a report exactly if storage can
be asked about the sources and about the keys of the cache file, which is there. -/
theorem exists_report_iff (hskip : request.skipErrors = true)
    (hroot : openRoot t request.root = .ok root)
    (hpaths : discoverSources t root settings.extensionList request.withVersionFiles = .ok paths)
    (hfile : settings.cachePath root request.cacheFile = file)
    (hplain : (PathName.ofText file).toText = file) {found : Location × Node}
    (hfound : t.lookup true file = .ok found)
    (habsolute : (PathName.ofText file).isAbsolute = true)
    (hnormal : ∀ p ∈ paths, PathName.ofText p.toText = p)
    (hlegal : ∀ p ∈ paths, breach? p.toText = none) :
    (∃ report, (scanProject t settings request).outcome = .ok report) ↔
      (∀ p ∈ paths, (SourceCache.load t file).outcome.sources.get? p.toText ≠ none →
        Checkable t p.toText) ∧
      ∀ key ∈ (SourceCache.load t file).outcome.sources.keys, breach? key = none := by
  have hbatch : (batchOf t request file paths).fault = none ↔
      ∀ p ∈ paths, (SourceCache.load t file).outcome.sources.get? p.toText ≠ none →
        Checkable t p.toText := by
    rw [fault_batchOf_iff hskip hnormal]
    exact forall₂_congr fun p hp => and_iff_right (hlegal p hp)
  have hsave : (∀ f, (SourceCache.save .never t (batchOf t request file paths).cache
      false).outcome ≠ .broken f) ↔
        ∀ key ∈ (batchOf t request file paths).cache.sources.keys, breach? key = none := by
    refine SourceCache.save_unbroken_iff Interruption.refuses_never ?_ (.inl ?_) ?_
    · rw [file_batchOf]
      exact (Tree.lookup_eq_ok_iff.mp hfound).1
    · rw [file_batchOf]
      exact habsolute
    · rw [file_batchOf, Tree.missingFolders_of_lookup hplain hfound]
      decide
  rw [keys_batchOf_iff hlegal] at hsave
  rw [← hbatch, ← hsave]
  constructor
  · rintro ⟨report, hreport⟩
    obtain ⟨root', file', paths', h⟩ := reports_of_scanProject hreport
    cases hroot.symm.trans h.opened
    cases hfile.symm.trans h.cacheFile
    cases hpaths.symm.trans h.found
    exact ⟨h.noFault, h.unbroken⟩
  · rintro ⟨hfault, hunbroken⟩
    obtain ⟨saveError, hreport⟩ :=
      exists_report_of_unbroken request hroot hpaths hfile hfault hunbroken
    exact ⟨_, hreport⟩

/-- What a scan saves is an object with valid entries only. -/
theorem valid_of_reports (h : Reports t settings request root file paths report)
    (hsaved : report.saveError = none) {bytes : List UInt8}
    (hbytes : (scanProject t settings request).tree.bytesOf file = .ok bytes) :
    ∃ members, SourceCache.readValue (scanProject t settings request).tree file =
        .ok (.obj members) ∧ ∀ m ∈ members, (Entry.ofJson? m.2).isSome = true := by
  have hfile := file_batchOf t request file paths
  have hseen : (SourceCache.save .never t (batchOf t request file paths).cache false).tree.bytesOf
      (batchOf t request file paths).cache.file = .ok bytes := by
    rw [hfile, ← h.tree]
    exact hbytes
  have hread := SourceCache.readValue_of_save (keyed_batchOf t request file paths)
    ((legible_batchOf t request file paths).live _) (h.written hsaved) hseen
  rw [hfile, ← h.tree] at hread
  refine ⟨_, hread, fun m hm => ?_⟩
  obtain ⟨l, _, rfl⟩ := List.mem_map.mp hm
  rw [LiveRow.member, ofJson?_toEntry]
  rfl

end scan

/-! ## With the cache file, and without it -/

/-- A scan that skips failures and ends without its cache file finds the same sources with it,
whatever the bytes of the file are.  It ends with it exactly if storage can be asked about
every source that has a valid entry, and every key of a valid entry is a path.  If it saves its
cache then, the file holds an object with valid entries only. -/
theorem ends_with_cacheFile_iff (t : Tree) (settings : Settings) (request : Request)
    (place : Location) (a : Attributes) (bytes : List UInt8) (bare : Report)
    (hwell : t.WellFormed) (hskip : request.skipErrors = true)
    (hbare : (scanProject (t.without place) settings request).outcome = .ok bare)
    (hfile : t.lookup true bare.cacheFile = .ok (place, .file a bytes))
    (hforeign : Foreign t (PathName.ofText bare.root) settings.extensionList
      request.withVersionFiles place) :
    let loaded := (SourceCache.load t bare.cacheFile).outcome
    ∃ paths, discoverSources t (PathName.ofText bare.root) settings.extensionList
        request.withVersionFiles = .ok paths ∧
      ((∃ report, (scanProject t settings request).outcome = .ok report) ↔
        (∀ p ∈ paths, loaded.sources.get? p.toText ≠ none → Checkable t p.toText) ∧
          ∀ key ∈ loaded.sources.keys, breach? key = none) ∧
      ∀ report, (scanProject t settings request).outcome = .ok report →
        report.saveError = none →
        ∃ members, SourceCache.readValue (scanProject t settings request).tree bare.cacheFile =
            .ok (.obj members) ∧ ∀ m ∈ members, (Entry.ofJson? m.2).isSome = true := by
  intro loaded
  obtain ⟨_, _, _, _, hat⟩ := Tree.lookup_eq_ok_iff.mp hfile
  have hlacks := Tree.lacks_without hwell hat
  obtain ⟨root, file, paths, h⟩ := reports_of_scanProject hbare
  obtain ⟨base, b, entries, hbase⟩ := (resolved_of_openRoot h.opened).2
  have hroot := openRoot_of_bare hlacks h.opened
  have hlegal := legal_of_openRoot hwell hroot
  rw [h.rootText, PathName.ofText_toText hlegal] at hforeign ⊢
  subst loaded
  rw [h.fileText] at hfile ⊢
  -- the sources are the same, and without the file all of them were paths
  have hpaths := discoverSources_of_renews hlacks.renews
    (Tree.sameStart_of_working hlacks.working.symm root.anchor) hbase hforeign h.found
  have hnormal : ∀ p ∈ paths, PathName.ofText p.toText = p := fun p hp =>
    normal_of_mem_discoverSources hwell hlegal hpaths hp
  have hsources : ∀ p ∈ paths, breach? p.toText = none := fun p hp =>
    ((fault_batchOf_iff hskip hnormal).mp h.noFault p hp).1
  refine ⟨paths, hpaths,
    exists_report_iff hskip hroot hpaths h.cacheFile (h.normal_file hlegal) hfile
    (h.absolute_file hlegal) hnormal hsources, ?_⟩
  intro report hscan hsaved
  obtain ⟨root', file', paths', h'⟩ := reports_of_scanProject hscan
  cases hroot.symm.trans h'.opened
  cases h.cacheFile.symm.trans h'.cacheFile
  obtain ⟨⟨content, hcontent⟩, _⟩ := kept_of_reports h' hsaved (h.normal_file hlegal) hfile
  exact valid_of_reports h' hsaved hcontent

/-! ### Two cache files -/

/-- A project with one source and a cache file of some bytes. -/
def keyedTree (bytes : List UInt8) : Tree :=
  { attributes := ⟨0o755, 0⟩
    root :=
      .folder "p" ⟨0o755, 0⟩
        (.file "a.js" ⟨0o644, 1000000000⟩ "/*@provideGoog*/".toUTF8.toList
          (.file ".closuredepsignore" ⟨0o644, 0⟩ []
            (.file "cache.json" ⟨0o644, 0⟩ bytes .empty)))
        .empty
    working := []
    clock := 3000000000
    umask := 0o022 }

/-- A scan of the project. -/
def keyedRequest : Request := ⟨"p", some "cache.json", false, true⟩

/-- The report of a scan of the project without a usable record. -/
def keyedReport : Report :=
  ⟨"/p", "/p/cache.json", ⟨[⟨⟨"/p/a.js", ["goog"], [], false⟩, none⟩], 0, 1, [], []⟩, none⟩

/-- Valid entries under the empty text and under the path of the source, where the time is not
the one of the source, and a member that is no entry. -/
def strangeKeys : List UInt8 :=
  ("\x7b\"\": \x7b\"modifiedDates\": 0, \"provides\": [], \"requires\": []\x7d, " ++
    "\"/p/a.js\": \x7b\"modifiedDates\": 7, \"provides\": [], \"requires\": []\x7d, " ++
    "\"x\": 7\x7d").toUTF8.toList

/-- A valid entry with this key, as it is spelled in the cache file. -/
def entryUnder (key : String) : List UInt8 :=
  ("\x7b\"" ++ key ++ "\": \x7b\"provides\": [], \"requires\": [], " ++
    "\"modifiedDates\": 0\x7d\x7d").toUTF8.toList

set_option maxRecDepth 2000 in
/-- What a scan with the first cache file comes across. -/
theorem keyed_facts :
    (scanProject ((keyedTree strangeKeys).without ["p", "cache.json"]) ⟨none, none⟩
      keyedRequest).outcome = .ok keyedReport ∧
    (scanProject (keyedTree strangeKeys) ⟨none, none⟩ keyedRequest).outcome = .ok keyedReport ∧
    Foreign (keyedTree strangeKeys) (PathName.ofText "/p") (Settings.extensionList ⟨none, none⟩)
      false ["p", "cache.json"] :=
  ⟨by with_unfolding_all rfl, by with_unfolding_all rfl,
    of_decide_eq_true (by with_unfolding_all rfl)⟩

/-- Entries under keys that are no sources do not matter, and the next cache file is valid. -/
theorem ends_with_cacheFile_iff_sample :
    (scanProject ((keyedTree strangeKeys).without ["p", "cache.json"]) ⟨none, none⟩
      keyedRequest).outcome = .ok keyedReport ∧
    (scanProject (keyedTree strangeKeys) ⟨none, none⟩ keyedRequest).outcome = .ok keyedReport ∧
    ∃ members, SourceCache.readValue (scanProject (keyedTree strangeKeys) ⟨none, none⟩
        keyedRequest).tree "/p/cache.json" = .ok (.obj members) ∧
      ∀ m ∈ members, (Entry.ofJson? m.2).isSome = true := by
  obtain ⟨hbare, hscan, hforeign⟩ := keyed_facts
  obtain ⟨_, _, _, hvalid⟩ := ends_with_cacheFile_iff (keyedTree strangeKeys) ⟨none, none⟩
    keyedRequest ["p", "cache.json"] ⟨0o644, 0⟩ strangeKeys keyedReport (by decide) rfl
    hbare (by with_unfolding_all rfl) hforeign
  exact ⟨hbare, hscan, hvalid _ hscan rfl⟩

/-- One key that is no path ends the scan, which without the file has a report, be it for a NUL
or for half of a surrogate pair. -/
theorem broken_by_key :
    (scanProject ((keyedTree (entryUnder "a\\u0000b")).without ["p", "cache.json"]) ⟨none, none⟩
      keyedRequest).outcome = .ok keyedReport ∧
    Foreign (keyedTree (entryUnder "a\\u0000b")) ⟨.root, ["p"]⟩
      (Settings.extensionList ⟨none, none⟩) false ["p", "cache.json"] ∧
    (scanProject (keyedTree (entryUnder "a\\u0000b")) ⟨none, none⟩ keyedRequest).outcome =
      .error (.storage (.broken .nullByte)) ∧
    (scanProject (keyedTree (entryUnder "\\ud800")) ⟨none, none⟩ keyedRequest).outcome =
      .error (.storage (.broken (.unencodable 0 0 1))) :=
  ⟨by with_unfolding_all rfl, of_decide_eq_true (by with_unfolding_all rfl),
    by with_unfolding_all rfl, by with_unfolding_all rfl⟩

end GoogIndex.Scan
