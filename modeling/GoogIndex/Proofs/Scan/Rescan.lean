/-
  Proofs/Scan/Rescan.lean --- the scan after a scan.

  Normative source: SPEC_FULL §11, a second `scan_project` over unchanged files.

  A scan that saved its cache has settled every source, and the save left the sources as
  they were: it put one file in the place of another, or of nothing.  So the next scan
  finds the same sources, and the loaded cache serves each of them with what the scan
  before it reported.
-/
import GoogIndex.Proofs.Cache.Saving
import GoogIndex.Proofs.Scan.Ending
import GoogIndex.Proofs.Scan.Project
import GoogIndex.Proofs.Storage.Renewal

set_option autoImplicit false

namespace GoogIndex.Scan

open GoogIndex.Cache GoogIndex.Ignore GoogIndex.Storage

/-! ## What depends on one path -/

theorem modifiedMillis_congr {t t' : Tree} {path : Text}
    (h : t'.lookup true path = t.lookup true path) :
    t'.modifiedMillis path = t.modifiedMillis path := by
  simp only [Tree.modifiedMillis, Tree.attributesOf, Storage.Tree.node, h]

/-! ## A path and a new file elsewhere -/

section path

variable {s s' : Tree} {place : Location} {path : Text}

/-- What failed to be extracted fails again. -/
theorem failed_of_renews (h : s.Renews s' place) (hstart : s'.start path = s.start path)
    (haway : s'.leadsTo path place = false) (hnormal : (PathName.ofText path).toText = path)
    {f : ExtractionFailure} (hfails : (extractFile s path false).outcome = .error (.failed f)) :
    ∃ g, (extractFile s' path false).outcome = .error (.failed g) := by
  have hnone := recordOf_eq_none_iff.mpr ⟨_, hfails⟩
  rw [← recordOf_of_renews h hstart haway hnormal] at hnone
  obtain ⟨fault, hfault⟩ := recordOf_eq_none_iff.mp hnone
  cases fault with
  | failed g => exact ⟨g, hfault⟩
  | broken b =>
      -- the path would have broken the first extraction as well
      have hbroken := (extractFile_eq_broken_iff s path false).mpr
        ((extractFile_eq_broken_iff s' path false).mp hfault)
      cases hbroken.symm.trans hfails

theorem modifiedMillis_of_renews (h : s.Renews s' place) (hstart : s'.start path = s.start path)
    (haway : s'.leadsTo path place = false)
    (hother : ∀ stop node, s.lookup true path = .ok (stop, node) → node.shape ≠ .folder)
    {time : Int} (htime : s.modifiedMillis path = .ok time) :
    s'.modifiedMillis path = .ok time := by
  obtain ⟨stop, node, hlookup⟩ := Tree.exists_lookup_of_modifiedMillis htime
  have hsame := h.lookup_of_other hstart haway hlookup (hother stop node hlookup)
  rw [modifiedMillis_congr (hsame.trans hlookup.symm), htime]

/-- A path that is settled is served by the cache as it was saved. -/
theorem served_of_settled (h : s.Renews s' place) (hstart : s'.start path = s.start path)
    (haway : s'.leadsTo path place = false) (hnormal : (PathName.ofText path).toText = path)
    (hother : ∀ stop node, s.lookup true path = .ok (stop, node) → node.shape ≠ .folder)
    {skipErrors : Bool} {c again : SourceCache} (hsettled : Settled s skipErrors c path)
    (hkey : ∀ r, c.sources.get? path = some r → r.path = path)
    (hsources : again.sources.get? path = (s.modifiedMillis path).toOption.bind fun _ =>
      (c.sources.get? path).map fun r => { r with path := path })
    (hstamps : again.stamps.get? path = (s.modifiedMillis path).toOption.bind fun time =>
      (c.sources.get? path).map fun _ => .whole time) :
    Served s' skipErrors again path ∧ again.sources.get? path = c.sources.get? path := by
  have hheld : ∀ r time, c.sources.get? path = some r → s.modifiedMillis path = .ok time →
      Served s' skipErrors again path ∧ again.sources.get? path = c.sources.get? path := by
    intro r time hr htime
    have hsame : ({ r with path := path } : Record) = r := by rw [← hkey r hr]
    rw [htime, hr] at hsources hstamps
    have hsource : again.sources.get? path = some r := hsources.trans (congrArg some hsame)
    have hfresh : again.isFresh path time = true :=
      SourceCache.isFresh_iff.mpr ⟨.whole time, hstamps, by simp [Stamp.isMillis]⟩
    have htime' := modifiedMillis_of_renews h hstart haway hother htime
    exact ⟨.inl ⟨r, time, hsource, htime', hfresh⟩, hsource.trans hr.symm⟩
  cases hsettled with
  | fresh r time held present _ => exact hheld r time held present
  | extracted r held given =>
      cases htime : s.modifiedMillis path with
      | ok time => exact hheld r time held htime
      | error f =>
          rw [recordOf_of_modifiedMillis_error hnormal htime] at given
          cases given
  | failing f held fails skips =>
      have hnone : again.sources.get? path = none := by
        rw [hsources, held]
        cases (s.modifiedMillis path).toOption <;> rfl
      obtain ⟨g, hg⟩ := failed_of_renews h hstart haway hnormal fails
      exact ⟨.inr ⟨g, hnone, hg, skips⟩, hnone.trans held.symm⟩

end path

/-! ## After the save -/

section saved

variable {t after : Tree} {settings : Settings} {request : Request} {root : PathName}
  {file : Text} {paths : List PathName} {report : Report}

/-- A scan that saved its cache renews the storage by the cache file, if the folder of the
file was there and its entry was no link to a folder. -/
theorem renews_of_reports (ht : t.WellFormed)
    (h : Reports t settings request root file paths report) (hsaved : report.saveError = none)
    (hparent : t.isFolder (PathName.ofText file).parent.toText = .ok true)
    (hentry : ∀ folder name node, t.slot file = .ok (.entry folder name) →
      t.at? (folder ++ [name]) = some node → t.entryIsFolder folder name node = false) :
    ∃ folder name, t.slot file = .ok (.entry folder name) ∧ breach? file = none ∧
      t.Renews (scanProject t settings request).tree (folder ++ [name]) := by
  obtain ⟨hwritten, htree⟩ := SourceCache.written_of_save (h.written hsaved)
  obtain ⟨folder, name, hslot, hsound, hreplaced⟩ := Tree.replaced_of_written hwritten
  rw [← htree, ← h.tree] at hreplaced
  rw [file_batchOf] at hslot hsound hreplaced
  have hkept : Tree.ensureFolders .never (PathName.ofText file).parent.anchor t
      (PathName.ofText file).parent.names.reverse = ⟨t, none⟩ := by
    refine Tree.ensureFolders_of_isFolder ?_
    rw [List.reverse_reverse]
    exact hparent
  rw [hkept] at hslot hreplaced
  rw [h.normal_file (h.legal_root ht)] at hslot
  exact ⟨folder, name, hslot, hsound, hreplaced.renews fun node => hentry folder name node hslot⟩

/-- From any working folder, the cache file is the only new file, and its path finds it. -/
theorem lookup_of_reports (ht : t.WellFormed)
    (h : Reports t settings request root file paths report) (hsaved : report.saveError = none)
    (hparent : t.isFolder (PathName.ofText file).parent.toText = .ok true)
    (hentry : ∀ folder name node, t.slot file = .ok (.entry folder name) →
      t.at? (folder ++ [name]) = some node → t.entryIsFolder folder name node = false)
    (hattributes : after.attributes = (scanProject t settings request).tree.attributes)
    (hroot : after.root = (scanProject t settings request).tree.root) :
    ∃ place a content, t.Renews after place ∧
      after.lookup true file = .ok (place, .file a content) ∧
      (scanProject t settings request).tree.bytesOf file = .ok content := by
  obtain ⟨folder, name, hslot, hsound, hrenews⟩ := renews_of_reports ht h hsaved hparent hentry
  obtain ⟨a, content, hshape⟩ := hrenews.file
  have hat := Tree.shapeAt_eq_file_iff.mp hshape
  have hat' : after.at? (folder ++ [name]) = some (.file a content) := by
    rw [← hat, Tree.at?, Tree.at?, hattributes, hroot]
  have habsolute := h.absolute_file (h.legal_root ht)
  have hstart : ∀ s : Tree, s.start file = t.start file := fun s => by
    rw [start_of_absolute s habsolute, start_of_absolute t habsolute]
  have hafter := hrenews.congr hattributes hroot
  have hlookup := hrenews.lookup_of_entry (hstart _) hslot hsound hat
  exact ⟨folder ++ [name], a, content, hafter,
    hafter.lookup_of_entry (hstart after) hslot hsound hat',
    Tree.bytesOf_eq_ok_iff.mpr ⟨_, a, hlookup⟩⟩

/-- Every source is served by the cache that was saved, with the record that the scan left. -/
theorem served_of_reports (ht : t.WellFormed) (hnames : (".." : Text) ∉ t.root.allNames)
    (h : Reports t settings request root file paths report) (hsaved : report.saveError = none)
    (hmissing : report.result.missing = []) {place : Location} (hrenews : t.Renews after place)
    (haway : ∀ p ∈ paths, after.leadsTo p.toText place = false)
    (hstart : ∀ p ∈ paths, after.start p.toText = t.start p.toText) {bytes : List UInt8}
    (hbytes : (scanProject t settings request).tree.bytesOf file = .ok bytes) :
    ∀ path ∈ paths.map PathName.toText,
      let again := (SourceCache.load (scanProject t settings request).tree file).outcome
      Served after request.skipErrors again path ∧
        again.sources.get? path = (batchOf t request file paths).cache.sources.get? path := by
  intro path hpath again
  obtain ⟨p, hp, rfl⟩ := List.mem_map.mp hpath
  have hnormal : (PathName.ofText p.toText).toText = p.toText := by
    rw [h.normal_source ht hp]
  rw [h.result] at hmissing
  have hended := ended_of_scanSources h.noFault hmissing
  have habsolute : root.isAbsolute = true := by
    rw [PathName.isAbsolute, h.anchor_root]
    rfl
  obtain ⟨hsources, hstamps⟩ := load_of_reports h hsaved hbytes p.toText
  refine served_of_settled hrenews (hstart p hp) (haway p hp) hnormal
    (fun stop node =>
      not_folder_of_mem_discoverSources ht hnames (h.legal_root ht) habsolute h.found hp)
    (hended.settled _ hpath) (fun r hr => ?_) hsources hstamps
  rcases record_of_scanSources hr with hloaded | hextracted
  · exact SourceCache.path_of_load hloaded
  · exact path_of_recordOf hextracted

/-- A save of the loaded cache does not break where its file is found: whatever has a time is a
path. -/
theorem unbroken_of_reports (h : Reports t settings request root file paths report)
    (hlegal : root.Legal) (hsaved : report.saveError = none) {bytes : List UInt8}
    (hbytes : (scanProject t settings request).tree.bytesOf file = .ok bytes) {s : Tree}
    {found : Location × Node} (hfound : s.lookup true file = .ok found) (f : Fault) :
    (SourceCache.save .never s (SourceCache.load (scanProject t settings request).tree file).outcome
      false).outcome ≠ .broken f := by
  have hfile := SourceCache.file_load (scanProject t settings request).tree file
  have hsound := (Tree.lookup_eq_ok_iff.mp hfound).1
  have habsolute := h.absolute_file hlegal
  have hmissing := Tree.missingFolders_of_lookup (h.normal_file hlegal) hfound
  rw [← hfile] at hsound habsolute hmissing
  refine (SourceCache.save_unbroken_iff Interruption.refuses_never hsound (.inl habsolute)
    (by rw [hmissing]; decide)).mpr (fun path hpath => ?_) f
  have hsources := (load_of_reports h hsaved hbytes path).1
  cases htime : t.modifiedMillis path with
  | ok time => exact Tree.sound_of_modifiedMillis htime
  | error g =>
      rw [htime] at hsources
      exact absurd hsources (Cache.Table.mem_keys_iff.mp hpath)

end saved

/-! ## The second scan -/

/-- A scan right after a scan is served from the cache.  The first scan saved its cache and
found no source missing; the folder of the cache file was there, and its entry was no link to
a folder.  No folder has an entry named like the step upwards.  Then another scan with the
same options, on the same storage but from any working folder and with any spelling of the
root, has the same records, all of them hits, and leaves out the same sources, each of them
a miss. -/
theorem served_after_scan (t after : Tree) (settings : Settings) (request : Request)
    (spelling : Text) (report : Report)
    (hwell : t.WellFormed) (hnames : (".." : Text) ∉ t.root.allNames)
    (hscan : (scanProject t settings request).outcome = .ok report)
    (hsaved : report.saveError = none) (hmissing : report.result.missing = [])
    (hparent : t.isFolder (PathName.ofText report.cacheFile).parent.toText = .ok true)
    (hentry : ∀ folder name node, t.slot report.cacheFile = .ok (.entry folder name) →
      t.at? (folder ++ [name]) = some node → t.entryIsFolder folder name node = false)
    (hattributes : after.attributes = (scanProject t settings request).tree.attributes)
    (hroot : after.root = (scanProject t settings request).tree.root)
    (hforeign : ∀ place node, after.lookup true report.cacheFile = .ok (place, node) →
      Foreign after (PathName.ofText report.root) settings.extensionList
        request.withVersionFiles place)
    (hspelling : resolveRoot after spelling = .ok (PathName.ofText report.root)) :
    ∃ saveError, (scanProject after settings { request with root := spelling }).outcome =
      .ok ⟨report.root, report.cacheFile,
        ⟨report.result.records, report.result.records.length, report.result.failed.length, [],
          report.result.failed⟩, saveError⟩ := by
  obtain ⟨root, file, paths, h⟩ := reports_of_scanProject hscan
  obtain ⟨base, a, entries, hbase⟩ := (resolved_of_openRoot h.opened).2
  rw [h.rootText, PathName.ofText_toText (h.legal_root hwell)] at hforeign hspelling
  rw [h.fileText] at hparent hentry hforeign
  -- the storage has the cache file as its only new file
  obtain ⟨place, b, content, hrenews, hlookup, hbytes⟩ :=
    lookup_of_reports hwell h hsaved hparent hentry hattributes hroot
  have hforeign := hforeign _ _ hlookup
  have hload := load_congr hbytes (Tree.bytesOf_eq_ok_iff.mpr ⟨_, b, hlookup⟩)
  -- so the second scan finds the same root and the same sources
  have hsame : Tree.SameStart t after root.anchor := by
    rw [h.anchor_root]
    exact Tree.sameStart_root t after
  obtain ⟨c, entries', hbase', _⟩ := hrenews.lookup_folder (hsame root.names) hbase
  have hopened := openRoot_of_folder hspelling hbase'
  have hfound := discoverSources_of_renews hrenews hsame hbase hforeign h.found
  -- and the saved cache serves each of them
  have hserved := served_of_reports hwell hnames h hsaved hmissing hrenews
    (fun p hp => hforeign.away hfound hp) (fun p hp => h.start_source hsame hp) hbytes
  rw [← hload] at hserved
  have hlooks : Lookups (paths.map PathName.toText) (.start (SourceCache.load after file).outcome)
      (batchOf after { request with root := spelling } file paths) :=
    lookups_of_scanSources fun path hpath => (hserved path hpath).1
  have hresult := result_of_lookups (ended_of_scanSources h.noFault (h.result ▸ hmissing)) hlooks
    fun path hpath => (hserved path hpath).2
  have hsave : ∀ f, (SourceCache.save .never after
      (batchOf after { request with root := spelling } file paths).cache false).outcome ≠
        .broken f := by
    rw [hlooks.cache, Progress.start, hload]
    exact unbroken_of_reports h (h.legal_root hwell) hsaved hbytes hlookup
  obtain ⟨saveError, hreport⟩ := exists_report_of_unbroken { request with root := spelling } hopened
    hfound h.cacheFile hlooks.noFault hsave
  refine ⟨saveError, hreport.trans ?_⟩
  rw [hresult, h.rootText, h.fileText, h.result]
  rfl

/-! ### An instance -/

/-- A project with a source, one that is no text, and an unusable cache file. -/
def mixedTree : Tree :=
  { attributes := ⟨0o755, 0⟩
    root :=
      .folder "p" ⟨0o755, 0⟩
        (.file "a.js" ⟨0o644, 1000000000⟩ "/*@provideGoog*/".toUTF8.toList
          (.folder "q" ⟨0o755, 0⟩ (.file "b.js" ⟨0o644, 1000000000⟩ [0xff] .empty)
            (.file ".closuredepsignore" ⟨0o644, 0⟩ []
              (.file "cache.json" ⟨0o644, 0⟩ "7".toUTF8.toList .empty))))
        .empty
    working := []
    clock := 3000000000
    umask := 0o022 }

/-- A scan of the project. -/
def mixedRequest : Request := ⟨"p", some "cache.json", false, true⟩

/-- The report of a scan of the project, with so many hits and misses. -/
def mixedReport (hits misses : Nat) : Report :=
  ⟨"/p", "/p/cache.json",
    ⟨[⟨⟨"/p/a.js", ["goog"], [], false⟩, none⟩], hits, misses, [], ["/p/q/b.js"]⟩, none⟩

/-- The storage after the scan, seen from inside of the project. -/
def mixedAfter : Tree :=
  { (scanProject mixedTree ⟨none, none⟩ mixedRequest).tree with working := ["p"] }

/-- The scan after the first one has its source as a hit, and fails on the other one again. -/
theorem served_after_scan_sample :
    (scanProject mixedTree ⟨none, none⟩ mixedRequest).outcome = .ok (mixedReport 0 2) ∧
    ∃ saveError, (scanProject mixedAfter ⟨none, none⟩ { mixedRequest with root := "." }).outcome =
      .ok { mixedReport 1 1 with saveError := saveError } := by
  obtain ⟨hscan, hplace, hforeign, hspelling⟩ :
      (scanProject mixedTree ⟨none, none⟩ mixedRequest).outcome = .ok (mixedReport 0 2) ∧
      (mixedAfter.lookup true "/p/cache.json").map (·.1) = .ok ["p", "cache.json"] ∧
      Foreign mixedAfter (PathName.ofText "/p") (Settings.extensionList ⟨none, none⟩) false
        ["p", "cache.json"] ∧
      resolveRoot mixedAfter "." = .ok (PathName.ofText "/p") :=
    ⟨by with_unfolding_all rfl, by with_unfolding_all rfl,
      of_decide_eq_true (by with_unfolding_all rfl), by with_unfolding_all rfl⟩
  refine ⟨hscan, served_after_scan mixedTree mixedAfter ⟨none, none⟩ mixedRequest "."
    (mixedReport 0 2) (by decide) (by decide) hscan rfl rfl (by with_unfolding_all rfl)
    ?_ rfl rfl ?_ hspelling⟩
  · intro folder name node hslot hat
    have hentry : mixedTree.slot "/p/cache.json" = .ok (.entry ["p"] "cache.json") := by
      with_unfolding_all rfl
    cases hentry.symm.trans hslot
    have hfile : mixedTree.at? ["p", "cache.json"] =
        some (.file ⟨0o644, 0⟩ "7".toUTF8.toList) := by with_unfolding_all rfl
    cases hfile.symm.trans hat
    rfl
  · intro place node hlookup
    rw [show (mixedReport 0 2).cacheFile = "/p/cache.json" from rfl] at hlookup
    rw [hlookup] at hplace
    cases hplace
    exact hforeign

/-! ### A link to a folder under the cache file -/

/-- A project in which the way to the cache file goes by the link that the file replaces. -/
def selfLinkedTree : Tree :=
  { attributes := ⟨0o755, 0⟩
    root :=
      .folder "p" ⟨0o755, 0⟩
        (.file "a.js" ⟨0o644, 1000000000⟩ "/*@provideGoog*/".toUTF8.toList
          (.file ".closuredepsignore" ⟨0o644, 0⟩ []
            (.link "l" "." .empty)))
        .empty
    working := []
    clock := 3000000000
    umask := 0o022 }

/-- A scan of the project. -/
def selfLinkedRequest : Request := ⟨"p", some "l/l", false, true⟩

/-- The report of a scan of the project: its source is a miss. -/
def selfLinkedReport (saveError : Option Refusal) : Report :=
  ⟨"/p", "/p/l/l", ⟨[⟨⟨"/p/a.js", ["goog"], [], false⟩, none⟩], 0, 1, [], []⟩, saveError⟩

/-- The storage after the scan. -/
def selfLinkedAfter : Tree := (scanProject selfLinkedTree ⟨none, none⟩ selfLinkedRequest).tree

/-- Where the entry of the cache file was a link to a folder, the saved file may be out of
reach for the next scan, which finds no record and cannot save. -/
theorem unserved_after_link :
    (scanProject selfLinkedTree ⟨none, none⟩ selfLinkedRequest).outcome =
      .ok (selfLinkedReport none) ∧
    selfLinkedTree.isFolder (PathName.ofText (selfLinkedReport none).cacheFile).parent.toText =
      .ok true ∧
    selfLinkedAfter.leadsTo "/p/l" ["p", "l"] = true ∧
    Foreign selfLinkedAfter ⟨.root, ["p"]⟩ (Settings.extensionList ⟨none, none⟩) false ["p", "l"] ∧
    resolveRoot selfLinkedAfter selfLinkedRequest.root = .ok ⟨.root, ["p"]⟩ ∧
    (scanProject selfLinkedAfter ⟨none, none⟩ selfLinkedRequest).outcome =
      .ok (selfLinkedReport (some ⟨.exists, ["/p/l"]⟩)) :=
  ⟨by with_unfolding_all rfl, by with_unfolding_all rfl, by with_unfolding_all rfl,
    of_decide_eq_true (by with_unfolding_all rfl), by with_unfolding_all rfl,
    by with_unfolding_all rfl⟩

end GoogIndex.Scan
