/-
  Proofs/Scan/Project.lean --- what a scan with a report has done.

  A scan that ends with a report has opened its root, found the sources, gone through
  all of them with the loaded cache and tried to save the cache.  What the saved cache
  holds when it is loaded again follows from the save and from the batch before it.
-/
import GoogIndex.Proofs.Cache.Reload
import GoogIndex.Proofs.Scan.Batch
import GoogIndex.Proofs.Scan.Discovery
import GoogIndex.Proofs.Storage.Unwritten

set_option autoImplicit false

namespace GoogIndex.Scan

open GoogIndex.Cache GoogIndex.Storage

deriving instance DecidableEq for Report

/-! ## What depends on one file -/

/-- A record depends on the content behind the path only. -/
theorem recordOf_congr {t t' : Tree} {path : Text} {bytes : List UInt8}
    (h : t.bytesOf (PathName.ofText path).toText = .ok bytes)
    (h' : t'.bytesOf (PathName.ofText path).toText = .ok bytes) :
    recordOf t' path = recordOf t path := by
  unfold recordOf extractFile Tree.textOf
  rw [h, h']

/-- Two trees that agree on the content behind a path give the same record for it. -/
theorem recordOf_eq_of_bytesOf_iff {t t' : Tree} {path : Text}
    (h : ∀ bytes, t'.bytesOf (PathName.ofText path).toText = .ok bytes ↔
      t.bytesOf (PathName.ofText path).toText = .ok bytes) :
    recordOf t' path = recordOf t path := by
  cases hr : recordOf t path with
  | some r =>
      obtain ⟨bytes, hb⟩ := exists_bytesOf_of_recordOf hr
      rw [recordOf_congr hb ((h bytes).mpr hb), hr]
  | none =>
      cases hr' : recordOf t' path with
      | none => rfl
      | some r =>
          obtain ⟨bytes, hb⟩ := exists_bytesOf_of_recordOf hr'
          rw [← recordOf_congr hb ((h bytes).mp hb), hr] at hr'
          cases hr'

/-- A path that does not lead to a new file has the same record as before. -/
theorem recordOf_of_renews {s s' : Tree} {place : Location} (h : s.Renews s' place)
    {path : Text} (hstart : s'.start path = s.start path)
    (haway : s'.leadsTo path place = false) (hnormal : (PathName.ofText path).toText = path) :
    recordOf s' path = recordOf s path := by
  refine recordOf_eq_of_bytesOf_iff fun bytes => ?_
  rw [hnormal]
  exact h.bytesOf_iff hstart haway bytes

/-- A file with the same content is loaded as the same cache. -/
theorem load_congr {t t' : Tree} {file : Text} {bytes : List UInt8}
    (h : t.bytesOf file = .ok bytes) (h' : t'.bytesOf file = .ok bytes) :
    SourceCache.load t' file = SourceCache.load t file := by
  unfold SourceCache.load SourceCache.readValue Tree.textOf
  rw [Tree.canBeSeen_of_bytesOf h, Tree.canBeSeen_of_bytesOf h', h, h']

/-! ## The parts of a scan -/

/-- The batch of a scan: the sources go through the loaded cache. -/
def batchOf (t : Tree) (request : Request) (file : Text) (paths : List PathName) : Progress :=
  scanSources t false request.skipErrors (SourceCache.load t file).outcome
    (paths.map PathName.toText)

/-- Everything that a scan with a report has done. -/
structure Reports (t : Tree) (settings : Settings) (request : Request) (root : PathName)
    (file : Text) (paths : List PathName) (report : Report) : Prop where
  opened : openRoot t request.root = .ok root
  cacheFile : settings.cachePath root request.cacheFile = file
  found : discoverSources t root settings.extensionList request.withVersionFiles = .ok paths
  noFault : (batchOf t request file paths).fault = none
  rootText : report.root = root.toText
  fileText : report.cacheFile = file
  result : report.result = (batchOf t request file paths).result
  tree : (scanProject t settings request).tree =
    (SourceCache.save .never t (batchOf t request file paths).cache false).tree
  written : report.saveError = none →
    (SourceCache.save .never t (batchOf t request file paths).cache false).outcome = .written
  unbroken : ∀ f, (SourceCache.save .never t (batchOf t request file paths).cache false).outcome ≠
    .broken f

theorem scanProject_eq {t : Tree} {settings : Settings} {request : Request} {root : PathName}
    {paths : List PathName} (hroot : openRoot t request.root = .ok root)
    (hpaths : discoverSources t root settings.extensionList request.withVersionFiles = .ok paths)
    {file : Text} (hfile : settings.cachePath root request.cacheFile = file) :
    (scanProject t settings request).tree =
        (match (batchOf t request file paths).fault with
        | some _ => t
        | none => (conclude t root file (batchOf t request file paths)).tree) ∧
      (scanProject t settings request).outcome =
        match (batchOf t request file paths).fault with
        | some f => .error (.batch f)
        | none => (conclude t root file (batchOf t request file paths)).outcome := by
  unfold scanProject batchOf
  rw [hroot]
  simp only [hfile]
  rw [hpaths]
  simp only
  cases (scanSources t false request.skipErrors (SourceCache.load t file).outcome
    (paths.map PathName.toText)).fault with
  | some f => exact ⟨rfl, rfl⟩
  | none => exact ⟨rfl, rfl⟩

theorem reports_of_scanProject {t : Tree} {settings : Settings} {request : Request}
    {report : Report} (h : (scanProject t settings request).outcome = .ok report) :
    ∃ root file paths, Reports t settings request root file paths report := by
  cases hroot : openRoot t request.root with
  | error f =>
      unfold scanProject at h
      rw [hroot] at h
      cases h
  | ok root =>
      cases hpaths : discoverSources t root settings.extensionList request.withVersionFiles with
      | error f =>
          unfold scanProject at h
          rw [hroot] at h
          simp only [hpaths] at h
          cases h
      | ok paths =>
          generalize hfile : settings.cachePath root request.cacheFile = file
          obtain ⟨htree, houtcome⟩ := scanProject_eq hroot hpaths hfile
          refine ⟨root, file, paths, ?_⟩
          rw [houtcome] at h
          cases hfault : (batchOf t request file paths).fault with
          | some f =>
              rw [hfault] at h
              cases h
          | none =>
              rw [hfault] at h htree
              simp only [conclude] at h htree
              cases hsaved : (SourceCache.save .never t (batchOf t request file paths).cache
                  false).outcome with
              | written =>
                  rw [hsaved] at h htree
                  cases h
                  exact ⟨hroot, hfile, hpaths, hfault, rfl, rfl, rfl, htree, fun _ => hsaved,
                    fun f hf => by cases hsaved.symm.trans hf⟩
              | refused r =>
                  rw [hsaved] at h htree
                  cases h
                  exact ⟨hroot, hfile, hpaths, hfault, rfl, rfl, rfl, htree,
                    (fun hnone => by cases hnone), fun f hf => by cases hsaved.symm.trans hf⟩
              | broken f =>
                  rw [hsaved] at h
                  cases h

namespace Reports

variable {t : Tree} {settings : Settings} {request : Request} {root : PathName} {file : Text}
  {paths : List PathName} {report : Report}

theorem legal_root (h : Reports t settings request root file paths report) (ht : t.WellFormed) :
    root.Legal := legal_of_openRoot ht h.opened

theorem anchor_root (h : Reports t settings request root file paths report) :
    root.anchor = .root := by
  rw [(resolved_of_openRoot h.opened).1]

/-- The path of the cache file is in normal form. -/
theorem normal_file (h : Reports t settings request root file paths report)
    (hlegal : root.Legal) : (PathName.ofText file).toText = file := by
  rw [← h.cacheFile]
  exact normal_cachePath settings hlegal request.cacheFile

theorem absolute_file (h : Reports t settings request root file paths report)
    (hlegal : root.Legal) : (PathName.ofText file).isAbsolute = true := by
  rw [← h.cacheFile]
  exact isAbsolute_cachePath settings hlegal h.anchor_root request.cacheFile

/-- The sources are in normal form. -/
theorem normal_source (h : Reports t settings request root file paths report) (ht : t.WellFormed)
    {p : PathName} (hp : p ∈ paths) : PathName.ofText p.toText = p :=
  normal_of_mem_discoverSources ht (h.legal_root ht) h.found hp

/-- A source starts where the root does. -/
theorem start_source (h : Reports t settings request root file paths report) {s : Tree}
    (hsame : Tree.SameStart t s root.anchor) {p : PathName} (hp : p ∈ paths) :
    s.start p.toText = t.start p.toText := by
  obtain ⟨spec, _, hpaths⟩ := names_of_discoverSources h.found
  obtain ⟨names, _, rfl⟩ := exists_names_of_mem_discover (hpaths ▸ hp)
  exact hsame _

end Reports

/-- A scan whose batch comes to its end, and whose save does not break, has a report. -/
theorem exists_report_of_unbroken {t : Tree} {settings : Settings} (request : Request)
    {root : PathName} {paths : List PathName} (hroot : openRoot t request.root = .ok root)
    (hpaths : discoverSources t root settings.extensionList request.withVersionFiles = .ok paths)
    {file : Text} (hfile : settings.cachePath root request.cacheFile = file)
    (hfault : (batchOf t request file paths).fault = none)
    (hsave : ∀ f, (SourceCache.save .never t (batchOf t request file paths).cache false).outcome ≠
      .broken f) :
    ∃ saveError, (scanProject t settings request).outcome =
      .ok ⟨root.toText, file, (batchOf t request file paths).result, saveError⟩ := by
  obtain ⟨_, houtcome⟩ := scanProject_eq hroot hpaths hfile
  rw [hfault] at houtcome
  simp only [conclude] at houtcome
  cases hsaved : (SourceCache.save .never t (batchOf t request file paths).cache false).outcome with
  | written =>
      rw [hsaved] at houtcome
      exact ⟨none, houtcome⟩
  | refused r =>
      rw [hsaved] at houtcome
      exact ⟨some r, houtcome⟩
  | broken f => exact absurd hsaved (hsave f)

/-- The cache of the batch of a scan is one that calls on the loaded cache lead to. -/
theorem cache_batchOf (t : Tree) (request : Request) (file : Text) (paths : List PathName) :
    (batchOf t request file paths).cache =
      (SourceCache.load t file).outcome.afterAll [.batch request.skipErrors
        ((paths.map PathName.toText).map fun path => (path, Sight.ofTree t false))] := by
  rw [batchOf, scanSources]
  generalize (SourceCache.load t file).outcome = c
  rfl

theorem keyed_batchOf (t : Tree) (request : Request) (file : Text) (paths : List PathName) :
    (batchOf t request file paths).cache.Keyed := by
  rw [cache_batchOf]
  exact SourceCache.keyed_afterAll t file _

theorem file_batchOf (t : Tree) (request : Request) (file : Text) (paths : List PathName) :
    (batchOf t request file paths).cache.file = file := by
  rw [cache_batchOf]
  exact SourceCache.file_afterAll t file _

theorem legible_batchOf (t : Tree) (request : Request) (file : Text) (paths : List PathName) :
    (batchOf t request file paths).cache.Legible :=
  legible_scanSources (SourceCache.legible_load t file) _

/-! ## The cache that was saved -/

/-- A saved cache that can be seen holds, for each path with a time, what the batch left
for it. -/
theorem load_of_reports {t : Tree} {settings : Settings} {request : Request} {root : PathName}
    {file : Text} {paths : List PathName} {report : Report}
    (h : Reports t settings request root file paths report) (hsaved : report.saveError = none)
    {bytes : List UInt8} (hbytes : (scanProject t settings request).tree.bytesOf file = .ok bytes)
    (path : Text) :
    let batch := batchOf t request file paths
    let again := (SourceCache.load (scanProject t settings request).tree file).outcome
    again.sources.get? path = ((t.modifiedMillis path).toOption.bind fun _ =>
      (batch.cache.sources.get? path).map fun r => { r with path := path }) ∧
    again.stamps.get? path = (t.modifiedMillis path).toOption.bind fun time =>
      (batch.cache.sources.get? path).map fun _ => .whole time := by
  intro batch again
  have hfile := file_batchOf t request file paths
  have hload : again = SourceCache.ofLive file
      (liveRows t.modifiedMillis batch.cache.sources.rows) := by
    have hseen : (SourceCache.save .never t batch.cache false).tree.bytesOf batch.cache.file =
        .ok bytes := by
      rw [hfile, ← h.tree]
      exact hbytes
    have hcache := SourceCache.load_of_save (keyed_batchOf t request file paths)
      ((legible_batchOf t request file paths).live _) (h.written hsaved) hseen
    rw [hfile, ← h.tree] at hcache
    exact congrArg Reported.outcome hcache
  rw [hload]
  exact ⟨SourceCache.get?_sources_ofLive file _ _ path,
    SourceCache.get?_stamps_ofLive file _ _ path⟩

/-! ## The cache that was not saved -/

/-- A save that fails gives the file no content. -/
theorem bytesOf_of_unsaved {interrupt : Interruption} {t : Tree} {c : SourceCache}
    {handled : Bool} (h : (SourceCache.save interrupt t c handled).outcome ≠ .written)
    (hup : (".." : Text) ∉ (PathName.ofText c.file).names) {bytes : List UInt8}
    (hbytes : (SourceCache.save interrupt t c handled).tree.bytesOf c.file = .ok bytes) :
    t.bytesOf c.file = .ok bytes := by
  unfold SourceCache.save at h hbytes
  cases hs : c.snapshot t.modifiedMillis with
  | error f =>
      rw [hs] at hbytes
      exact hbytes
  | ok entries =>
      simp only [hs] at h hbytes
      cases ho : (t.writeFile interrupt (Json.obj entries).write c.file).outcome with
      | written =>
          rw [ho] at h
          exact absurd rfl h
      | refused r =>
          rw [ho] at hbytes
          exact Tree.bytesOf_of_unwritten (ho ▸ WriteOutcome.noConfusion) hup hbytes
      | broken f =>
          rw [ho] at hbytes
          exact Tree.bytesOf_of_unwritten (ho ▸ WriteOutcome.noConfusion) hup hbytes

/-- Nor does a scan that has no report, or one that tells of a failed save. -/
theorem bytesOf_of_unsaved_scan {t : Tree} {settings : Settings} {request : Request}
    {file : Text} (hfile : ∀ root, openRoot t request.root = .ok root →
      settings.cachePath root request.cacheFile = file)
    (h : ∀ report, (scanProject t settings request).outcome = .ok report →
      report.saveError ≠ none)
    (hup : (".." : Text) ∉ (PathName.ofText file).names) {bytes : List UInt8}
    (hbytes : (scanProject t settings request).tree.bytesOf file = .ok bytes) :
    t.bytesOf file = .ok bytes := by
  cases hroot : openRoot t request.root with
  | error f =>
      unfold scanProject at hbytes
      rw [hroot] at hbytes
      exact hbytes
  | ok root =>
      cases hpaths : discoverSources t root settings.extensionList request.withVersionFiles with
      | error f =>
          unfold scanProject at hbytes
          rw [hroot] at hbytes
          simp only [hpaths] at hbytes
          exact hbytes
      | ok paths =>
          obtain ⟨htree, houtcome⟩ := scanProject_eq hroot hpaths (hfile root hroot)
          rw [htree] at hbytes
          cases hfault : (batchOf t request file paths).fault with
          | some f =>
              rw [hfault] at hbytes
              exact hbytes
          | none =>
              rw [hfault] at hbytes houtcome
              simp only [conclude] at hbytes houtcome
              have hnot : (SourceCache.save .never t (batchOf t request file paths).cache
                  false).outcome ≠ .written := by
                intro hwritten
                rw [hwritten] at houtcome
                exact h _ houtcome rfl
              have hsame := file_batchOf t request file paths
              rw [← hsame] at hup
              refine hsame ▸ bytesOf_of_unsaved hnot hup ?_
              rw [hsame]
              split at hbytes <;> exact hbytes

end GoogIndex.Scan
