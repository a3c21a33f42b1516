/-
  Proofs/Scan/History.lean --- scans that share a cache file, with edits between them.

  Normative source: SPEC_FULL §1, whether a record is still trustworthy; §11.

  A record in the cache file is backed by a moment: the path had the entry's time then,
  and extraction gave the record.  If a time stands for one text of a path, a backed
  record that is fresh is right.  A scan that saves writes every loaded record with the
  present time, also those that it has not looked at.  So what it leaves out has to be
  right at that moment; if it is not, the next scan that finds the source serves the
  outdated record.
-/
import GoogIndex.Proofs.Scan.Project

set_option autoImplicit false

namespace GoogIndex.Scan

open GoogIndex.Cache GoogIndex.Storage

/-! ## Histories -/

/-- A scan at its moment. -/
structure Run where
  tree : Tree
  settings : Settings
  request : Request
  deriving Repr, Inhabited

namespace Run

/-- What the scan does. -/
def done (s : Run) : Ran (Except ProjectFault Report) := scanProject s.tree s.settings s.request

/-- Whether the scan ends with a report and has saved its cache. -/
def saves (s : Run) : Bool :=
  match s.done.outcome with
  | .ok report => report.saveError.isNone
  | .error _ => false

/-- The scan leaves failing sources out, and its cache file is this one. -/
structure Uses (file : Text) (s : Run) : Prop where
  skipErrors : s.request.skipErrors = true
  cacheFile : ∀ root, openRoot s.tree s.request.root = .ok root →
    s.settings.cachePath root s.request.cacheFile = file

/-- The sources that the scan finds. -/
def Finds (s : Run) (paths : List PathName) : Prop :=
  ∃ root, openRoot s.tree s.request.root = .ok root ∧
    discoverSources s.tree root s.settings.extensionList s.request.withVersionFiles = .ok paths

/-- A scan leaves a record out if the record was loaded, its path can be asked for a time,
and the path is none of the sources. -/
structure LeavesOut (file : Text) (s : Run) (path : Text) (r : Record) (time : Int) : Prop where
  loaded : (SourceCache.load s.tree file).outcome.sources.get? path = some r
  modified : s.tree.modifiedMillis path = .ok time
  notFound : ∀ paths, s.Finds paths → path ∉ paths.map PathName.toText

end Run

/-- A step of a history: the tree is edited in any way, or a scan is made. -/
inductive Step where
  | edit (t : Tree)
  | scan (settings : Settings) (request : Request)
  deriving Inhabited

namespace Step

/-- The tree after a step. -/
def after (t : Tree) : Step → Tree
  | .edit t' => t'
  | .scan settings request => (scanProject t settings request).tree

/-- The scan that a step makes. -/
def runs (t : Tree) : Step → List Run
  | .edit _ => []
  | .scan settings request => [⟨t, settings, request⟩]

end Step

/-- The scans of a history, each with the tree that it starts in. -/
def runsOf : Tree → List Step → List Run
  | _, [] => []
  | t, step :: rest => step.runs t ++ runsOf (step.after t) rest

/-- What can be read in a file afterwards could be read in it before. -/
def KeepsFile (file : Text) (t t' : Tree) : Prop :=
  ∀ bytes, t'.bytesOf file = .ok bytes → t.bytesOf file = .ok bytes

/-- An edit gives the file no content.  The same is asked of a scan that does not save only
if the path of the file has a step upwards: such a path may come by a folder that the scan
has made. -/
def Step.Spares (file : Text) (t : Tree) : Step → Prop
  | .edit t' => KeepsFile file t t'
  | .scan settings request => (".." : Text) ∈ (PathName.ofText file).names →
      Run.saves ⟨t, settings, request⟩ = false →
        KeepsFile file t (scanProject t settings request).tree

/-- Nothing but the scans that save gives the file a content. -/
def OnlySaved (file : Text) : Tree → List Step → Prop
  | _, [] => True
  | t, step :: rest => step.Spares file t ∧ OnlySaved file (step.after t) rest

/-- The text that extraction reads for a path. -/
def textFor (t : Tree) (path : Text) : Except ReadFault String :=
  t.textOf (PathName.ofText path).toText

/-- A source that one of the scans finds has a text of its own for each of its times. -/
def Identified (runs : List Run) : Prop :=
  ∀ s ∈ runs, ∀ paths, s.Finds paths → ∀ p ∈ paths, ∀ s' ∈ runs, ∀ time,
    s.tree.modifiedMillis p.toText = .ok time → s'.tree.modifiedMillis p.toText = .ok time →
      textFor s.tree p.toText = textFor s'.tree p.toText

theorem Identified.mono {runs more : List Run} (h : Identified more) (hsub : runs ⊆ more) :
    Identified runs := fun s hs paths hfinds p hp s' hs' =>
  h s (hsub hs) paths hfinds p hp s' (hsub hs')

/-! ## What a cache file says -/

theorem recordOf_of_textFor {t t' : Tree} {path : Text} (h : textFor t path = textFor t' path) :
    recordOf t path = recordOf t' path := by
  unfold textFor at h
  unfold recordOf extractFile
  rw [h]

/-- A file that cannot be read is loaded as an empty cache. -/
theorem load_of_unreadable {t : Tree} {file : Text} {f : Fault} (h : t.bytesOf file = .error f) :
    (SourceCache.load t file).outcome = .empty file := by
  unfold SourceCache.load SourceCache.readValue Tree.textOf
  rw [h]
  split <;> rfl

/-- Every record with a time was right at the moment of one of these scans, and had that
time then. -/
def Backed (file : Text) (past : List Run) (t : Tree) : Prop :=
  ∀ path s r, (SourceCache.load t file).outcome.stamps.get? path = some s →
    (SourceCache.load t file).outcome.sources.get? path = some r →
    ∃ b ∈ past, ∃ time, b.tree.modifiedMillis path = .ok time ∧ s = .whole time ∧
      recordOf b.tree path = some r

section backed

variable {file : Text} {past : List Run}

theorem backed_of_unreadable {t : Tree} {f : Fault} (h : t.bytesOf file = .error f) :
    Backed file past t := by
  intro path s r hs _
  rw [load_of_unreadable h] at hs
  cases hs

theorem backed_of_keepsFile {t t' : Tree} (h : Backed file past t)
    (hkeeps : KeepsFile file t t') : Backed file past t' := by
  cases hbytes : t'.bytesOf file with
  | error f => exact backed_of_unreadable hbytes
  | ok bytes =>
      intro path s r hs hr
      rw [load_congr (hkeeps bytes hbytes) hbytes] at hs hr
      exact h path s r hs hr

theorem Backed.mono {more : List Run} {t : Tree} (h : Backed file past t) (hmore : past ⊆ more) :
    Backed file more t := by
  intro path s r hs hr
  obtain ⟨b, hb, hbacked⟩ := h path s r hs hr
  exact ⟨b, hmore hb, hbacked⟩

/-- A backed cache is accurate for a path whose texts are told apart by their times. -/
theorem accurate_of_backed {t : Tree} (h : Backed file past t) {path : Text}
    (hident : ∀ b ∈ past, ∀ time, t.modifiedMillis path = .ok time →
      b.tree.modifiedMillis path = .ok time → textFor t path = textFor b.tree path) :
    Accurate t (SourceCache.load t file).outcome path := by
  intro r time hr htime hfresh
  obtain ⟨s, hs, hmillis⟩ := SourceCache.isFresh_iff.mp hfresh
  obtain ⟨b, hb, earlier, hearlier, rfl, hrecord⟩ := h path s r hs hr
  have hsame : earlier = time := by simpa [Stamp.isMillis] using hmillis
  subst hsame
  rw [recordOf_of_textFor (hident b hb earlier htime hearlier), hrecord]

end backed

/-! ## One scan -/

namespace Run

variable {file : Text} {s : Run}

/-- The records that the scan reports are those that extraction gives. -/
def Right (s : Run) : Prop :=
  ∀ report, s.done.outcome = .ok report → ∀ e ∈ report.result.records,
    (extractFile s.tree e.record.path false).outcome = .ok e

/-- The scan leaves out only records that extraction would still give. -/
def LeavesOutRight (file : Text) (s : Run) : Prop :=
  ∀ path r time, s.LeavesOut file path r time → recordOf s.tree path = some r

/-- Everything that a scan with a report has done, with the cache file of the history. -/
theorem reports_of_done (huses : s.Uses file) {report : Report}
    (h : s.done.outcome = .ok report) :
    ∃ root paths, Reports s.tree s.settings s.request root file paths report ∧ s.Finds paths := by
  obtain ⟨root, file', paths, hreports⟩ := reports_of_scanProject h
  have hfile := (huses.cacheFile root hreports.opened).symm.trans hreports.cacheFile
  subst hfile
  exact ⟨root, paths, hreports, root, hreports.opened, hreports.found⟩

theorem finds_unique {paths paths' : List PathName} (h : s.Finds paths) (h' : s.Finds paths') :
    paths' = paths := by
  obtain ⟨root, hroot, hpaths⟩ := h
  obtain ⟨root', hroot', hpaths'⟩ := h'
  cases hroot.symm.trans hroot'
  cases hpaths.symm.trans hpaths'
  rfl

theorem exists_report_of_saves (h : s.saves = true) :
    ∃ report, s.done.outcome = .ok report ∧ report.saveError = none := by
  unfold saves at h
  split at h
  · rename_i report hreport
    exact ⟨report, hreport, Option.isNone_iff_eq_none.mp h⟩
  · cases h

theorem saves_of_outcome {report : Report} (h : s.done.outcome = .ok report)
    (hsaved : report.saveError = none) : s.saves = true := by
  unfold saves
  rw [h]
  exact Option.isNone_iff_eq_none.mpr hsaved

/-- A scan that does not save gives the file no content, unless its path has a step
upwards. -/
theorem keepsFile_of_unsaved (huses : s.Uses file) (hnot : s.saves = false)
    (hup : (".." : Text) ∉ (PathName.ofText file).names) : KeepsFile file s.tree s.done.tree := by
  intro bytes hbytes
  refine bytesOf_of_unsaved_scan huses.cacheFile (fun report hreport hnone => ?_) hup hbytes
  cases hnot.symm.trans (saves_of_outcome hreport hnone)

/-- The batch of a scan with an accurate cache is sound. -/
theorem sound_of_reports (huses : s.Uses file) {root : PathName} {paths : List PathName}
    {report : Report} (h : Reports s.tree s.settings s.request root file paths report)
    (hacc : ∀ p ∈ paths, Accurate s.tree (SourceCache.load s.tree file).outcome p.toText) :
    Sound s.tree (paths.map PathName.toText)
      (.start (SourceCache.load s.tree file).outcome) (batchOf s.tree s.request file paths) := by
  have hfault := h.noFault
  unfold batchOf at hfault ⊢
  rw [huses.skipErrors] at hfault ⊢
  refine (sound_of_scanSources ?_ hfault).1
  intro path hpath
  obtain ⟨p, hp, rfl⟩ := List.mem_map.mp hpath
  exact hacc p hp

/-- A scan whose cache is accurate for its sources reports what extraction gives. -/
theorem right_of_accurate (huses : s.Uses file)
    (hacc : ∀ paths, s.Finds paths → ∀ p ∈ paths,
      Accurate s.tree (SourceCache.load s.tree file).outcome p.toText) : s.Right := by
  intro report hreport e he
  obtain ⟨root, paths, hreports, hfinds⟩ := reports_of_done huses hreport
  have hsound := sound_of_reports huses hreports (hacc paths hfinds)
  rw [hreports.result] at he
  rcases hsound.records e he with hnone | ⟨path, _, hrecord, htree⟩
  · cases hnone
  · rw [path_of_recordOf hrecord, recordOf_eq_some_iff.mp hrecord, ← htree]

/-- A scan whose cache is accurate for its sources, and that leaves out right records only,
saves records that are backed by its own moment. -/
theorem backed_of_saves (huses : s.Uses file) (hsaves : s.saves = true)
    (hacc : ∀ paths, s.Finds paths → ∀ p ∈ paths,
      Accurate s.tree (SourceCache.load s.tree file).outcome p.toText)
    (hright : s.LeavesOutRight file) : Backed file [s] s.done.tree := by
  cases hbytes : s.done.tree.bytesOf file with
  | error f => exact backed_of_unreadable hbytes
  | ok bytes =>
      obtain ⟨report, hreport, hsaved⟩ := exists_report_of_saves hsaves
      obtain ⟨root, paths, hreports, hfinds⟩ := reports_of_done huses hreport
      have hsound := sound_of_reports huses hreports (hacc paths hfinds)
      intro path stamp r hstamp hr
      obtain ⟨hsources, hstamps⟩ := load_of_reports hreports hsaved hbytes path
      rw [done, hstamps] at hstamp
      rw [done, hsources] at hr
      cases htime : s.tree.modifiedMillis path with
      | error f =>
          rw [htime] at hr
          cases hr
      | ok time =>
          cases hkept : (batchOf s.tree s.request file paths).cache.sources.get? path with
          | none =>
              rw [htime, hkept] at hr
              cases hr
          | some r₀ =>
              rw [htime, hkept] at hr hstamp
              cases hr
              cases hstamp
              have hrecord : recordOf s.tree path = some r₀ := by
                by_cases hpath : path ∈ paths.map PathName.toText
                · rcases hsound.seen path hpath with hnone | hseen
                  · rw [hnone] at hkept
                    cases hkept
                  · rw [← hseen, hkept]
                · -- the record was left out and is written back as it was
                  refine hright path r₀ time ⟨?_, htime, ?_⟩
                  · rw [← hkept]
                    exact (hsound.others path hpath).1.symm
                  · intro paths' hfinds'
                    rw [finds_unique hfinds hfinds']
                    exact hpath
              have hsame : ({ r₀ with path := path } : Record) = r₀ := by
                rw [← path_of_recordOf hrecord]
              exact ⟨s, List.mem_cons_self, time, htime, rfl,
                hrecord.trans (congrArg some hsame.symm)⟩

/-! ### What follows a record that was left out -/

/-- A record that a saving scan leaves out is served by the next scan that finds its source
at the same time, right or not. -/
theorem served_of_leavesOut (huses : s.Uses file) (hsaves : s.saves = true) {path : Text}
    {r : Record} {time : Int} (hout : s.LeavesOut file path r time) {next : Run}
    (hnext : next.Uses file) {bytes : List UInt8} (hbytes : s.done.tree.bytesOf file = .ok bytes)
    (hkept : next.tree.bytesOf file = .ok bytes)
    (htime : next.tree.modifiedMillis path = .ok time) {paths : List PathName}
    (hfinds : next.Finds paths) (hpath : path ∈ paths.map PathName.toText) {report : Report}
    (hreport : next.done.outcome = .ok report) : ⟨r, none⟩ ∈ report.result.records := by
  obtain ⟨before, hbefore, hsaved⟩ := exists_report_of_saves hsaves
  obtain ⟨root, found, hreports, hfound⟩ := reports_of_done huses hbefore
  obtain ⟨hsources, hstamps⟩ := load_of_reports hreports hsaved hbytes path
  -- the batch has not touched the record
  have hsame : (batchOf s.tree s.request file found).cache.sources.get? path = some r := by
    rw [← hout.loaded]
    exact (sameFor_scanSources _ _ _ (hout.notFound found hfound)).1
  have hpathname : ({ r with path := path } : Record) = r := by
    rw [← SourceCache.path_of_load hout.loaded]
  rw [hout.modified, hsame] at hsources hstamps
  obtain ⟨root', paths', hreports', hfinds'⟩ := reports_of_done hnext hreport
  cases finds_unique hfinds hfinds'
  have hfault := hreports'.noFault
  have hload : (SourceCache.load next.tree file).outcome =
      (SourceCache.load s.done.tree file).outcome := by rw [load_congr hbytes hkept]
  rw [hreports'.result]
  unfold batchOf at hfault ⊢
  rw [hload] at hfault ⊢
  refine mem_records_of_fresh hpath (hsources.trans (congrArg some hpathname)) htime ?_ hfault
  exact SourceCache.isFresh_iff.mpr ⟨_, hstamps, by simp [Stamp.isMillis]⟩

end Run

/-! ## Whole histories -/

/-- Every scan of a history is right, if the cache file is backed at its start and every
saving scan leaves out right records only. -/
theorem right_of_steps {file : Text} {steps : List Step} {t : Tree} {past : List Run}
    (hbacked : Backed file past t) (hsaved : OnlySaved file t steps)
    (huses : ∀ s ∈ runsOf t steps, s.Uses file) (hident : Identified (past ++ runsOf t steps))
    (hright : ∀ s ∈ runsOf t steps, s.saves = true → s.LeavesOutRight file) :
    ∀ s ∈ runsOf t steps, s.Right := by
  induction steps generalizing t past with
  | nil => exact fun s hs => by cases hs
  | cons step rest ih =>
      obtain ⟨hspares, hrest⟩ := hsaved
      cases step with
      | edit t' =>
          exact ih (backed_of_keepsFile hbacked hspares) hrest huses hident hright
      | scan settings request =>
          let s : Run := ⟨t, settings, request⟩
          have hmem : s ∈ runsOf t (.scan settings request :: rest) := List.mem_cons_self
          have hacc : ∀ paths, s.Finds paths → ∀ p ∈ paths,
              Accurate t (SourceCache.load t file).outcome p.toText := by
            intro paths hfinds p hp
            refine accurate_of_backed hbacked fun b hb time htime htime' => ?_
            exact hident s (List.mem_append_right past hmem) paths hfinds p hp b
              (List.mem_append_left _ hb) time htime htime'
          have hafter : Backed file (past ++ [s]) s.done.tree := by
            cases hsaves : s.saves with
            | true =>
                exact (Run.backed_of_saves (huses s hmem) hsaves hacc (hright s hmem hsaves)).mono
                  (List.subset_append_right past [s])
            | false =>
                refine (backed_of_keepsFile hbacked ?_).mono (List.subset_append_left past [s])
                by_cases hup : (".." : Text) ∈ (PathName.ofText file).names
                · exact hspares hup hsaves
                · exact Run.keepsFile_of_unsaved (huses s hmem) hsaves hup
          have hall : past ++ runsOf t (.scan settings request :: rest) =
              (past ++ [s]) ++ runsOf s.done.tree rest := by
            rw [List.append_assoc]
            rfl
          rw [hall] at hident
          intro s' hs'
          rcases List.mem_cons.mp hs' with rfl | hs'
          · exact Run.right_of_accurate (huses s hmem) hacc
          · exact ih hafter hrest (fun b hb => huses b (List.mem_cons_of_mem s hb)) hident
              (fun b hb => hright b (List.mem_cons_of_mem s hb)) s' hs'

/-- Histories of edits and scans with one cache file, which is not there at the start; only
scans give it a content, and each source has a text of its own for each of its times.  If
every scan that saves leaves out only records that extraction would still give, then every
scan reports exactly what extraction gives.  And that is needed: if a saving scan leaves an
outdated record out, then the next scan that finds the source with its time and its text
unchanged reports the outdated record. -/
theorem sound_of_history (file : Text) (start : Tree) (steps : List Step)
    (hstart : start.canBeSeen file = false) (hsaved : OnlySaved file start steps)
    (huses : ∀ s ∈ runsOf start steps, s.Uses file) (hident : Identified (runsOf start steps)) :
    ((∀ s ∈ runsOf start steps, s.saves = true → s.LeavesOutRight file) →
      ∀ s ∈ runsOf start steps, s.Right) ∧
    (∀ s ∈ runsOf start steps, s.saves = true →
      ∀ path r time, s.LeavesOut file path r time → recordOf s.tree path ≠ some r →
      ∀ next : Run, next.Uses file →
      ∀ bytes, s.done.tree.bytesOf file = .ok bytes → next.tree.bytesOf file = .ok bytes →
      next.tree.modifiedMillis path = .ok time → textFor next.tree path = textFor s.tree path →
      ∀ paths, next.Finds paths → path ∈ paths.map PathName.toText →
      ∀ report, next.done.outcome = .ok report →
        ∃ e ∈ report.result.records, e.record.path = path ∧
          (extractFile next.tree path false).outcome ≠ .ok e) := by
  have hbacked : Backed file [] start := by
    cases hbytes : start.bytesOf file with
    | error f => exact backed_of_unreadable hbytes
    | ok bytes =>
        rw [Tree.canBeSeen_of_bytesOf hbytes] at hstart
        cases hstart
  refine ⟨right_of_steps hbacked hsaved huses hident, ?_⟩
  intro s hs hsaves path r time hout houtdated next hnext bytes hbytes hkept htime htext paths
    hfinds
    hpath report hreport
  refine ⟨⟨r, none⟩, Run.served_of_leavesOut (huses s hs) hsaves hout hnext hbytes hkept htime
    hfinds
    hpath hreport, SourceCache.path_of_load hout.loaded, ?_⟩
  intro he
  rw [← recordOf_of_textFor htext] at houtdated
  exact houtdated (recordOf_eq_some_iff.mpr he)

/-! ### A source that is left out while it is edited -/

/-- The record of an empty source, with this time. -/
def sharedCacheText (time : String) : String :=
  "\x7b\"/src/a.js\": \x7b\"isModule\": false, \"modifiedDates\": " ++ time ++
    ", \"provides\": [], \"requires\": []\x7d\x7d"

/-- A cache file with the record of an empty source. -/
def sharedCache (time : String) : Folder :=
  .file "cache.json" ⟨0o644, 0⟩ (sharedCacheText time).toUTF8.toList .empty

/-- Two folders with ignore files of their own, one of them with a source. -/
def sharedTree (js : String) (time : FileTime) (cache : Folder) : Tree :=
  let ignore := Folder.file ".closuredepsignore" ⟨0o644, 0⟩ [] .empty
  { attributes := ⟨0o755, 0⟩
    root :=
      .folder "src" ⟨0o755, 0⟩ (.file "a.js" ⟨0o644, time⟩ js.toUTF8.toList ignore)
        (.folder "lib" ⟨0o755, 0⟩ ignore cache)
    working := []
    clock := 0
    umask := 0o022 }

/-- The source is empty, and there is no cache file yet. -/
def sharedStart : Tree := sharedTree "" 1000000000 .empty

/-- The source is edited; the cache file has the record of the empty source. -/
def sharedEdited (time : String) : Tree :=
  sharedTree "/*@provideGoog*/" 2000000000 (sharedCache time)

theorem canBeSeen_sharedStart : sharedStart.canBeSeen "/cache.json" = false := rfl

/-- A scan of one of the folders. -/
def sharedScan (root : Text) : Step :=
  .scan ⟨none, none⟩ ⟨root, some "/cache.json", false, true⟩

def sharedRun (t : Tree) (root : Text) : Run :=
  ⟨t, ⟨none, none⟩, ⟨root, some "/cache.json", false, true⟩⟩

/-- The scans that are made below. -/
def sharedRuns : List Run :=
  [sharedRun sharedStart "src", sharedRun (sharedEdited "1000") "lib",
    sharedRun (sharedEdited "1000") "src", sharedRun (sharedEdited "2000") "src"]

/-- What stands in the source at its two times. -/
def sharedText (time : Int) : String := if time = 1000 then "" else "/*@provideGoog*/"

/-- The sources in one of the folders. -/
def sharedSources (root : Text) : List PathName :=
  if root = "src" then [⟨.root, ["src", "a.js"]⟩] else []

theorem toText_of_sharedSources {root : Text} {p : PathName} (h : p ∈ sharedSources root) :
    p.toText = "/src/a.js" := by
  unfold sharedSources at h
  split at h
  · cases List.mem_singleton.mp h
    rfl
  · cases h

/-- The report of a scan with the record of the empty source. -/
def sharedReport : Report :=
  ⟨"/src", "/cache.json", ⟨[⟨⟨"/src/a.js", [], [], false⟩, none⟩], 1, 0, [], []⟩, none⟩

/-- Each scan finds the source where it scans the folder of the source, and nothing where it
scans the other one. -/
theorem finds_sharedRuns : ∀ s ∈ sharedRuns,
    openRoot s.tree s.request.root = .ok ⟨.root, [s.request.root]⟩ ∧
      discoverSources s.tree ⟨.root, [s.request.root]⟩ s.settings.extensionList
        s.request.withVersionFiles = .ok (sharedSources s.request.root) := by decide +kernel

/-- The scans share the cache file, and skip sources they cannot extract. -/
theorem cachePath_sharedRuns : ∀ s ∈ sharedRuns,
    s.settings.cachePath ⟨.root, [s.request.root]⟩ s.request.cacheFile = "/cache.json" ∧
      s.request.skipErrors = true := by decide +kernel

/-- The time of the source decides its text. -/
theorem textFor_sharedRuns : ∀ s ∈ sharedRuns,
    ∃ time ∈ [(1000 : Int), 2000], s.tree.modifiedMillis "/src/a.js" = .ok time ∧
      textFor s.tree "/src/a.js" = .ok (sharedText time) := by decide +kernel

theorem sharedRuns_finds {s : Run} (hs : s ∈ sharedRuns) :
    s.Finds (sharedSources s.request.root) :=
  ⟨_, finds_sharedRuns s hs⟩

theorem sharedRuns_uses : ∀ s ∈ sharedRuns, s.Uses "/cache.json" := by
  intro s hs
  obtain ⟨hfile, hskip⟩ := cachePath_sharedRuns s hs
  refine ⟨hskip, fun root hroot => ?_⟩
  cases (finds_sharedRuns s hs).1.symm.trans hroot
  exact hfile

theorem sharedRuns_identified : Identified sharedRuns := by
  intro s hs paths hfinds p hp s' hs' time htime htime'
  obtain ⟨time₁, _, hmodified, htext⟩ := textFor_sharedRuns s hs
  obtain ⟨time₂, _, hmodified', htext'⟩ := textFor_sharedRuns s' hs'
  cases Run.finds_unique hfinds (sharedRuns_finds hs)
  rw [toText_of_sharedSources hp] at htime htime' ⊢
  cases hmodified.symm.trans htime
  cases hmodified'.symm.trans htime'
  rw [htext, htext']

/-- The first scan saves the record of the empty source. -/
theorem done_sharedStart :
    (sharedRun sharedStart "src").done.tree = sharedTree "" 1000000000 (sharedCache "1000") := by
  decide +kernel

theorem bytesOf_sharedTree (js : String) (time : FileTime) (cache : String) :
    (sharedTree js time (sharedCache cache)).bytesOf "/cache.json" =
      .ok (sharedCacheText cache).toUTF8.toList := by
  rfl

/-- The edit leaves the cache file alone. -/
theorem keepsFile_sharedEdited :
    KeepsFile "/cache.json" (sharedRun sharedStart "src").done.tree (sharedEdited "1000") := by
  intro bytes hbytes
  have hdone := congrArg (fun t => t.bytesOf "/cache.json") done_sharedStart
  exact hdone.trans ((bytesOf_sharedTree _ _ _).trans
    ((bytesOf_sharedTree _ _ _).symm.trans hbytes))

/-- A scan of the other folder saves the record of the empty source with the time of the
edited one. -/
theorem done_sharedEdited :
    (sharedRun (sharedEdited "1000") "lib").done.tree = sharedEdited "2000" ∧
      (sharedRun (sharedEdited "1000") "lib").saves = true := by decide +kernel

/-- The last scan reports the record of the empty source. -/
theorem outcome_sharedEdited :
    (sharedRun (sharedEdited "2000") "src").done.outcome = .ok sharedReport := by decide +kernel

/-- The edited source has another record. -/
theorem extractFile_sharedEdited : ∀ time ∈ ["1000", "2000"],
    (extractFile (sharedEdited time) "/src/a.js" false).outcome =
      .ok ⟨⟨"/src/a.js", ["goog"], [], false⟩, none⟩ := by decide +kernel

/-- The row of the cache file in the edited tree. -/
theorem sources_sharedEdited :
    (SourceCache.load (sharedEdited "1000") "/cache.json").outcome.sources =
      Table.empty.put "/src/a.js" ⟨"/src/a.js", [], [], false⟩ := by decide +kernel

/-- The path of the cache file has no step upwards. -/
theorem spares_sharedScan (t : Tree) (root : Text) :
    (sharedScan root).Spares "/cache.json" t := fun hup => absurd hup (by decide)

/-- The first scan, the edit, and a scan after it. -/
def sharedSteps (root : Text) : List Step :=
  [sharedScan "src", .edit (sharedEdited "1000"), sharedScan root]

theorem runsOf_sharedSteps : ∀ root ∈ [("src" : Text), "lib"],
    runsOf sharedStart (sharedSteps root) ⊆ sharedRuns := by
  intro root hroot
  show [sharedRun sharedStart "src", sharedRun (sharedEdited "1000") root] ⊆ sharedRuns
  simp only [List.mem_cons, List.not_mem_nil, or_false] at hroot
  rcases hroot with rfl | rfl <;> simp [sharedRuns]

theorem onlySaved_sharedSteps (root : Text) {rest : List Step}
    (hrest : ∀ t, OnlySaved "/cache.json" t rest) :
    OnlySaved "/cache.json" sharedStart (sharedSteps root ++ rest) :=
  ⟨spares_sharedScan _ _, keepsFile_sharedEdited, spares_sharedScan _ _, hrest _⟩

/-- All conditions of a sound history but the last, and a scan that serves the outdated
record: the source was left out of the scan between its edit and that scan. -/
theorem outdated_after_leavesOut :
    let steps := sharedSteps "lib" ++ [sharedScan "src"]
    sharedStart.canBeSeen "/cache.json" = false ∧ OnlySaved "/cache.json" sharedStart steps ∧
      (∀ s ∈ runsOf sharedStart steps, s.Uses "/cache.json") ∧
      Identified (runsOf sharedStart steps) ∧ ¬ ∀ s ∈ runsOf sharedStart steps, s.Right := by
  intro steps
  have hruns : runsOf sharedStart steps = [sharedRun sharedStart "src",
      sharedRun (sharedEdited "1000") "lib", sharedRun (sharedEdited "2000") "src"] :=
    congrArg (fun t => [_, _, sharedRun t "src"]) done_sharedEdited.1
  have hsub : runsOf sharedStart steps ⊆ sharedRuns := by
    rw [hruns]
    simp [sharedRuns]
  have hsaved : OnlySaved "/cache.json" sharedStart steps :=
    onlySaved_sharedSteps "lib" fun t => ⟨spares_sharedScan t "src", trivial⟩
  refine ⟨canBeSeen_sharedStart, hsaved, fun s hs => sharedRuns_uses s (hsub hs),
    sharedRuns_identified.mono hsub, fun hright => ?_⟩
  rw [hruns] at hright
  have hreported := hright (sharedRun (sharedEdited "2000") "src") (by simp) sharedReport
    outcome_sharedEdited _ List.mem_cons_self
  cases (extractFile_sharedEdited "2000" (by simp)).symm.trans hreported

/-- The scan after the edit has no record to leave out if it scans the folder of the source;
if it scans the other one, it leaves out the record of the empty source. -/
theorem leavesOut_sharedEdited :
    (sharedRun (sharedEdited "1000") "src").LeavesOutRight "/cache.json" ∧
      (sharedRun (sharedEdited "1000") "lib").LeavesOut "/cache.json" "/src/a.js"
        ⟨"/src/a.js", [], [], false⟩ 2000 := by
  have hfinds : (sharedRun (sharedEdited "1000") "src").Finds (sharedSources "src") :=
    sharedRuns_finds (by simp [sharedRuns])
  have hfinds' : (sharedRun (sharedEdited "1000") "lib").Finds (sharedSources "lib") :=
    sharedRuns_finds (by simp [sharedRuns])
  refine ⟨fun path r time hout => ?_, ?_, rfl, fun paths hpaths => ?_⟩
  · have hloaded := hout.loaded
    unfold sharedRun at hloaded
    rw [sources_sharedEdited] at hloaded
    by_cases hpath : path = "/src/a.js"
    · subst hpath
      exact absurd (by decide) (hout.notFound _ hfinds)
    · rw [Table.get?_put_of_ne _ _ hpath, Table.get?_empty] at hloaded
      cases hloaded
  · unfold sharedRun
    rw [sources_sharedEdited, Table.get?_put_self]
  · cases Run.finds_unique hfinds' hpaths
    exact List.not_mem_nil

theorem leavesOutRight_sharedStart :
    (sharedRun sharedStart "src").LeavesOutRight "/cache.json" := by
  intro path r time hout
  have hloaded := hout.loaded
  unfold sharedRun at hloaded
  cases hbytes : sharedStart.bytesOf "/cache.json" with
  | ok bytes => cases canBeSeen_sharedStart.symm.trans (Tree.canBeSeen_of_bytesOf hbytes)
  | error f =>
      rw [load_of_unreadable hbytes] at hloaded
      cases hloaded

/-- The history is sound when the scan after the edit finds the source, and when it does
not, the next scan reports the record of the empty source. -/
theorem sound_of_history_sample :
    (∀ s ∈ runsOf sharedStart (sharedSteps "src"), s.Right) ∧
      ∃ e ∈ sharedReport.result.records, e.record.path = "/src/a.js" ∧
        (extractFile (sharedEdited "2000") "/src/a.js" false).outcome ≠ .ok e := by
  have hsource := runsOf_sharedSteps "src" (by simp)
  have hother := runsOf_sharedSteps "lib" (by simp)
  constructor
  · have huses : ∀ s ∈ runsOf sharedStart (sharedSteps "src"), s.Uses "/cache.json" :=
      fun s hs => sharedRuns_uses s (hsource hs)
    refine (sound_of_history "/cache.json" sharedStart (sharedSteps "src")
      canBeSeen_sharedStart
      (onlySaved_sharedSteps "src" fun _ => trivial) huses
      (sharedRuns_identified.mono hsource)).1 ?_
    intro s hs _
    rcases List.mem_cons.mp hs with rfl | hs
    · exact leavesOutRight_sharedStart
    · cases List.mem_singleton.mp hs
      exact leavesOut_sharedEdited.1
  · have huses : ∀ s ∈ runsOf sharedStart (sharedSteps "lib"), s.Uses "/cache.json" :=
      fun s hs => sharedRuns_uses s (hother hs)
    have hlib : sharedRun (sharedEdited "1000") "lib" ∈ runsOf sharedStart (sharedSteps "lib") :=
      List.mem_cons_of_mem _ List.mem_cons_self
    have hnext : sharedRun (sharedEdited "2000") "src" ∈ sharedRuns := by simp [sharedRuns]
    refine (sound_of_history "/cache.json" sharedStart (sharedSteps "lib")
      canBeSeen_sharedStart
      (onlySaved_sharedSteps "lib" fun _ => trivial) huses
      (sharedRuns_identified.mono hother)).2 _ hlib done_sharedEdited.2
      "/src/a.js" ⟨"/src/a.js", [], [], false⟩ 2000 leavesOut_sharedEdited.2 ?_
      _ (sharedRuns_uses _ hnext)
      (sharedCacheText "2000").toUTF8.toList ?_ ?_ ?_ ?_ _ (sharedRuns_finds hnext) ?_
      sharedReport outcome_sharedEdited
    · intro hrecord
      cases (extractFile_sharedEdited "1000" (by simp)).symm.trans (recordOf_eq_some_iff.mp hrecord)
    · exact (congrArg (fun t => t.bytesOf "/cache.json") done_sharedEdited.1).trans
        (bytesOf_sharedTree _ _ _)
    · exact bytesOf_sharedTree _ _ _
    · rfl
    · exact sharedRuns_identified _ hnext _ (sharedRuns_finds hnext) ⟨.root, ["src", "a.js"]⟩
        List.mem_cons_self _ (hother hlib) 2000 rfl rfl
    · decide

end GoogIndex.Scan
