/-
  Proofs/Scan/Aborted.lean --- what a scan without a report leaves behind.

  Normative source: SPEC_FULL §4.4, `scan_project`; §4.3; §7.

  Up to its save a scan only reads.  A save that breaks has at most made folders for the cache
  file, and takes its temporary file away again.  So whatever ends a scan, and however many
  records it has stored in its cache by then, files and links are as they were.
-/
import GoogIndex.Proofs.Scan.Project
import GoogIndex.Proofs.Storage.Atomicity

set_option autoImplicit false

namespace GoogIndex.Cache.SourceCache

open GoogIndex.Storage

/-! ## Saves that do not end well -/

/-- A save that does not end well has not begun to write, or its write has failed. -/
theorem unwritten_of_unsaved {interrupt : Interruption} {t : Tree} {c : SourceCache}
    {handled : Bool} (h : (save interrupt t c handled).outcome ≠ .written) :
    (save interrupt t c handled).tree = t ∨
      ∃ content, (t.writeFile interrupt content c.file).outcome ≠ .written ∧
        (save interrupt t c handled).tree = (t.writeFile interrupt content c.file).tree := by
  unfold save at h ⊢
  cases hs : c.snapshot t.modifiedMillis with
  | error f => exact .inl rfl
  | ok entries =>
      simp only [hs] at h ⊢
      refine .inr ⟨(Json.obj entries).write, ?_⟩
      cases ho : (t.writeFile interrupt (Json.obj entries).write c.file).outcome with
      | written =>
          rw [ho] at h
          exact absurd rfl h
      | refused r => exact ⟨WriteOutcome.noConfusion, rfl⟩
      | broken f => exact ⟨WriteOutcome.noConfusion, rfl⟩

/-- At most folders for the cache file are new after such a save. -/
theorem provided_of_unsaved {interrupt : Interruption} {t : Tree} {c : SourceCache}
    {handled : Bool} (h : (save interrupt t c handled).outcome ≠ .written) :
    Tree.Provided t (save interrupt t c handled).tree (PathName.ofText c.file).parent := by
  rcases unwritten_of_unsaved h with hsame | ⟨content, hunwritten, hwrite⟩
  · rw [hsame]
    exact .refl t _
  · rw [hwrite]
    exact Tree.provided_of_unwritten hunwritten

end GoogIndex.Cache.SourceCache

namespace GoogIndex.Scan

open GoogIndex.Cache GoogIndex.Storage

/-! ## Scans that have no report -/

/-- A scan without a report has changed nothing, or its save has broken. -/
theorem broken_of_aborted {t : Tree} {settings : Settings} {request : Request} {f : ProjectFault}
    (h : (scanProject t settings request).outcome = .error f) :
    (scanProject t settings request).tree = t ∨
      ∃ root paths g, openRoot t request.root = .ok root ∧ f = .storage g ∧
        let c := (batchOf t request (settings.cachePath root request.cacheFile) paths).cache
        (SourceCache.save .never t c false).outcome = .broken g ∧
          (scanProject t settings request).tree = (SourceCache.save .never t c false).tree := by
  cases hroot : openRoot t request.root with
  | error g =>
      unfold scanProject
      rw [hroot]
      exact .inl rfl
  | ok root =>
      cases hpaths : discoverSources t root settings.extensionList request.withVersionFiles with
      | error g =>
          refine .inl ?_
          unfold scanProject
          rw [hroot]
          simp only [hpaths]
      | ok paths =>
          obtain ⟨htree, houtcome⟩ := scanProject_eq hroot hpaths rfl
          cases hfault : (batchOf t request (settings.cachePath root request.cacheFile)
              paths).fault with
          | some g =>
              rw [htree, hfault]
              exact .inl rfl
          | none =>
              rw [houtcome, hfault] at h
              rw [hfault] at htree
              simp only [conclude] at h htree
              cases hsaved : (SourceCache.save .never t (batchOf t request
                  (settings.cachePath root request.cacheFile) paths).cache false).outcome with
              | written =>
                  rw [hsaved] at h
                  cases h
              | refused r =>
                  rw [hsaved] at h
                  cases h
              | broken g =>
                  rw [hsaved] at h htree
                  cases h
                  exact .inr ⟨root, paths, g, rfl, rfl, hsaved, htree⟩

/-- At most folders on the way to the cache file are new after a scan without a report. -/
theorem provided_of_aborted {t : Tree} {settings : Settings} {request : Request}
    {f : ProjectFault} (h : (scanProject t settings request).outcome = .error f) :
    (scanProject t settings request).tree = t ∨
      ∃ root, openRoot t request.root = .ok root ∧
        Tree.Provided t (scanProject t settings request).tree
          (PathName.ofText (settings.cachePath root request.cacheFile)).parent := by
  rcases broken_of_aborted h with hsame | ⟨root, paths, g, hroot, -, hbroken, htree⟩
  · exact .inl hsame
  · have hunsaved := SourceCache.provided_of_unsaved (fun hwritten => by
      cases hbroken.symm.trans hwritten)
    rw [file_batchOf] at hunsaved
    exact .inr ⟨root, hroot, htree ▸ hunsaved⟩

/-- A scan without a report leaves every file as it was, with its content, its permissions and
its time, and every link and the permissions of every folder; and it adds neither files nor
links.  That holds for the cache file too.  What may be new are folders, and a front of the
names of the cache file's folder leads to each of them. -/
theorem files_kept_of_aborted {t : Tree} {settings : Settings} {request : Request}
    {f : ProjectFault} (h : (scanProject t settings request).outcome = .error f) :
    let after := (scanProject t settings request).tree
    (∀ location a content,
      after.at? location = some (.file a content) ↔ t.at? location = some (.file a content)) ∧
    (∀ location target,
      after.at? location = some (.link target) ↔ t.at? location = some (.link target)) ∧
    (∀ location mode, t.folderModeAt location = some mode →
      after.folderModeAt location = some mode) ∧
    ∀ location node, t.at? location = none → after.at? location = some node →
      node.isFolder = true ∧ ∃ root, openRoot t request.root = .ok root ∧
        let folder := (PathName.ofText (settings.cachePath root request.cacheFile)).parent
        ∃ front, front <+: folder.names ∧
          after.lookup true (PathName.mk folder.anchor front).toText = .ok (location, node) := by
  intro after
  rcases provided_of_aborted h with hsame | ⟨root, hroot, hprovided⟩
  · rw [show after = t from hsame]
    exact ⟨fun _ _ _ => .rfl, fun _ _ => .rfl, fun _ _ hmode => hmode,
      fun _ _ hnone hnode => by rw [hnone] at hnode; cases hnode⟩
  · refine ⟨fun location a content => ?_, fun location target => ?_, hprovided.modes,
      fun location node hnone hnode => ?_⟩
    · rw [← Tree.shapeAt_eq_file_iff, ← Tree.shapeAt_eq_file_iff]
      exact hprovided.shapeAt_iff Shape.noConfusion
    · rw [← Tree.shapeAt_eq_link_iff, ← Tree.shapeAt_eq_link_iff]
      exact hprovided.shapeAt_iff Shape.noConfusion
    · obtain ⟨hfolder, front, found, hfront, hlookup⟩ := hprovided.made location node.shape
        (by rw [Tree.shapeAt, hnone]; rfl) (by rw [Tree.shapeAt, hnode]; rfl)
      obtain ⟨_, _, _, _, hat⟩ := Tree.lookup_eq_ok_iff.mp hlookup
      cases hnode.symm.trans hat
      obtain ⟨b, inner, rfl⟩ := shape_eq_folder_iff.mp hfolder
      exact ⟨rfl, root, hroot, front, hfront, hlookup⟩

/-! ### A save that breaks behind its temporary file -/

/-- A project with one source, and without a cache file. -/
def abortedTree : Tree :=
  { attributes := ⟨0o755, 0⟩
    root :=
      .folder "p" ⟨0o755, 0⟩
        (.file "a.js" ⟨0o600, 1000000000⟩ "/*@provideGoog*/".toUTF8.toList
          (.file ".closuredepsignore" ⟨0o644, 0⟩ [] .empty))
        .empty
    working := []
    clock := 3000000000
    umask := 0o022 }

/-- A scan whose cache file has a NUL in its name, in a folder that is not there. -/
def abortedRequest : Request := ⟨"p", some "new/a\x00b", false, false⟩

/-- The folder is made and the source is extracted, but neither the cache file nor the temporary
file is there in the end, and the source is as it was. -/
theorem files_kept_of_aborted_sample :
    (scanProject abortedTree ⟨none, none⟩ abortedRequest).outcome =
      .error (.storage (.broken .nullByte)) ∧
    (let after := (scanProject abortedTree ⟨none, none⟩ abortedRequest).tree
     after.at? ["p", "new"] = some (.folder ⟨0o755, 3000000000⟩ .empty) ∧
      ∀ location a content, after.at? location = some (.file a content) ↔
        abortedTree.at? location = some (.file a content)) := by
  have haborted : (scanProject abortedTree ⟨none, none⟩ abortedRequest).outcome =
      .error (.storage (.broken .nullByte)) := by with_unfolding_all rfl
  exact ⟨haborted, by with_unfolding_all rfl, (files_kept_of_aborted haborted).1⟩

end GoogIndex.Scan
