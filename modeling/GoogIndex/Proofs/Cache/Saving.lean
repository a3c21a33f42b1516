/-
  Proofs/Cache/Saving.lean --- when a save breaks.

  Normative source: SPEC_FULL §4.2, `snapshot` and `save`.

  A save asks storage for the time of every path that has a record.  A refusal leaves the
  path out, but a text that is no path breaks the save; the write that follows does not break
  for a cache file with a path, unless too many folders are missing on the way to it.
-/
import GoogIndex.Proofs.Cache.Keys
import GoogIndex.Proofs.Storage.Unbroken

set_option autoImplicit false

namespace GoogIndex.Cache

open GoogIndex.Storage

/-- The paths of a table are those with a value. -/
theorem Table.mem_keys_iff {α : Type} {t : Table α} {path : Text} :
    path ∈ t.keys ↔ t.get? path ≠ none := by
  obtain ⟨rows⟩ := t
  show path ∈ rows.map (·.1) ↔ Table.find path rows ≠ none
  induction rows with
  | nil => simp [Table.find]
  | cons r rest ih =>
      by_cases hr : r.1 = path
      · simp [Table.find, hr]
      · simp only [List.map_cons, List.mem_cons, Ne.symm hr, false_or, Table.find, hr, if_false, ih]

namespace SourceCache

/-- A snapshot breaks if one of its rows does. -/
theorem snapshotRows_of_broken {modified : Text → Except Fault Int}
    {rows : List (Text × Record)} {row : Text × Record} (hmem : row ∈ rows) {b : Breach}
    (h : modified row.1 = .error (.broken b)) :
    ∃ b', snapshotRows modified rows = .error (.broken b') := by
  induction rows with
  | nil => cases hmem
  | cons first rest ih =>
      obtain ⟨path, r⟩ := first
      rcases List.mem_cons.mp hmem with rfl | hrest
      · exact ⟨b, by simp only [snapshotRows, h]⟩
      · obtain ⟨b', hbroken⟩ := ih hrest
        simp only [snapshotRows, hbroken]
        cases modified path with
        | ok time => exact ⟨b', rfl⟩
        | error f =>
            cases f with
            | refused r => exact ⟨b', rfl⟩
            | broken b => exact ⟨b, rfl⟩

/-- A snapshot comes to its end if none of its rows breaks. -/
theorem exists_snapshotRows {modified : Text → Except Fault Int}
    {rows : List (Text × Record)}
    (h : ∀ row ∈ rows, ∀ b, modified row.1 ≠ .error (.broken b)) :
    ∃ entries, snapshotRows modified rows = .ok entries := by
  induction rows with
  | nil => exact ⟨[], rfl⟩
  | cons first rest ih =>
      obtain ⟨path, r⟩ := first
      obtain ⟨entries, hentries⟩ := ih fun row hrow => h row (List.mem_cons_of_mem _ hrow)
      cases hm : modified path with
      | ok time =>
          refine ⟨(path, r.toEntry time) :: entries, ?_⟩
          simp only [snapshotRows, hm, hentries]
          rfl
      | error f =>
          cases f with
          | refused reason => exact ⟨entries, by simp only [snapshotRows, hm, hentries]⟩
          | broken b => exact absurd hm (h (path, r) List.mem_cons_self b)

/-- A save breaks exactly if one of the texts with a record is no path, provided that the cache
file has a path and that there is room for the folders missing on the way to it. -/
theorem save_unbroken_iff {interrupt : Interruption} {t : Tree} {c : SourceCache} {handled : Bool}
    (hinterrupt : interrupt.Refuses) (hfile : breach? c.file = none)
    (hworking : (PathName.ofText c.file).isAbsolute = true ∨
      ∀ n ∈ t.working, breach? n = none)
    (hroom : Tree.missingFolders interrupt (PathName.ofText c.file).parent.anchor t
      (PathName.ofText c.file).parent.names.reverse < Tree.folderCalls) :
    (∀ f, (save interrupt t c handled).outcome ≠ .broken f) ↔
      ∀ path ∈ c.sources.keys, breach? path = none := by
  constructor
  · intro h path hpath
    rw [Option.eq_none_iff_forall_ne_some]
    intro c hsound
    obtain ⟨row, hrow, rfl⟩ := List.mem_map.mp hpath
    have hrowbroken := (Tree.modifiedMillis_eq_broken_iff t row.1).mpr hsound
    obtain ⟨b, hbroken⟩ := snapshotRows_of_broken hrow hrowbroken
    rw [← snapshot] at hbroken
    exact h (.broken b) (by simp only [save, hbroken])
  · intro h f
    have hrows : ∀ row ∈ c.sources.rows, ∀ b, t.modifiedMillis row.1 ≠ .error (.broken b) := by
      intro row hrow b
      rw [ne_eq, Tree.modifiedMillis_eq_broken_iff, h row.1 (List.mem_map_of_mem hrow)]
      simp
    obtain ⟨entries, hentries⟩ := exists_snapshotRows hrows
    have hwrite := Tree.writeFile_ne_broken (t := t) hinterrupt hfile hworking hroom
      (Json.obj entries).write f
    rw [← snapshot] at hentries
    unfold save
    simp only [hentries]
    split
    · exact hwrite
    · exact hwrite

end SourceCache

end GoogIndex.Cache
