/-
  Proofs/Scan/Selection.lean --- which entries below a root are sources.

  Normative source: SPEC_FULL §4.4, `iter_source_files`; §11.

  An entry is found exactly when it is no folder, its name has one of the extensions, its
  path is not ignored, and every folder on the way to it is entered.  The last condition is
  where a search and a question about a single path part: a search does not look into an
  ignored folder, so nothing in it is taken back in.
-/
import Mathlib.Data.List.Nodup
import GoogIndex.Proofs.Scan.Discovery

set_option autoImplicit false

namespace GoogIndex.Scan

open GoogIndex.Ignore GoogIndex.Storage GoogIndex.Text

/-! ## What is found among some entries -/

section among

variable {t : Tree} {filter : Filter} {root : PathName} {names : List Text} {entries : Folder}

/-- The names of what is found start with those that lead to its folder, and go on. -/
theorem exists_behind_of_findAmong {source : List Text}
    (h : source ∈ (findAmong t filter root names entries).ordered names) :
    ∃ first more, source = names ++ first :: more := by
  induction entries generalizing names source with
  | empty => simp [findAmong, mem_ordered_iff] at h
  | file name a content rest ih =>
      rw [findAmong] at h
      split at h
      · rcases mem_ordered_file.mp h with rfl | hrest
        · exact ⟨name, [], rfl⟩
        · exact ih hrest
      · exact ih h
  | link name target rest ih =>
      rw [findAmong] at h
      split at h
      · rcases mem_ordered_file.mp h with rfl | hrest
        · exact ⟨name, [], rfl⟩
        · exact ih hrest
      · exact ih h
  | folder name a inner rest ihinner ih =>
      rw [findAmong] at h
      split at h
      · rcases mem_ordered_folder.mp h with hinside | hrest
        · obtain ⟨first, more, rfl⟩ := ihinner hinside
          exact ⟨name, first :: more, by simp⟩
        · exact ih hrest
      · exact ih h

/-- What is found in a folder has the name of that folder, and more names behind it. -/
theorem head_of_findAmong {folder first : Text} {more : List Text} {inner : Folder}
    (h : names ++ first :: more ∈
      (findAmong t filter root (names ++ [folder]) inner).ordered
        (names ++ [folder])) : folder = first ∧ more ≠ [] := by
  obtain ⟨next, others, hsource⟩ := exists_behind_of_findAmong h
  rw [List.append_assoc, List.append_cancel_left_eq] at hsource
  cases hsource
  exact ⟨rfl, List.cons_ne_nil next others⟩

/-- A source directly among the entries is one of them that is kept and no folder. -/
theorem mem_findAmong_nil (hwell : entries.WellFormed) {name : Text} :
    names ++ [name] ∈ (findAmong t filter root names entries).ordered names ↔
      filter.keepsFile names name = true ∧
        ∃ node, entries.find? name = some node ∧
          t.seesFolder root (names ++ [name]) node = false := by
  induction entries with
  | empty => simp [findAmong, mem_ordered_iff, Folder.find?]
  | file other a content rest ih =>
      have hrest := ih hwell.2.2
      rw [findAmong, Folder.find?]
      by_cases hname : other = name
      · subst hname
        by_cases hkeeps : filter.keepsFile names other = true
        · simp [hkeeps, mem_ordered_file, Tree.seesFolder]
        · simp [hkeeps, hrest]
      · split <;> simp [mem_ordered_file, hrest, Ne.symm hname]
  | link other target rest ih =>
      have hrest := ih hwell.2.2
      rw [findAmong, Folder.find?]
      by_cases hname : other = name
      · subst hname
        by_cases hkeeps : filter.keepsFile names other = true
        · cases hfolder : t.seesFolder root (names ++ [other]) (.link target) with
          | false => simp [hkeeps, hfolder, mem_ordered_file]
          | true => simp [hfolder, hrest, hwell.2.1]
        · simp [hkeeps, hrest]
      · split <;> simp [mem_ordered_file, hrest, Ne.symm hname]
  | folder other a inner rest _ ih =>
      have hrest := ih hwell.2.2.2
      have hinside : names ++ [name] ∉
          (findAmong t filter root (names ++ [other]) inner).ordered
            (names ++ [other]) := fun h => (head_of_findAmong h).2 rfl
      rw [findAmong, Folder.find?]
      by_cases hname : other = name
      · subst hname
        split <;> simp [mem_ordered_folder, hinside, hrest, hwell.2.1, Tree.seesFolder]
      · split <;> simp [mem_ordered_folder, hinside, hrest]

/-- A source further down does not depend on the sources directly among the entries. -/
theorem mem_ordered_of_longer {others : Found} {name first next : Text} {more : List Text}
    (kept : Bool) :
    names ++ first :: next :: more ∈
        (if kept = true then ({ others with files := name :: others.files } : Found)
          else others).ordered names ↔
      names ++ first :: next :: more ∈ others.ordered names := by
  split
  · rw [mem_ordered_file, or_iff_right (by simp)]
  · rfl

/-- A source further down is one of the folder that the first name stands for, if that folder
is entered and can be listed. -/
theorem mem_findAmong_cons (hwell : entries.WellFormed) {first next : Text}
    {more : List Text} :
    names ++ first :: next :: more ∈ (findAmong t filter root names entries).ordered names ↔
      (filter.entersFolder names first && Tree.canBeListed root (names ++ [first])) = true ∧
        ∃ a inner, entries.find? first = some (.folder a inner) ∧
          names ++ first :: next :: more ∈
            (findAmong t filter root (names ++ [first]) inner).ordered (names ++ [first]) := by
  induction entries with
  | empty => simp [findAmong, mem_ordered_iff, Folder.find?]
  | file other a content rest ih =>
      rw [findAmong, Folder.find?]
      refine (mem_ordered_of_longer _).trans ((ih hwell.2.2).trans ?_)
      by_cases hname : other = first
      · subst hname
        simp [hwell.2.1]
      · simp [hname]
  | link other target rest ih =>
      rw [findAmong, Folder.find?]
      refine (mem_ordered_of_longer _).trans ((ih hwell.2.2).trans ?_)
      by_cases hname : other = first
      · subst hname
        simp [hwell.2.1]
      · simp [hname]
  | folder other a inner rest _ ih =>
      have hrest := ih hwell.2.2.2
      rw [findAmong, Folder.find?]
      by_cases hname : other = first
      · subst hname
        have hnone : names ++ other :: next :: more ∉
            (findAmong t filter root names rest).ordered names := by
          rw [hrest, hwell.2.1]
          simp
        split
        · rename_i hopen
          rw [if_pos rfl, mem_ordered_folder, or_iff_left hnone]
          refine ⟨fun h => ⟨hopen, a, inner, rfl, h⟩, ?_⟩
          rintro ⟨_, _, _, hsame, h⟩
          cases hsame
          exact h
        · rename_i hopen
          exact iff_of_false hnone fun h => hopen h.1
      · have hinside : names ++ first :: next :: more ∉
            (findAmong t filter root (names ++ [other]) inner).ordered (names ++ [other]) :=
          fun h => hname (head_of_findAmong h).1
        rw [if_neg hname, ← hrest]
        split
        · rw [mem_ordered_folder, or_iff_right hinside]
        · rfl

/-- Nothing is found behind a name that no entry has. -/
theorem not_mem_findAmong (hwell : entries.WellFormed) {first : Text} {more : List Text}
    (hnone : entries.find? first = none) :
    names ++ first :: more ∉ (findAmong t filter root names entries).ordered names := by
  intro h
  cases more with
  | nil =>
      obtain ⟨_, node, hfind, _⟩ := (mem_findAmong_nil hwell).mp h
      cases hnone.symm.trans hfind
  | cons next more =>
      obtain ⟨_, a, inner, hfind, _⟩ := (mem_findAmong_cons hwell).mp h
      cases hnone.symm.trans hfind

/-- Nothing is found twice, as no two entries of a folder have the same name. -/
theorem nodup_findAmong (hwell : entries.WellFormed) :
    ((findAmong t filter root names entries).ordered names).Nodup := by
  induction entries generalizing names with
  | empty => simp [findAmong, Found.ordered, sortNames, sortFolders]
  | file name a content rest ih =>
      obtain ⟨_, hnone, hrest⟩ := hwell
      rw [findAmong]
      split
      · exact nodup_ordered_file.mpr ⟨not_mem_findAmong hrest hnone, ih hrest⟩
      · exact ih hrest
  | link name target rest ih =>
      obtain ⟨_, hnone, hrest⟩ := hwell
      rw [findAmong]
      split
      · exact nodup_ordered_file.mpr ⟨not_mem_findAmong hrest hnone, ih hrest⟩
      · exact ih hrest
  | folder name a inner rest ihinner ih =>
      obtain ⟨_, hnone, hinner, hrest⟩ := hwell
      rw [findAmong]
      split
      · refine nodup_ordered_folder.mpr ⟨ihinner hinner, ih hrest, fun source hsource => ?_⟩
        obtain ⟨first, more, rfl⟩ := exists_behind_of_findAmong hsource
        rw [List.append_assoc]
        exact not_mem_findAmong hrest hnone
      · exact ih hrest

end among

/-! ## Ways -/

/-- Paths below a root differ in the names that lead there. -/
theorem mem_discover_iff {t : Tree} {filter : Filter} {root : PathName} {names : List Text} :
    ⟨root.anchor, root.names ++ names⟩ ∈ discover t filter root ↔
      names ∈ sourceNames t filter root := by
  simp [discover]

/-- Discovery gives no path twice. -/
theorem nodup_discover {t : Tree} (ht : t.WellFormed) {filter : Filter} {root : PathName} :
    (discover t filter root).Nodup := by
  refine List.Nodup.map (fun names names' heq => ?_) ?_
  · simpa using heq
  · unfold sourceNames
    split
    · rename_i base a entries hlookup
      obtain ⟨_, _, _, _, hat⟩ := Tree.lookup_eq_ok_iff.mp hlookup
      exact nodup_findAmong (Tree.wellFormed_of_nodeBelow ht.1 hat)
    · exact List.nodup_nil

/-- The texts of discovered paths differ too, as the paths are in normal form. -/
theorem nodup_discoverSources {t : Tree} (ht : t.WellFormed) {root : PathName}
    (hlegal : root.Legal) {extensions : List Text} {withVersionFiles : Bool}
    {paths : List PathName} (h : discoverSources t root extensions withVersionFiles = .ok paths) :
    (paths.map PathName.toText).Nodup := by
  have hback : ∀ p ∈ paths, PathName.ofText p.toText = p :=
    fun p hp => normal_of_mem_discoverSources ht hlegal h hp
  have hpaths : paths.Nodup := by
    obtain ⟨spec, _, rfl⟩ := names_of_discoverSources h
    exact nodup_discover ht
  refine hpaths.map_on fun p hp p' hp' heq => ?_
  rw [← hback p hp, heq, hback p' hp']

/-- Something is out of reach of a search: a folder that is not ignored, or a link to one, lies
beyond its calls. -/
def OutOfReach (t : Tree) (filter : Filter) (root : PathName) (base : Location) : Prop :=
  ∃ way name, Tree.OutOfReach t searchCalls root filter.entersFolder base way name

section nested

variable {name : Text} {n : Nat}

end nested

end GoogIndex.Scan
