/-
  Proofs/Scan/Order.lean --- the order of discovered sources.

  Normative source: SPEC_FULL §4.4, `iter_source_files`.

  A search gives the sources that stand in a folder before it goes into the folders there, and
  takes both by name.  That is an order of its own on paths, `Earlier`.  It is not the order
  of the paths by their names, in which a file comes behind the folders with lesser names: the
  two agree on what a search gives exactly where no source stands in a folder behind the name
  of a folder with sources.
-/
import Mathlib.Data.List.Pairwise
import GoogIndex.Proofs.Scan.Sources

set_option autoImplicit false

namespace GoogIndex.Scan

open GoogIndex.Storage

/-! ## The order of a search -/

/-- Which of two paths a search comes by first.  Where the paths part, an entry of the folder
comes before all that is in one of its folders; apart from that the names decide. -/
def Earlier : List Text → List Text → Prop
  | [a], [b] => a < b
  | [_], _ :: _ :: _ => True
  | a :: c :: as, b :: d :: bs => a < b ∨ a = b ∧ Earlier (c :: as) (d :: bs)
  | _, _ => False

/-- What two paths have in common does not count. -/
theorem earlier_append {front p q : List Text} (hp : p ≠ []) (hq : q ≠ []) :
    Earlier (front ++ p) (front ++ q) ↔ Earlier p q := by
  induction front with
  | nil => rfl
  | cons a front ih =>
      obtain ⟨c, as, has⟩ :=
        List.exists_cons_of_ne_nil (List.append_ne_nil_of_right_ne_nil front hp)
      obtain ⟨d, bs, hbs⟩ :=
        List.exists_cons_of_ne_nil (List.append_ne_nil_of_right_ne_nil front hq)
      rw [List.cons_append, List.cons_append, ← ih, has, hbs, Earlier,
        or_iff_right Std.lt_irrefl, and_iff_right rfl]

theorem lt_append {front p q : List Text} : front ++ p < front ++ q ↔ p < q := by
  induction front with
  | nil => rfl
  | cons a front ih =>
      rw [List.cons_append, List.cons_append, List.cons_lt_cons_iff, ih,
        or_iff_right Std.lt_irrefl, and_iff_right rfl]

/-- The earlier one of two paths is also less by its names, unless it is a file beside a folder
with a lesser name. -/
theorem lt_of_earlier {p q : List Text} (h : Earlier p q) :
    p < q ∨ ∃ way file folder next more, p = way ++ [file] ∧ q = way ++ folder :: next :: more ∧
      folder < file := by
  fun_induction Earlier p q with
  | case1 a b => exact .inl (List.cons_lt_cons_iff.mpr (.inl h))
  | case2 a b d bs =>
      rcases Std.lt_trichotomy a b with hlt | rfl | hgt
      · exact .inl (List.cons_lt_cons_iff.mpr (.inl hlt))
      · exact .inl (List.cons_lt_cons_iff.mpr (.inr ⟨rfl, List.nil_lt_cons d bs⟩))
      · exact .inr ⟨[], a, b, d, bs, rfl, rfl, hgt⟩
  | case3 a c as b d bs ih =>
      rcases h with hlt | ⟨rfl, hrest⟩
      · exact .inl (List.cons_lt_cons_iff.mpr (.inl hlt))
      · rcases ih hrest with hlt | ⟨way, file, folder, next, more, hp, hq, hlt⟩
        · exact .inl (List.cons_lt_cons_iff.mpr (.inr ⟨rfl, hlt⟩))
        · refine .inr ⟨a :: way, file, folder, next, more, ?_, ?_, hlt⟩
          · rw [hp, List.cons_append]
          · rw [hq, List.cons_append]
  | case4 => exact h.elim

/-- Paths in the order of a search are in the order of their names exactly if no file among them
stands beside a folder with a lesser name that leads to others of them. -/
theorem increasing_iff {paths : List (List Text)} (h : paths.Pairwise Earlier) :
    paths.Pairwise (· < ·) ↔
      ∀ way file folder next more, way ++ [file] ∈ paths → way ++ folder :: next :: more ∈ paths →
        file ≤ folder := by
  constructor
  · intro hlt way file folder next more hfile hfolder
    have hne : way ++ [file] ≠ way ++ folder :: next :: more := by simp
    have hboth : paths.Pairwise fun p q =>
        (Earlier p q ∧ p < q) ∨ (Earlier q p ∧ q < p) := (h.and hlt).imp Or.inl
    have hsymm : Std.Symm fun p q : List Text =>
        (Earlier p q ∧ p < q) ∨ (Earlier q p ∧ q < p) := ⟨fun _ _ => Or.symm⟩
    rcases hboth.forall hfile hfolder hne with ⟨_, hless⟩ | ⟨hback, _⟩
    · rw [lt_append, List.cons_lt_cons_iff] at hless
      rcases hless with hless | ⟨rfl, _⟩
      · exact Std.le_of_lt hless
      · exact Std.le_refl file
    · rw [earlier_append (List.cons_ne_nil _ _) (List.cons_ne_nil _ _)] at hback
      exact hback.elim
  · intro hbeside
    refine h.imp_of_mem fun {p q} hp hq hearlier => ?_
    rcases lt_of_earlier hearlier with hlt | ⟨way, file, folder, next, more, rfl, rfl, hless⟩
    · exact hlt
    · exact absurd hless (Std.not_lt.mpr (hbeside way file folder next more hp hq))

/-! ## What a search gives -/

/-- Sorting by different keys leaves no two of them in the wrong order. -/
theorem pairwise_mergeSort_key {α : Type} (key : α → Text) {items : List α}
    (h : (items.map key).Nodup) :
    (items.mergeSort fun a b => decide (key a ≤ key b)).Pairwise fun a b => key a < key b := by
  have hsorted : (items.mergeSort fun a b => decide (key a ≤ key b)).Pairwise
      fun a b => key a ≤ key b := by
    have hdecided : (items.mergeSort fun a b => decide (key a ≤ key b)).Pairwise
        fun a b => decide (key a ≤ key b) = true := by
      apply List.pairwise_mergeSort
      · intro a b c hab hbc
        exact decide_eq_true (Std.le_trans (of_decide_eq_true hab) (of_decide_eq_true hbc))
      · intro a b
        simpa using Std.le_total (a := key a) (b := key b)
    exact hdecided.imp of_decide_eq_true
  have hdifferent : (items.mergeSort fun a b => decide (key a ≤ key b)).Pairwise
      fun a b => key a ≠ key b :=
    List.pairwise_map.mp (((List.mergeSort_perm items _).map key).nodup_iff.mpr h)
  exact (hsorted.and hdifferent).imp fun hab => Std.lt_of_le_of_ne hab.1 hab.2

/-- What was found in a folder comes in order: names differ, and what is in a folder stands
behind the folder's name, in order. -/
structure Found.Tidy (names : List Text) (f : Found) : Prop where
  files : f.files.Nodup
  folders : (f.folders.map (·.1)).Nodup
  below : ∀ entry ∈ f.folders, ∀ source ∈ entry.2,
    ∃ next more, source = names ++ entry.1 :: next :: more
  inside : ∀ entry ∈ f.folders, entry.2.Pairwise Earlier

namespace Found.Tidy

variable {names : List Text} {f : Found}

theorem addFile (h : f.Tidy names) {name : Text} (hnew : name ∉ f.files) :
    ({ f with files := name :: f.files } : Found).Tidy names :=
  ⟨List.nodup_cons.mpr ⟨hnew, h.files⟩, h.folders, h.below, h.inside⟩

theorem addFolder (h : f.Tidy names) {entry : Text × List (List Text)}
    (hnew : entry.1 ∉ f.folders.map (·.1)) (hinside : entry.2.Pairwise Earlier)
    (hbelow : ∀ source ∈ entry.2, ∃ next more, source = names ++ entry.1 :: next :: more) :
    ({ f with folders := entry :: f.folders } : Found).Tidy names :=
  ⟨h.files, List.nodup_cons.mpr ⟨hnew, h.folders⟩,
    List.forall_mem_cons.mpr ⟨hbelow, h.below⟩, List.forall_mem_cons.mpr ⟨hinside, h.inside⟩⟩

/-- The sources of a folder are given in the order of a search. -/
theorem pairwise_ordered (h : f.Tidy names) : (f.ordered names).Pairwise Earlier := by
  have hfiles : (sortNames f.files).Pairwise (· < ·) :=
    pairwise_mergeSort_key id (by simpa using h.files)
  have hfolders : (sortFolders f.folders).Pairwise fun a b => a.1 < b.1 :=
    pairwise_mergeSort_key Prod.fst h.folders
  have hmem : ∀ entry ∈ sortFolders f.folders, entry ∈ f.folders :=
    fun entry hentry => List.mem_mergeSort.mp hentry
  refine List.pairwise_append.mpr ⟨?_, List.pairwise_flatMap.mpr ⟨?_, ?_⟩, ?_⟩
  · refine List.pairwise_map.mpr (hfiles.imp fun {a b} hab => ?_)
    exact (earlier_append (List.cons_ne_nil _ _) (List.cons_ne_nil _ _)).mpr hab
  · intro entry hentry
    exact h.inside entry (hmem entry hentry)
  · refine hfolders.imp_of_mem fun {a b} ha hb hab source hsource other hother => ?_
    obtain ⟨c, as, rfl⟩ := h.below a (hmem a ha) source hsource
    obtain ⟨d, bs, rfl⟩ := h.below b (hmem b hb) other hother
    exact (earlier_append (List.cons_ne_nil _ _) (List.cons_ne_nil _ _)).mpr (.inl hab)
  · intro source hsource other hother
    obtain ⟨file, _, rfl⟩ := List.mem_map.mp hsource
    obtain ⟨entry, hentry, hinside⟩ := List.mem_flatMap.mp hother
    obtain ⟨d, bs, rfl⟩ := h.below entry (hmem entry hentry) other hinside
    exact (earlier_append (List.cons_ne_nil _ _) (List.cons_ne_nil _ _)).mpr trivial

end Found.Tidy

section among

variable {t : Tree} {filter : Filter} {root : PathName} {names : List Text} {entries : Folder}

/-- Whatever is found has the name of an entry. -/
theorem find?_ne_none_of_findAmong {name : Text}
    (h : name ∈ (findAmong t filter root names entries).files ∨
      name ∈ (findAmong t filter root names entries).folders.map (·.1)) :
    entries.find? name ≠ none := by
  induction entries with
  | empty => simp [findAmong] at h
  | file other a content rest ih =>
      intro hnone
      by_cases hname : other = name
      · simp [Folder.find?, hname] at hnone
      · rw [Folder.find?, if_neg hname] at hnone
        refine ih ?_ hnone
        rw [findAmong] at h
        split at h
        · simpa [Ne.symm hname] using h
        · exact h
  | link other target rest ih =>
      intro hnone
      by_cases hname : other = name
      · simp [Folder.find?, hname] at hnone
      · rw [Folder.find?, if_neg hname] at hnone
        refine ih ?_ hnone
        rw [findAmong] at h
        split at h
        · simpa [Ne.symm hname] using h
        · exact h
  | folder other a inner rest _ ih =>
      intro hnone
      by_cases hname : other = name
      · simp [Folder.find?, hname] at hnone
      · rw [Folder.find?, if_neg hname] at hnone
        refine ih ?_ hnone
        rw [findAmong] at h
        split at h
        · simpa [Ne.symm hname] using h
        · exact h

/-- Among the entries of a folder, what is found can be put in order. -/
theorem tidy_findAmong (hwell : entries.WellFormed) :
    (findAmong t filter root names entries).Tidy names := by
  induction entries generalizing names with
  | empty => exact ⟨List.nodup_nil, List.nodup_nil, by simp [findAmong], by simp [findAmong]⟩
  | file name a content rest ih =>
      obtain ⟨_, hnone, hrest⟩ := hwell
      rw [findAmong]
      split
      · exact (ih hrest).addFile fun h => find?_ne_none_of_findAmong (.inl h) hnone
      · exact ih hrest
  | link name target rest ih =>
      obtain ⟨_, hnone, hrest⟩ := hwell
      rw [findAmong]
      split
      · exact (ih hrest).addFile fun h => find?_ne_none_of_findAmong (.inl h) hnone
      · exact ih hrest
  | folder name a inner rest ihinner ih =>
      obtain ⟨_, hnone, hinner, hrest⟩ := hwell
      rw [findAmong]
      split
      · refine (ih hrest).addFolder (fun h => find?_ne_none_of_findAmong (.inr h) hnone)
          (ihinner hinner).pairwise_ordered fun source hsource => ?_
        obtain ⟨next, more, rfl⟩ := exists_behind_of_findAmong hsource
        exact ⟨next, more, by simp⟩
      · exact ih hrest

end among

/-- The names that lead from a root to a path below it. -/
def namesBelow (root path : PathName) : List Text := path.names.drop root.names.length

theorem map_namesBelow_discover (t : Tree) (filter : Filter) (root : PathName) :
    (discover t filter root).map (namesBelow root) = sourceNames t filter root := by
  have hsame : (namesBelow root ∘ fun names => ⟨root.anchor, root.names ++ names⟩) = id := by
    funext names
    exact List.drop_left
  rw [discover, List.map_map, hsame, List.map_id]

theorem pairwise_sourceNames {t : Tree} (ht : t.WellFormed) (filter : Filter) (root : PathName) :
    (sourceNames t filter root).Pairwise Earlier := by
  unfold sourceNames
  split
  · rename_i base a entries hroot
    obtain ⟨_, _, _, _, hbase⟩ := Tree.lookup_eq_ok_iff.mp hroot
    exact (tidy_findAmong (Tree.wellFormed_of_nodeBelow ht.1 hbase)).pairwise_ordered
  · exact List.Pairwise.nil

/-- The order of discovery.  For every tree, every root, every set of extensions and every
predicate for ignored paths, the paths are given in the order of a search.  Seen from the root
they are in increasing order by their names exactly if, in each folder, no source has a name
behind that of a folder with sources. -/
theorem discover_increasing_iff {t : Tree} (ht : t.WellFormed) (filter : Filter)
    (root : PathName) :
    (discover t filter root).Pairwise
        (fun path other => Earlier (namesBelow root path) (namesBelow root other)) ∧
      ((discover t filter root).Pairwise
          (fun path other => namesBelow root path < namesBelow root other) ↔
        ∀ way file folder next more,
          ⟨root.anchor, root.names ++ (way ++ [file])⟩ ∈ discover t filter root →
          ⟨root.anchor, root.names ++ (way ++ folder :: next :: more)⟩ ∈ discover t filter root →
          file ≤ folder) := by
  have hearlier := pairwise_sourceNames ht filter root
  simp only [mem_discover_iff]
  rw [← increasing_iff hearlier, ← map_namesBelow_discover, List.pairwise_map]
  rw [← map_namesBelow_discover, List.pairwise_map] at hearlier
  exact ⟨hearlier, Iff.rfl⟩

/-- A project with a source at its root, behind the name of a folder with another one. -/
def besideTree : Tree :=
  ⟨⟨0o755, 0⟩,
    .folder "p" ⟨0o755, 0⟩
      (.folder "a" ⟨0o755, 0⟩ (.file "b.js" ⟨0o644, 0⟩ [] .empty)
        (.file "z.js" ⟨0o644, 0⟩ [] .empty))
      .empty, [], 0, 0o022⟩

/-- The search comes by them in its own order, which is not that of their names. -/
theorem discover_increasing_iff_sample :
    let filter : Filter := ⟨[".js"], fun _ => false⟩
    let paths := discover besideTree filter ⟨.root, ["p"]⟩
    besideTree.WellFormed ∧
    paths.Pairwise (fun path other =>
      Earlier (namesBelow ⟨.root, ["p"]⟩ path) (namesBelow ⟨.root, ["p"]⟩ other)) ∧
    ¬ paths.Pairwise (fun path other =>
      namesBelow ⟨.root, ["p"]⟩ path < namesBelow ⟨.root, ["p"]⟩ other) := by
  intro filter paths
  have hwell : besideTree.WellFormed := by decide
  have hpaths : paths = [⟨.root, ["p", "z.js"]⟩, ⟨.root, ["p", "a", "b.js"]⟩] := by
    with_unfolding_all rfl
  obtain ⟨hearlier, hincreasing⟩ := discover_increasing_iff hwell filter ⟨.root, ["p"]⟩
  refine ⟨hwell, hearlier, fun h => ?_⟩
  have hfile : ⟨.root, "p" :: ([] ++ [("z.js" : Text)])⟩ ∈ paths := by
    rw [hpaths]
    exact List.mem_cons_self
  have hfolder : ⟨.root, "p" :: ([] ++ [("a" : Text), "b.js"])⟩ ∈ paths := by
    rw [hpaths]
    exact List.mem_cons_of_mem _ List.mem_cons_self
  have hle : ("z.js" : Text) ≤ "a" := hincreasing.mp h [] "z.js" "a" "b.js" [] hfile hfolder
  exact absurd hle (by decide)

/-- The source at the root is given first, though its name is behind that of the folder. -/
theorem file_before_lesser_folder :
    discoverSources besideTree ⟨.root, ["p"]⟩ [".js"] false =
      .ok [⟨.root, ["p", "z.js"]⟩, ⟨.root, ["p", "a", "b.js"]⟩] ∧
    ¬ namesBelow ⟨.root, ["p"]⟩ ⟨.root, ["p", "z.js"]⟩ <
      namesBelow ⟨.root, ["p"]⟩ ⟨.root, ["p", "a", "b.js"]⟩ :=
  ⟨by with_unfolding_all rfl, by decide⟩

end GoogIndex.Scan
