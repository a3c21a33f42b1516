/-
  Proofs/Scan/Discovery.lean --- the sources of a project with one more file.

  A scan that finds its sources finds the same ones when a file is added or replaced
  that is neither a source nor an ignore file.  The paths of sources are in normal form:
  their names are the names of entries.
-/
import GoogIndex.Proofs.Ignore.Project
import GoogIndex.Proofs.Storage.RealPath
import GoogIndex.Proofs.Storage.Walk
import GoogIndex.Scan.Project

set_option autoImplicit false

namespace GoogIndex.Scan

open GoogIndex.Ignore GoogIndex.Storage

/-! ## The root -/

/-- Everything that opening a root says about it. -/
theorem resolved_of_openRoot {t : Tree} {given : Text} {root : PathName}
    (h : openRoot t given = .ok root) :
    root = ⟨.root, (t.realPath (PathName.ofText given).toText).location⟩ ∧
      ∃ base a entries, t.lookup true root.toText = .ok (base, .folder a entries) := by
  unfold openRoot at h
  cases hresolved : resolveRoot t given with
  | error f =>
      rw [hresolved] at h
      cases h
  | ok path =>
      rw [hresolved] at h
      simp only [bind, Except.bind] at h
      split at h
      · cases h
      · cases h
      · rename_i hfolder
        cases h
        refine ⟨?_, Tree.isFolder_eq_true_iff.mp hfolder⟩
        unfold resolveRoot at hresolved
        simp only at hresolved
        split at hresolved
        · cases hresolved
        · split at hresolved
          · cases hresolved
          · cases hresolved
            rfl

theorem rootBreach?_of_openRoot {t : Tree} {given : Text} {root : PathName}
    (h : openRoot t given = .ok root) : rootBreach? t (PathName.ofText given) = none := by
  cases hbreach : rootBreach? t (PathName.ofText given) with
  | none => rfl
  | some b =>
      simp only [openRoot, resolveRoot, hbreach] at h
      cases h

/-- What keeps a root from being resolved is found on its real paths. -/
theorem rootBreach?_congr {t t' : Tree} (h : ∀ path, t.realPath path = t'.realPath path)
    (root : PathName) : rootBreach? t root = rootBreach? t' root := by
  unfold rootBreach?
  simp only [h]

/-- A root that resolves to a folder can be opened. -/
theorem openRoot_of_folder {t : Tree} {given : Text} {root : PathName} {base : Location}
    {a : Attributes} {entries : Folder} (hresolved : resolveRoot t given = .ok root)
    (hfolder : t.lookup true root.toText = .ok (base, .folder a entries)) :
    openRoot t given = .ok root := by
  have h := Tree.isFolder_eq_true_iff.mpr ⟨base, a, entries, hfolder⟩
  simp only [openRoot, hresolved, bind, Except.bind, h]

/-- A root that can be opened without a file can be opened with it. -/
theorem openRoot_of_bare {t bare : Tree} {place : Location} (h : Tree.Lacks t bare place)
    {given : Text} {root : PathName} (hroot : openRoot bare given = .ok root) :
    openRoot t given = .ok root := by
  obtain ⟨hresolved, base, a, entries, hbase⟩ := resolved_of_openRoot hroot
  obtain ⟨a', entries', hfolder, _⟩ :=
    h.renews.lookup_folder (Tree.sameStart_of_working h.working.symm _ root.names) hbase
  refine openRoot_of_folder ?_ hfolder
  have hsound := rootBreach?_of_openRoot hroot
  rw [rootBreach?_congr fun path => h.realPath_eq path] at hsound
  rw [h.realPath_eq] at hresolved
  rw [resolveRoot]
  simp only [hsound, ← hresolved]
  simp only [Storage.Tree.node, hfolder, Except.map]

theorem openRoot_of_lacks {t bare : Tree} {place : Location} (h : Tree.Lacks t bare place)
    {given : Text} {root root' : PathName} (hroot : openRoot t given = .ok root)
    (hroot' : openRoot bare given = .ok root') : root' = root := by
  rw [(resolved_of_openRoot hroot).1, (resolved_of_openRoot hroot').1, h.realPath_eq]

theorem legal_of_openRoot {t : Tree} (h : t.WellFormed) {given : Text} {root : PathName}
    (hroot : openRoot t given = .ok root) : root.Legal := by
  rw [(resolved_of_openRoot hroot).1]
  exact Tree.proper_realPath h.2 _

/-- The path of a cache file is in normal form. -/
theorem normal_cachePath (settings : Settings) {root : PathName} (h : root.Legal)
    (asked : Option Text) :
    (PathName.ofText (settings.cachePath root asked)).toText =
      settings.cachePath root asked := by
  unfold Settings.cachePath
  rw [PathName.ofText_toText (PathName.legal_join h (PathName.legal_ofText _))]

/-- The path of a cache file is absolute, as the root of the scan is. -/
theorem isAbsolute_cachePath (settings : Settings) {root : PathName} (h : root.Legal)
    (hanchor : root.anchor = .root) (asked : Option Text) :
    (PathName.ofText (settings.cachePath root asked)).isAbsolute = true := by
  unfold Settings.cachePath
  rw [PathName.ofText_toText (PathName.legal_join h (PathName.legal_ofText _))]
  unfold PathName.join
  split
  · assumption
  · rw [PathName.isAbsolute, hanchor]
    rfl

/-! ## What was found -/

/-- The sources of a folder are its files and the sources of its folders. -/
theorem mem_ordered_iff {names source : List Text} {f : Found} :
    source ∈ f.ordered names ↔
      (∃ name ∈ f.files, source = names ++ [name]) ∨ ∃ entry ∈ f.folders, source ∈ entry.2 := by
  simp only [Found.ordered, sortNames, sortFolders, List.mem_append, List.mem_map,
    List.mem_flatMap, List.mem_mergeSort, eq_comm]

theorem mem_ordered_file {names source : List Text} {name : Text} {others : Found} :
    source ∈ ({ others with files := name :: others.files } : Found).ordered names ↔
      source = names ++ [name] ∨ source ∈ others.ordered names := by
  simp only [mem_ordered_iff, List.mem_cons, exists_eq_or_imp, or_assoc]

theorem mem_ordered_folder {names source : List Text} {entry : Text × List (List Text)}
    {others : Found} :
    source ∈ ({ others with folders := entry :: others.folders } : Found).ordered names ↔
      source ∈ entry.2 ∨ source ∈ others.ordered names := by
  simp only [mem_ordered_iff, List.mem_cons, exists_eq_or_imp, or_left_comm]

/-- Sorting leaves the sources the same, each as often as before. -/
theorem perm_ordered (names : List Text) (f : Found) : (f.ordered names).Perm
    (f.files.map (fun name => names ++ [name]) ++ f.folders.flatMap (·.2)) :=
  ((List.mergeSort_perm _ _).map _).append ((List.mergeSort_perm _ _).flatMap_right _)

theorem nodup_ordered_file {names : List Text} {name : Text} {others : Found} :
    (({ others with files := name :: others.files } : Found).ordered names).Nodup ↔
      names ++ [name] ∉ others.ordered names ∧ (others.ordered names).Nodup := by
  rw [(perm_ordered names _).nodup_iff, (perm_ordered names others).nodup_iff,
    (perm_ordered names others).mem_iff, List.map_cons, List.cons_append, List.nodup_cons]

theorem nodup_ordered_folder {names : List Text} {entry : Text × List (List Text)}
    {others : Found} :
    (({ others with folders := entry :: others.folders } : Found).ordered names).Nodup ↔
      entry.2.Nodup ∧ (others.ordered names).Nodup ∧
        ∀ source ∈ entry.2, source ∉ others.ordered names := by
  have hperm : (({ others with folders := entry :: others.folders } : Found).ordered names).Perm
      (entry.2 ++ others.ordered names) := by
    refine (perm_ordered names _).trans (.trans ?_ ((perm_ordered names others).symm.append_left _))
    rw [List.flatMap_cons, ← List.append_assoc, ← List.append_assoc]
    exact List.perm_append_comm.append_right _
  rw [hperm.nodup_iff, List.nodup_append]
  exact and_congr_right fun _ => and_congr_right fun _ =>
    ⟨fun h source hs hs' => h source hs source hs' rfl,
      fun h source hs other ho heq => h source hs (heq ▸ ho)⟩

/-- The names of sources are those of entries. -/
theorem proper_of_findAmong {t : Tree} {filter : Filter} {root : PathName} {names : List Text}
    {entries : Folder} (hentries : entries.WellFormed) (hnames : Tree.Proper names)
    {source : List Text}
    (h : source ∈ (findAmong t filter root names entries).ordered names) : Tree.Proper source := by
  induction entries generalizing names source with
  | empty => simp [findAmong, mem_ordered_iff] at h
  | file name a content rest ih =>
      rw [findAmong] at h
      split at h
      · rcases mem_ordered_file.mp h with rfl | hrest
        · exact Tree.proper_concat hnames hentries.1
        · exact ih hentries.2.2 hnames hrest
      · exact ih hentries.2.2 hnames h
  | link name target rest ih =>
      rw [findAmong] at h
      split at h
      · rcases mem_ordered_file.mp h with rfl | hrest
        · exact Tree.proper_concat hnames hentries.1
        · exact ih hentries.2.2 hnames hrest
      · exact ih hentries.2.2 hnames h
  | folder name a inner rest ihinner ih =>
      rw [findAmong] at h
      split at h
      · rcases mem_ordered_folder.mp h with hinside | hrest
        · exact ihinner hentries.2.2.1 (Tree.proper_concat hnames hentries.1) hinside
        · exact ih hentries.2.2.2 hnames hrest
      · exact ih hentries.2.2.2 hnames h

/-! ### What a source is -/

/-- What stands at the end of the names of a source is no folder, not even for a walk that
follows links; and none of the names is a step upwards. -/
structure SourceAt (t : Tree) (root : PathName) (names : List Text) (here : Location)
    (way : List Text) (name : Text) : Prop where
  down : (".." : Text) ∉ way ++ [name]
  entry : ∃ node, t.at? (here ++ way ++ [name]) = some node ∧
    t.seesFolder root (names ++ way ++ [name]) node = false

theorem SourceAt.behind {t : Tree} {root : PathName} {names : List Text} {here : Location}
    {first name : Text} {way : List Text}
    (h : SourceAt t root (names ++ [first]) (here ++ [first]) way name) (hfirst : first ≠ "..") :
    SourceAt t root names here (first :: way) name := by
  refine ⟨?_, ?_⟩
  · rw [List.cons_append, List.mem_cons, not_or]
    exact ⟨Ne.symm hfirst, h.down⟩
  · have hsplit : ∀ front : List Text, front ++ first :: way = front ++ [first] ++ way := by simp
    rw [hsplit here, hsplit names]
    exact h.entry

/-- What holds of the entries of a folder holds of its first entry and of the others. -/
theorem at?_of_cons {t : Tree} {here : Location} {name : Text} (node : Node) {rest : Folder}
    (hnone : rest.find? name = none)
    (hat : ∀ n found, (Folder.cons name node rest).find? n = some found →
      t.at? (here ++ [n]) = some found) :
    t.at? (here ++ [name]) = some node ∧
      ∀ n found, rest.find? n = some found → t.at? (here ++ [n]) = some found := by
  refine ⟨hat name node (by cases node <;> simp [Folder.cons, Folder.find?]), ?_⟩
  intro n found hfind
  have hne : name ≠ n := by
    rintro rfl
    rw [hnone] at hfind
    cases hfind
  refine hat n found ?_
  rw [← hfind]
  cases node <;> simp [Folder.cons, Folder.find?, hne]

/-- Whatever is found among the entries of a folder is a source. -/
theorem sourceAt_of_findAmong {t : Tree} {filter : Filter} {root : PathName} {names : List Text}
    {here : Location} {entries : Folder} (hwell : entries.WellFormed)
    (hup : (".." : Text) ∉ entries.allNames)
    (hat : ∀ n found, entries.find? n = some found → t.at? (here ++ [n]) = some found)
    {source : List Text} (h : source ∈ (findAmong t filter root names entries).ordered names) :
    ∃ way name, source = names ++ way ++ [name] ∧ SourceAt t root names here way name := by
  induction entries generalizing names here source with
  | empty => simp [findAmong, mem_ordered_iff] at h
  | file name a content rest ih =>
      obtain ⟨hfirst, hrest⟩ := at?_of_cons (.file a content) hwell.2.1 hat
      rw [Folder.allNames, List.mem_cons, not_or] at hup
      rw [findAmong] at h
      split at h
      · rcases mem_ordered_file.mp h with rfl | h
        · refine ⟨[], name, by simp, by simpa using hup.1, .file a content, ?_, rfl⟩
          rwa [List.append_nil]
        · exact ih hwell.2.2 hup.2 hrest h
      · exact ih hwell.2.2 hup.2 hrest h
  | link name target rest ih =>
      obtain ⟨hfirst, hrest⟩ := at?_of_cons (.link target) hwell.2.1 hat
      rw [Folder.allNames, List.mem_cons, not_or] at hup
      rw [findAmong] at h
      split at h
      · rename_i hkept
        rcases mem_ordered_file.mp h with rfl | h
        · rw [Bool.and_eq_true, Bool.not_eq_true'] at hkept
          refine ⟨[], name, by simp, by simpa using hup.1, .link target, ?_, ?_⟩
          · rwa [List.append_nil]
          · rw [List.append_nil]
            exact hkept.1
        · exact ih hwell.2.2 hup.2 hrest h
      · exact ih hwell.2.2 hup.2 hrest h
  | folder name a inner rest ihinner ih =>
      obtain ⟨hfirst, hrest⟩ := at?_of_cons (.folder a inner) hwell.2.1 hat
      rw [Folder.allNames, List.mem_cons, List.mem_append, not_or, not_or] at hup
      have hinner : ∀ n found, inner.find? n = some found →
          t.at? (here ++ [name] ++ [n]) = some found := by
        intro n found hfind
        rw [Tree.at?_child hfirst, hfind]
      rw [findAmong] at h
      split at h
      · rcases mem_ordered_folder.mp h with h | h
        · obtain ⟨way, last, hsource, hsourceAt⟩ := ihinner hwell.2.2.1 hup.2.1 hinner h
          exact ⟨name :: way, last, by simpa using hsource, hsourceAt.behind (Ne.symm hup.1)⟩
        · exact ih hwell.2.2.2 hup.2.2 hrest h
      · exact ih hwell.2.2.2 hup.2.2 hrest h

theorem SourceAt.tail {t : Tree} {root : PathName} {names : List Text} {here : Location}
    {first name : Text} {way : List Text}
    (h : SourceAt t root names here (first :: way) name) :
    first ≠ ".." ∧ t.shapeAt (here ++ [first]) = some .folder ∧
      SourceAt t root (names ++ [first]) (here ++ [first]) way name := by
  obtain ⟨hdown, node, hat, hentry⟩ := h
  rw [List.cons_append, List.mem_cons, not_or] at hdown
  have hsplit : ∀ front : List Text, front ++ first :: way = front ++ [first] ++ way := by simp
  rw [hsplit] at hat hentry
  refine ⟨Ne.symm hdown.1, ?_, hdown.2, node, hat, hentry⟩
  have hshape : t.shapeAt (here ++ [first] ++ (way ++ [name])) = some node.shape := by
    rw [← List.append_assoc, Tree.shapeAt, hat, Option.map_some]
  cases way with
  | nil => exact Tree.folder_of_shapeAt_append hshape
  | cons next more => exact Tree.folder_of_shapeAt_append hshape

/-- A name that is no step upwards is a step down. -/
theorem ofName_eq_down {n : Text} (hn : IsName n) (hup : n ≠ "..") :
    Tree.Step.ofName n = .down n := by
  rw [Tree.Step.ofName, if_neg hn.2.1, if_neg hup]

/-- A route over the names of a source comes to its folder, and from there by its name. -/
theorem SourceAt.leads {t : Tree} {root : PathName} {names : List Text} {here stop : Location}
    {way : List Text} {name : Text} (h : SourceAt t root names here way name)
    (hproper : Tree.Proper (way ++ [name])) {k : Nat}
    (hleads : t.Leads k here ((way ++ [name]).map Tree.Step.ofName) stop) :
    t.Leads k (here ++ way) [.down name] stop := by
  induction way generalizing names here with
  | nil =>
      have hup : name ≠ ".." := by simpa [eq_comm] using h.down
      rw [List.nil_append, List.map_singleton, ofName_eq_down (hproper name (by simp)) hup]
        at hleads
      rwa [List.append_nil]
  | cons first more ih =>
      obtain ⟨hup, hfolder, htail⟩ := h.tail
      rw [List.cons_append, List.map_cons, ofName_eq_down (hproper first (by simp)) hup] at hleads
      have hnext : here ++ first :: more = here ++ [first] ++ more := by simp
      rw [hnext]
      have hrest : Tree.Proper (more ++ [name]) := fun n hn =>
        hproper n (List.mem_cons_of_mem first hn)
      cases hleads with
      | down _ _ _ _ hmore => exact ih htail hrest hmore
      | link _ _ entry _ =>
          rw [hfolder] at entry
          cases entry

/-- What the path of a source leads to is no folder. -/
theorem SourceAt.not_folder {t : Tree} {root : PathName} {names : List Text}
    {here stop : Location} {way : List Text} {name : Text} {node : Node}
    (h : SourceAt t root names here way name) (hproper : Tree.Proper (way ++ [name])) {k : Nat}
    (hleads : t.Leads k here ((way ++ [name]).map Tree.Step.ofName) stop)
    (hpath : t.lookup true (root.below (names ++ way ++ [name])) = .ok (stop, node)) :
    node.shape ≠ .folder := by
  intro hnode
  obtain ⟨a, inner, rfl⟩ := shape_eq_folder_iff.mp hnode
  obtain ⟨_, _, _, _, hstop⟩ := Tree.lookup_eq_ok_iff.mp hpath
  obtain ⟨found, hat, hentry⟩ := h.entry
  cases h.leads hproper hleads with
  | down _ _ _ _ more =>
      cases more
      cases hat.symm.trans hstop
      cases hentry
  | link _ _ entry _ =>
      cases hat.symm.trans (Tree.shapeAt_eq_link_iff.mp entry)
      rw [Tree.seesFolder_link_iff.mpr ⟨stop, a, inner, hpath⟩] at hentry
      cases hentry

theorem findAmong_listing (t : Tree) (filter : Filter) (root : PathName) (names : List Text)
    (entries : Folder) :
    findAmong t filter root names entries.listing = findAmong t filter root names entries := by
  induction entries generalizing names with
  | empty => rfl
  | file name a content rest ih => simp only [Folder.listing, findAmong, ih]
  | link name target rest ih => simp only [Folder.listing, findAmong, ih]
  | folder name a inner rest ihinner ih => simp only [Folder.listing, findAmong, ih, ihinner]

/-- A file that is no source is not kept. -/
theorem keepsFile_of_not_mem {t : Tree} {filter : Filter} {root : PathName} {names : List Text}
    {name : Text} {a : Attributes} {content : List UInt8} {rest : Folder}
    (h : names ++ [name] ∉
      (findAmong t filter root names (.file name a content rest)).ordered names) :
    filter.keepsFile names name = false := by
  rw [← Bool.not_eq_true]
  intro hkeeps
  rw [findAmong, if_pos hkeeps] at h
  exact h (mem_ordered_file.mpr (.inl rfl))

section renews

variable {s s' : Tree} {place : Location} {filter : Filter} {root : PathName}

/-- The same entries give the same sources in both trees. -/
theorem findAmong_of_same (h : Tree.Renews s s' place)
    (hstart : Tree.SameStart s s' root.anchor) (filter : Filter) (names : List Text)
    (entries : Folder) :
    findAmong s' filter root names entries = findAmong s filter root names entries := by
  induction entries generalizing names with
  | empty => rfl
  | file name a content rest ih => simp only [findAmong, ih]
  | link name target rest ih => simp only [findAmong, ih, h.seesFolder_eq hstart]
  | folder name a inner rest ihinner ih => simp only [findAmong, ih, ihinner]

/-- A new file among the entries, or behind them, gives the same sources, unless it is one
itself. -/
theorem findAmong_of_renewed (h : Tree.Renews s s' place)
    (hstart : Tree.SameStart s s' root.anchor) {names : List Text}
    {entries entries' : Folder} {way : Location} (hrenewed : entries.Renewed way entries')
    (hsource : names ++ way ∉ (findAmong s' filter root names entries').ordered names) :
    findAmong s' filter root names entries' = findAmong s filter root names entries := by
  induction hrenewed generalizing names with
  | added name a content rest =>
      rw [findAmong, keepsFile_of_not_mem hsource, findAmong_of_same h hstart]
      rfl
  | overFile name a a' content content' rest =>
      rw [findAmong, findAmong, keepsFile_of_not_mem hsource, findAmong_of_same h hstart]
  | overLink name target a content rest =>
      rw [findAmong, findAmong, keepsFile_of_not_mem hsource, findAmong_of_same h hstart,
        Bool.and_false]
  | @inside more inner inner' name a rest deeper ih =>
      rw [findAmong] at hsource ⊢
      rw [findAmong, findAmong_of_same h hstart filter names rest]
      by_cases hopen :
          (filter.entersFolder names name && Tree.canBeListed root (names ++ [name])) = true
      · rw [if_pos hopen] at hsource
        rw [ih]
        intro hmem
        rw [List.append_assoc] at hmem
        exact hsource (mem_ordered_folder.mpr (.inl hmem))
      · simp only [if_neg hopen]
  | file a content other later ih =>
      rw [findAmong] at hsource ⊢
      rw [findAmong, ih]
      intro hmem
      apply hsource
      split
      · exact mem_ordered_file.mpr (.inr hmem)
      · exact hmem
  | link target other later ih =>
      rw [findAmong] at hsource ⊢
      rw [findAmong, h.seesFolder_eq hstart, ih]
      intro hmem
      apply hsource
      split
      · exact mem_ordered_file.mpr (.inr hmem)
      · exact hmem
  | folder a inner other later ih =>
      rw [findAmong] at hsource ⊢
      rw [findAmong, findAmong_of_same h hstart, ih]
      intro hmem
      apply hsource
      split
      · exact mem_ordered_folder.mpr (.inr hmem)
      · exact hmem

end renews

/-! ## The sources of a project -/

section sources

variable {t : Tree} {filter : Filter}

/-- A search comes to its end where its root is a path and no folder lies beyond its calls. -/
theorem search_eq_ok_iff {root : PathName} {paths : List PathName} :
    search t filter root = .ok paths ↔
      breach? root.toText = none ∧ goesBeyond t filter root = false ∧
        discover t filter root = paths := by
  unfold search
  cases breach? root.toText <;> cases goesBeyond t filter root <;> simp

/-- The patterns of a project decide about its sources. -/
theorem discoverSources_of_loadSpec {root : PathName} {extensions : List Text}
    {withVersionFiles : Bool} {spec : Spec}
    (h : loadSpec t root withVersionFiles = .ok spec) :
    discoverSources t root extensions withVersionFiles =
      (search t ⟨extensions, spec.ignores⟩ root).mapError fun b =>
        .unreadable (.access (.broken b)) := by
  simp only [discoverSources, h, bind, Except.bind]

/-- Sources are what a search finds, as the ignore files of the root say. -/
theorem search_of_discoverSources {root : PathName} {extensions : List Text}
    {withVersionFiles : Bool} {paths : List PathName}
    (h : discoverSources t root extensions withVersionFiles = .ok paths) :
    ∃ spec, loadSpec t root withVersionFiles = .ok spec ∧
      search t ⟨extensions, spec.ignores⟩ root = .ok paths := by
  cases hspec : loadSpec t root withVersionFiles with
  | error f =>
      simp only [discoverSources, hspec, bind, Except.bind] at h
      cases h
  | ok spec =>
      rw [discoverSources_of_loadSpec hspec] at h
      refine ⟨spec, rfl, ?_⟩
      cases hsearch : search t ⟨extensions, spec.ignores⟩ root with
      | error b =>
          rw [hsearch] at h
          cases h
      | ok found =>
          rw [hsearch] at h
          cases h
          rfl

/-- The sources are found below the root, as its ignore files say. -/
theorem names_of_discoverSources {root : PathName} {extensions : List Text}
    {withVersionFiles : Bool} {paths : List PathName}
    (h : discoverSources t root extensions withVersionFiles = .ok paths) :
    ∃ spec, loadSpec t root withVersionFiles = .ok spec ∧
      paths = discover t ⟨extensions, spec.ignores⟩ root := by
  obtain ⟨spec, hspec, hsearch⟩ := search_of_discoverSources h
  exact ⟨spec, hspec, (search_eq_ok_iff.mp hsearch).2.2.symm⟩

/-- The names below the root of a discovered source. -/
theorem exists_names_of_mem_discover {root p : PathName} (h : p ∈ discover t filter root) :
    ∃ names ∈ sourceNames t filter root, p = ⟨root.anchor, root.names ++ names⟩ := by
  obtain ⟨names, hnames, rfl⟩ := List.mem_map.mp h
  exact ⟨names, hnames, rfl⟩

/-- Discovered paths are in normal form. -/
theorem normal_of_mem_discoverSources (ht : t.WellFormed) {root : PathName} (hlegal : root.Legal)
    {extensions : List Text} {withVersionFiles : Bool} {paths : List PathName}
    (h : discoverSources t root extensions withVersionFiles = .ok paths) {p : PathName}
    (hp : p ∈ paths) : PathName.ofText p.toText = p := by
  obtain ⟨spec, _, rfl⟩ := names_of_discoverSources h
  obtain ⟨names, hnames, rfl⟩ := exists_names_of_mem_discover hp
  refine PathName.ofText_toText fun n hn => ?_
  rcases List.mem_append.mp hn with hn | hn
  · exact hlegal n hn
  · unfold sourceNames at hnames
    split at hnames
    · rename_i base a entries hlookup
      obtain ⟨_, _, _, _, hat⟩ := Tree.lookup_eq_ok_iff.mp hlookup
      have hentries := Tree.wellFormed_of_nodeBelow ht.1 hat
      exact proper_of_findAmong hentries (fun _ hm => by cases hm) hnames n hn
    · cases hnames

end sources

/-- The file at a location is neither a source of the project nor one of its ignore files, and
no path of one leads to it. -/
structure Foreign (t : Tree) (root : PathName) (extensions : List Text)
    (withVersionFiles : Bool) (place : Location) : Prop where
  sources : ∀ paths, discoverSources t root extensions withVersionFiles = .ok paths →
    ∀ names, ⟨root.anchor, root.names ++ names⟩ ∈ paths → t.Apart root place names
  ignore : ∀ names ∈ ignoreFiles t root withVersionFiles, t.Apart root place names

instance (t : Tree) (root : PathName) (extensions : List Text) (withVersionFiles : Bool)
    (place : Location) : Decidable (Foreign t root extensions withVersionFiles place) :=
  decidable_of_iff
    ((∀ paths ∈ (discoverSources t root extensions withVersionFiles).toOption, ∀ p ∈ paths,
        p.anchor = root.anchor → root.names <+: p.names →
          t.Apart root place (p.names.drop root.names.length)) ∧
      ∀ names ∈ ignoreFiles t root withVersionFiles, t.Apart root place names) <| by
    refine ⟨fun h => ⟨fun paths hpaths names hnames => ?_, h.2⟩, fun h => ⟨?_, h.ignore⟩⟩
    · have happart := h.1 paths (by simp [hpaths, Except.toOption]) _ hnames rfl
        (List.prefix_append root.names names)
      rwa [List.drop_left] at happart
    · rintro paths hpaths ⟨anchor, _⟩ hp rfl ⟨names, rfl⟩
      rw [List.drop_left]
      refine h.sources paths ?_ names hp
      cases hfound : discoverSources t root extensions withVersionFiles with
      | error f => simp [hfound, Except.toOption] at hpaths
      | ok found => simpa [hfound, Except.toOption] using hpaths

theorem Foreign.away {t : Tree} {root : PathName} {extensions : List Text}
    {withVersionFiles : Bool} {place : Location}
    (h : Foreign t root extensions withVersionFiles place) {paths : List PathName}
    (hpaths : discoverSources t root extensions withVersionFiles = .ok paths) {p : PathName}
    (hp : p ∈ paths) : t.leadsTo p.toText place = false := by
  obtain ⟨spec, _, rfl⟩ := names_of_discoverSources hpaths
  obtain ⟨names, _, rfl⟩ := exists_names_of_mem_discover hp
  exact (h.sources _ hpaths names hp).resolved

/-- A project has the same sources with a new file that is neither one of them nor one of
its ignore files. -/
theorem discoverSources_of_renews {s s' : Tree} {place : Location} (h : Tree.Renews s s' place)
    {root : PathName} (hstart : Tree.SameStart s s' root.anchor) {base : Location}
    {a : Attributes} {entries : Folder}
    (hroot : s.lookup true root.toText = .ok (base, .folder a entries))
    {extensions : List Text} {withVersionFiles : Bool} {paths : List PathName}
    (hforeign : Foreign s' root extensions withVersionFiles place)
    (hpaths : discoverSources s root extensions withVersionFiles = .ok paths) :
    discoverSources s' root extensions withVersionFiles = .ok paths := by
  obtain ⟨spec, hspec, hsearch⟩ := search_of_discoverSources hpaths
  obtain ⟨hsound, hbeyond, rfl⟩ := search_eq_ok_iff.mp hsearch
  have hspec' := loadSpec_of_renews h hstart hroot hforeign.ignore hspec
  obtain ⟨a', entries', hroot', hcases⟩ := h.lookup_folder (hstart _) hroot
  simp only [goesBeyond, hroot] at hbeyond
  rw [← Tree.walksBeyond_listing] at hbeyond
  -- the search ends in the new tree too
  have hbeyond' : goesBeyond s' ⟨extensions, spec.ignores⟩ root = false := by
    simp only [goesBeyond, hroot']
    rw [← Tree.walksBeyond_listing]
    rcases hcases with hlisting | ⟨way, _, hrenewed⟩
    · rw [hlisting, h.walksBeyond_of_same hstart, hbeyond]
    · exact h.walksBeyond_of_renewed hstart hrenewed hbeyond
  have hfound : discoverSources s' root extensions withVersionFiles =
      .ok (discover s' ⟨extensions, spec.ignores⟩ root) := by
    rw [discoverSources_of_loadSpec hspec', search_eq_ok_iff.mpr ⟨hsound, hbeyond', rfl⟩]
    rfl
  have hsame : sourceNames s' ⟨extensions, spec.ignores⟩ root =
      sourceNames s ⟨extensions, spec.ignores⟩ root := by
    simp only [sourceNames, hroot, hroot']
    rw [← findAmong_listing s, ← findAmong_listing s']
    rcases hcases with hlisting | ⟨way, hway, hrenewed⟩
    · rw [hlisting, findAmong_of_same h hstart]
    · rw [findAmong_of_renewed h hstart hrenewed]
      intro hmem
      -- the file would be a source
      refine (hforeign.sources _ hfound way ?_).ne hroot' hway
      refine List.mem_map.mpr ⟨way, ?_, rfl⟩
      simp only [sourceNames, hroot']
      rwa [← findAmong_listing]
  rw [hfound, discover, discover, hsame]

/-- A discovered path that leads anywhere leads to no folder, if the root is absolute and storage
has no entry for the step upwards. -/
theorem not_folder_of_mem_discoverSources {t : Tree} (ht : t.WellFormed)
    (hup : (".." : Text) ∉ t.root.allNames) {root : PathName} (hlegal : root.Legal)
    (habsolute : root.isAbsolute = true) {extensions : List Text} {withVersionFiles : Bool}
    {paths : List PathName}
    (h : discoverSources t root extensions withVersionFiles = .ok paths) {p : PathName}
    (hp : p ∈ paths) {stop : Location} {node : Node}
    (hlookup : t.lookup true p.toText = .ok (stop, node)) : node.shape ≠ .folder := by
  obtain ⟨spec, _, rfl⟩ := names_of_discoverSources h
  have hnormal := normal_of_mem_discoverSources ht hlegal h hp
  obtain ⟨names, hnames, rfl⟩ := exists_names_of_mem_discover hp
  unfold sourceNames at hnames
  split at hnames
  case h_2 => cases hnames
  rename_i base a entries hroot
  obtain ⟨_, _, _, ⟨i, _, hbase⟩, hat⟩ := Tree.lookup_eq_ok_iff.mp hroot
  obtain ⟨_, _, _, ⟨k, _, hleads⟩, _⟩ := Tree.lookup_eq_ok_iff.mp hlookup
  have hentries := Tree.wellFormed_of_nodeBelow ht.1 hat
  have hproper := proper_of_findAmong hentries (fun _ hm => by cases hm) hnames
  obtain ⟨way, name, hsource, hsourceAt⟩ := sourceAt_of_findAmong hentries
    (fun hmem => hup (Tree.allNames_of_nodeBelow hat hmem))
    (fun n found hfind => by rw [Tree.at?_child hat, hfind]) hnames
  rw [List.nil_append] at hsource
  subst hsource
  -- the route of the path comes by the root
  have hplegal : (PathName.mk root.anchor (root.names ++ (way ++ [name]))).Legal := by
    rw [← hnormal]
    exact PathName.legal_ofText _
  have hthin := hleads.thin (thinned_steps_toText hplegal)
  have hrootThin := hbase.thin (thinned_steps_toText hlegal)
  rw [List.map_append] at hthin
  obtain ⟨i', j, middle, hij, hfirst, hlast⟩ := hthin.split _ _ rfl
  rw [start_toText t root.toText hplegal (by rw [PathName.ofText_toText hlegal])] at hfirst
  have hmiddle := hfirst.unique hrootThin
  subst hmiddle
  refine hsourceAt.not_folder hproper hlast ?_
  rw [PathName.below_of_absolute habsolute, List.nil_append]
  exact hlookup

/-- A project has the same sources without a file that is neither one of them nor one of
its ignore files. -/
theorem discoverSources_of_lacks {t bare : Tree} {place : Location}
    (h : Tree.Lacks t bare place) {root : PathName} {base : Location} {a : Attributes}
    {entries : Folder} (hroot : t.lookup true root.toText = .ok (base, .folder a entries))
    {extensions : List Text} {withVersionFiles : Bool} {paths paths' : List PathName}
    (hfiles : ∀ names ∈ ignoreFiles t root withVersionFiles, t.Apart root place names)
    (hpaths : discoverSources t root extensions withVersionFiles = .ok paths)
    (hsources : ∀ names, ⟨root.anchor, root.names ++ names⟩ ∈ paths → t.Apart root place names)
    (hpaths' : discoverSources bare root extensions withVersionFiles = .ok paths') :
    paths' = paths := by
  have hstart := Tree.sameStart_of_working h.working.symm root.anchor
  obtain ⟨a', entries', hbare⟩ := h.renews.lookup_folder_back (hstart root.names) hroot
  have hforeign : Foreign t root extensions withVersionFiles place := by
    refine ⟨fun found hfound => ?_, hfiles⟩
    cases hpaths.symm.trans hfound
    exact hsources
  have hsame := discoverSources_of_renews h.renews hstart hbare hforeign hpaths'
  cases hpaths.symm.trans hsame
  rfl

end GoogIndex.Scan
