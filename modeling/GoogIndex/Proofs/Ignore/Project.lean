/-
  Proofs/Ignore/Project.lean --- the patterns of a project with one more file.

  The patterns come from the ignore files that are looked for, and those are named by
  the folders of the project.  A file that is none of them can be added or replaced
  without a change to the patterns.
-/
import GoogIndex.Ignore.Project
import GoogIndex.Proofs.Ignore.Compilation
import GoogIndex.Proofs.Storage.Walk

set_option autoImplicit false

namespace GoogIndex.Ignore

open GoogIndex.Storage

/-! ## The ignore files of a project -/

/-- The names that lead to the folders, among some entries and below, whose ignore files
of version control are looked for. -/
def versionFolders (project : PathName) : (names : List Text) → Folder → List (List Text)
  | _, .empty => []
  | names, .file _ _ _ rest => versionFolders project names rest
  | names, .link _ _ rest => versionFolders project names rest
  | names, .folder name _ inner rest =>
      if !skippedFolders.contains name && Tree.canBeListed project (names ++ [name]) then
        (names ++ [name]) ::
          (versionFolders project (names ++ [name]) inner ++ versionFolders project names rest)
      else versionFolders project names rest

/-- The names that lead to the ignore files of version control that are looked for. -/
def versionFiles (t : Tree) (project : PathName) : List (List Text) :=
  match t.lookup true project.toText with
  | .ok (_, .folder _ entries) =>
      ([] :: versionFolders project [] entries).map fun names => names ++ [versionIgnoreFile]
  | _ => []

/-- The names that lead to the ignore files that are looked for. -/
def ignoreFiles (t : Tree) (project : PathName) (withVersionFiles : Bool) : List (List Text) :=
  [ignoreFile] :: if withVersionFiles then versionFiles t project else []

/-! ## The parts of the patterns -/

section parts

variable {t : Tree} {project : PathName} {withVersionFiles : Bool} {spec : Spec}

/-- The patterns are made of the lines of version control and those of the project. -/
theorem lines_of_loadSpec (h : loadSpec t project withVersionFiles = .ok spec) :
    ∃ version own, (if withVersionFiles then versionLines t project else .ok []) = .ok version ∧
      projectLines t project = .ok own ∧ Spec.ofLines (version ++ own) = .ok spec := by
  unfold loadSpec at h
  simp only at h
  split at h
  · cases h
  rename_i lines hlines
  have hread : ((if withVersionFiles then versionLines t project else .ok []).bind fun version =>
      (projectLines t project).bind fun own => .ok (version ++ own)) = .ok lines := by
    rw [← hlines]
    cases withVersionFiles <;> rfl
  cases hv : (if withVersionFiles then versionLines t project else .ok []) with
  | error f =>
      rw [hv] at hread
      cases hread
  | ok version =>
      cases ho : projectLines t project with
      | error f =>
          rw [hv, ho] at hread
          cases hread
      | ok own =>
          rw [hv, ho] at hread
          cases hread
          refine ⟨version, own, rfl, rfl, ?_⟩
          split at h
          · cases h
          · rename_i found hfound
            cases h
            exact hfound

/-- Lines of both kinds make the patterns. -/
theorem loadSpec_of_lines {version own : List Text}
    (hv : (if withVersionFiles then versionLines t project else .ok []) = .ok version)
    (ho : projectLines t project = .ok own) (h : Spec.ofLines (version ++ own) = .ok spec) :
    loadSpec t project withVersionFiles = .ok spec := by
  unfold loadSpec
  cases withVersionFiles with
  | false =>
      cases hv
      rw [List.nil_append] at h
      simp only [ho, h, bind, Except.bind, pure, Except.pure, Bool.false_eq_true, if_false,
        List.nil_append]
  | true =>
      rw [if_pos rfl] at hv
      simp only [hv, ho, h, bind, Except.bind, pure, Except.pure, if_true]

end parts

/-! ## Lines and listings -/

section listing

variable (t : Tree) (project : PathName)

theorem versionFolders_listing (names : List Text) (entries : Folder) :
    versionFolders project names entries.listing = versionFolders project names entries := by
  induction entries generalizing names with
  | empty => rfl
  | file name a content rest ih => exact ih names
  | link name target rest ih => exact ih names
  | folder name a inner rest ihinner ih => simp only [Folder.listing, versionFolders, ihinner, ih]

theorem ownLines_listing (names : List Text) (entries : Folder) :
    ownLines t project names entries.listing = ownLines t project names entries := by
  rw [ownLines, ownLines, Folder.find?_listing]
  cases entries.find? versionIgnoreFile with
  | none => rfl
  | some node => simp only [Option.map_some, Tree.seesFolder_listing]

theorem innerLines_listing (names : List Text) (entries : Folder) :
    innerLines t project names entries.listing = innerLines t project names entries := by
  induction entries generalizing names with
  | empty => rfl
  | file name a content rest ih => exact ih names
  | link name target rest ih => simp only [Folder.listing, innerLines, ih]
  | folder name a inner rest ihinner ih =>
      simp only [Folder.listing, innerLines, ownLines_listing, ihinner, ih,
        Tree.liesBeyond_folder]

end listing

/-! ## Lines with a new file -/

section renews

variable {s s' : Tree} {place : Location} {project : PathName} {base : Location}

/-- The ignore file of a folder gives the same lines with another file. -/
theorem ownLines_of_find? (h : Tree.Renews s s' place)
    (hstart : Tree.SameStart s s' project.anchor) {names : List Text}
    {entries entries' : Folder}
    (hfile : s'.Apart project place (names ++ [versionIgnoreFile]))
    (hfind : entries'.find? versionIgnoreFile = entries.find? versionIgnoreFile)
    {lines : List Text} (hlines : ownLines s project names entries = .ok lines) :
    ownLines s' project names entries' = .ok lines := by
  unfold ownLines at hlines ⊢
  rw [hfind]
  cases hnode : entries.find? versionIgnoreFile with
  | none =>
      rw [hnode] at hlines
      exact hlines
  | some found =>
      simp only [hnode] at hlines ⊢
      rw [h.seesFolder_eq hstart]
      split at hlines
      · rename_i hfolder
        rw [if_pos hfolder]
        exact hlines
      · rename_i hfolder
        rw [if_neg hfolder]
        have hresolved := hfile.resolved
        rw [← List.append_assoc] at hresolved
        split at hlines
        · cases hlines
        · rename_i text htext
          rw [h.textOf_of_ok (hstart _) hresolved htext]
          exact hlines

/-- Lines behind a link are those of the entries after it. -/
theorem innerLines_link {t : Tree} {names : List Text} {name target : Text} {rest : Folder}
    {lines : List Text} (h : innerLines t project names (.link name target rest) = .ok lines) :
    innerLines t project names rest = .ok lines := by
  rw [innerLines] at h
  split at h
  · exact h
  · split at h
    · cases h
    · exact h

/-- The lines of a folder and of those behind it are the same if their parts are, for the
folders whose ignore files are looked for. -/
theorem innerLines_folder {P : List Text → Prop} {names : List Text} {name : Text}
    {a a' : Attributes} {inner inner' rest rest' : Folder} {lines : List Text}
    (hfiles : ∀ folder ∈ versionFolders project names (.folder name a' inner' rest'), P folder)
    (hown : P (names ++ [name]) → ∀ {own},
      ownLines s project (names ++ [name]) inner = .ok own →
        ownLines s' project (names ++ [name]) inner' = .ok own)
    (hdeeper : (∀ folder ∈ versionFolders project (names ++ [name]) inner', P folder) →
      ∀ {deeper}, innerLines s project (names ++ [name]) inner = .ok deeper →
        innerLines s' project (names ++ [name]) inner' = .ok deeper)
    (hothers : (∀ folder ∈ versionFolders project names rest', P folder) → ∀ {others},
      innerLines s project names rest = .ok others →
        innerLines s' project names rest' = .ok others)
    (hlines : innerLines s project names (.folder name a inner rest) = .ok lines) :
    innerLines s' project names (.folder name a' inner' rest') = .ok lines := by
  rw [versionFolders] at hfiles
  rw [innerLines] at hlines ⊢
  cases hskip : skippedFolders.contains name with
  | true =>
      rw [hskip, if_pos rfl] at hlines
      rw [hskip] at hfiles
      exact hothers hfiles hlines
  | false =>
      rw [hskip, if_neg Bool.false_ne_true] at hlines
      rw [if_neg Bool.false_ne_true]
      split at hlines
      · cases hlines
      rename_i hnear
      -- being in reach does not depend on what is in the folder
      have hnear' : ¬ s'.liesBeyond versionCalls project names name (.folder a' inner') = true :=
        hnear
      rw [if_neg hnear']
      cases hlisted : Tree.canBeListed project (names ++ [name]) with
      | false =>
          rw [hlisted] at hlines hfiles
          simp only [hskip, Bool.not_false, Bool.and_false, Bool.false_eq_true, if_false]
            at hlines hfiles ⊢
          exact hothers hfiles hlines
      | true =>
          rw [hlisted] at hlines hfiles
          simp only [hskip, Bool.not_false, Bool.and_self, if_true] at hlines hfiles ⊢
          have hinner : ∀ folder ∈ versionFolders project (names ++ [name]) inner', P folder :=
            fun folder hfolder =>
              hfiles folder (List.mem_cons_of_mem _ (List.mem_append_left _ hfolder))
          have hrest : ∀ folder ∈ versionFolders project names rest', P folder :=
            fun folder hfolder =>
              hfiles folder (List.mem_cons_of_mem _ (List.mem_append_right _ hfolder))
          obtain ⟨own, ho, hlines⟩ := bind_eq_ok_iff.mp hlines
          obtain ⟨deeper, hd, hlines⟩ := bind_eq_ok_iff.mp hlines
          obtain ⟨others, hr, hlines⟩ := bind_eq_ok_iff.mp hlines
          rw [hown (hfiles _ List.mem_cons_self) ho, hdeeper hinner hd, hothers hrest hr]
          exact hlines

/-- The lines among entries that begin with a link are the same if the link lies as deep and the
others give the same. -/
theorem innerLines_link_of {names : List Text} {name target : Text} {rest rest' : Folder}
    {lines : List Text}
    (hbeyond : s'.liesBeyond versionCalls project names name (.link target) =
      s.liesBeyond versionCalls project names name (.link target))
    (hothers : innerLines s project names rest = .ok lines →
      innerLines s' project names rest' = .ok lines)
    (hlines : innerLines s project names (.link name target rest) = .ok lines) :
    innerLines s' project names (.link name target rest') = .ok lines := by
  rw [innerLines] at hlines ⊢
  rw [hbeyond]
  split at hlines
  · rename_i hskip
    rw [if_pos hskip]
    exact hothers hlines
  · rename_i hskip
    split at hlines
    · cases hlines
    · rename_i hnear
      rw [if_neg hskip, if_neg hnear]
      exact hothers hlines

/-- Entries that are there in both trees give the same lines. -/
theorem innerLines_of_same (h : Tree.Renews s s' place)
    (hstart : Tree.SameStart s s' project.anchor) {names : List Text} {entries : Folder}
    (hfiles : ∀ folder ∈ versionFolders project names entries,
      s'.Apart project place (folder ++ [versionIgnoreFile]))
    {lines : List Text} (hlines : innerLines s project names entries = .ok lines) :
    innerLines s' project names entries = .ok lines := by
  induction entries generalizing names lines with
  | empty => exact hlines
  | file name a content rest ih => exact ih hfiles hlines
  | link name target rest ih =>
      exact innerLines_link_of (h.liesBeyond_eq hstart _ _ _ _) (ih hfiles) hlines
  | folder name a inner rest ihinner ih =>
      refine innerLines_folder hfiles (fun hfile own hown => ?_) ihinner ih hlines
      exact ownLines_of_find? h hstart hfile rfl hown

/-- The ignore file of a folder with another new file gives the same lines. -/
theorem ownLines_of_renewed (h : Tree.Renews s s' place)
    (hstart : Tree.SameStart s s' project.anchor) {names : List Text} {here : Location}
    {entries entries' : Folder} {way : Location} (hway : here ++ way = place)
    (hrenewed : entries.Renewed way entries') (hhere : here = base ++ names) {node : Node}
    (hroot : s'.lookup true project.toText = .ok (base, node))
    (hfile : s'.Apart project place (names ++ [versionIgnoreFile]))
    {lines : List Text} (hlines : ownLines s project names entries = .ok lines) :
    ownLines s' project names entries' = .ok lines := by
  cases way with
  | nil => cases hrenewed
  | cons first more =>
      by_cases hfirst : versionIgnoreFile = first
      · subst hfirst
        rcases hrenewed.find?_self with ⟨rfl, _⟩ | ⟨a, inner, inner', hfind, hfind', _⟩
        · refine absurd ?_ (hfile.ne hroot)
          rw [← hway, hhere, List.append_assoc]
        · -- a folder of this name is no ignore file, whatever is in it
          simp only [ownLines, hfind, hfind', Tree.seesFolder, if_true] at hlines ⊢
          exact hlines
      · exact ownLines_of_find? h hstart hfile (hrenewed.find?_of_ne hfirst) hlines

/-- Entries among which, or behind which, the new file is give the same lines. -/
theorem innerLines_of_renewed (h : Tree.Renews s s' place)
    (hstart : Tree.SameStart s s' project.anchor) {node : Node}
    (hroot : s'.lookup true project.toText = .ok (base, node)) {names : List Text}
    {here : Location} {entries entries' : Folder} {way : Location}
    (hrenewed : entries.Renewed way entries') (hway : here ++ way = place)
    (hhere : here = base ++ names)
    (hfiles : ∀ folder ∈ versionFolders project names entries',
      s'.Apart project place (folder ++ [versionIgnoreFile]))
    {lines : List Text} (hlines : innerLines s project names entries = .ok lines) :
    innerLines s' project names entries' = .ok lines := by
  induction hrenewed generalizing names here lines with
  | added name a content rest => exact innerLines_of_same h hstart hfiles hlines
  | overFile name a a' content content' rest => exact innerLines_of_same h hstart hfiles hlines
  | overLink name target a content rest =>
      exact innerLines_of_same h hstart hfiles (innerLines_link hlines)
  | @inside more inner inner' name a rest deeper ih =>
      have hthere : here ++ [name] = base ++ (names ++ [name]) := by
        rw [hhere, List.append_assoc]
      have hmore : (here ++ [name]) ++ more = place := by
        rw [List.append_assoc]
        exact hway
      refine innerLines_folder hfiles (fun hfile own hown => ?_) (ih hmore hthere)
        (innerLines_of_same h hstart) hlines
      exact ownLines_of_renewed h hstart hmore deeper hthere hroot hfile hown
  | file a content other _ ih => exact ih hway hhere hfiles hlines
  | link target other _ ih =>
      exact innerLines_link_of (h.liesBeyond_eq hstart _ _ _ _) (ih hway hhere hfiles) hlines
  | folder a inner other _ ih =>
      refine innerLines_folder hfiles (fun hfile own hown => ?_) (innerLines_of_same h hstart)
        (ih hway hhere) hlines
      exact ownLines_of_find? h hstart hfile rfl hown

/-- The ignore files of version control give the same lines with another file. -/
theorem versionLines_of_renews (h : Tree.Renews s s' place)
    (hstart : Tree.SameStart s s' project.anchor) {a : Attributes} {entries : Folder}
    (hroot : s.lookup true project.toText = .ok (base, .folder a entries))
    (hfiles : ∀ names ∈ versionFiles s' project, s'.Apart project place names)
    {lines : List Text} (hlines : versionLines s project = .ok lines) :
    versionLines s' project = .ok lines := by
  obtain ⟨a', entries', hroot', hcases⟩ := h.lookup_folder (hstart _) hroot
  simp only [versionFiles, hroot'] at hfiles
  have hown : s'.Apart project place ([] ++ [versionIgnoreFile]) :=
    hfiles _ (List.mem_map_of_mem List.mem_cons_self)
  have hinner : ∀ folder ∈ versionFolders project [] entries'.listing,
      s'.Apart project place (folder ++ [versionIgnoreFile]) := by
    intro folder hfolder
    rw [versionFolders_listing] at hfolder
    exact hfiles _ (List.mem_map_of_mem (List.mem_cons_of_mem [] hfolder))
  simp only [versionLines, hroot] at hlines
  simp only [versionLines, hroot']
  rw [← ownLines_listing, ← innerLines_listing] at hlines ⊢
  cases ho : ownLines s project [] entries.listing with
  | error f =>
      rw [ho] at hlines
      cases hlines
  | ok own =>
      rw [ho] at hlines
      cases hd : innerLines s project [] entries.listing with
      | error f =>
          rw [hd] at hlines
          cases hlines
      | ok deeper =>
          rw [hd] at hlines
          rcases hcases with hsame | ⟨way, hway, hrenewed⟩
          · rw [hsame] at hinner ⊢
            rw [ownLines_of_find? h hstart hown rfl ho, innerLines_of_same h hstart hinner hd]
            exact hlines
          · have hbase : base = base ++ [] := (List.append_nil base).symm
            rw [ownLines_of_renewed h hstart hway hrenewed hbase hroot' hown ho,
              innerLines_of_renewed h hstart hroot' hrenewed hway hbase hinner hd]
            exact hlines

/-- The project's own ignore file gives the same lines with another file. -/
theorem projectLines_of_renews (h : Tree.Renews s s' place)
    (hstart : Tree.SameStart s s' project.anchor)
    (hfile : s'.Apart project place [ignoreFile]) {lines : List Text}
    (hlines : projectLines s project = .ok lines) : projectLines s' project = .ok lines := by
  have hchild : project.child ignoreFile = ⟨project.anchor, project.names ++ [ignoreFile]⟩ := by
    have hname : PathName.ofText ignoreFile = ⟨.relative, [ignoreFile]⟩ := by decide
    rw [PathName.child, hname]
    rfl
  have hpath := hfile.resolved
  have hsame := hstart (project.names ++ [ignoreFile])
  rw [← hchild] at hpath hsame
  simp only [projectLines] at hlines ⊢
  cases hasks : s.leadsSomewhere (project.child ignoreFile).toText with
  | error f =>
      rw [hasks] at hlines
      cases hlines
  | ok answer =>
      have hasks' : s'.leadsSomewhere (project.child ignoreFile).toText = .ok answer :=
        h.asks_of_ok (q := fun _ => true) hsame hpath (fun _ => rfl) hasks
      rw [hasks] at hlines
      rw [hasks']
      cases answer with
      | false => exact hlines
      | true =>
          cases htext : s.textOf (project.child ignoreFile).toText with
          | error f =>
              simp only [htext] at hlines
              cases hlines
          | ok text =>
              simp only [htext] at hlines
              simp only [h.textOf_of_ok hsame hpath htext]
              exact hlines

/-- A project has the same patterns with a new file that is none of its ignore files. -/
theorem loadSpec_of_renews (h : Tree.Renews s s' place)
    (hstart : Tree.SameStart s s' project.anchor) {a : Attributes} {entries : Folder}
    (hroot : s.lookup true project.toText = .ok (base, .folder a entries))
    {withVersionFiles : Bool}
    (hfiles : ∀ names ∈ ignoreFiles s' project withVersionFiles, s'.Apart project place names)
    {spec : Spec} (hspec : loadSpec s project withVersionFiles = .ok spec) :
    loadSpec s' project withVersionFiles = .ok spec := by
  obtain ⟨version, own, hv, ho, hlines⟩ := lines_of_loadSpec hspec
  rw [ignoreFiles, List.forall_mem_cons] at hfiles
  obtain ⟨hownFile, hversionFiles⟩ := hfiles
  refine loadSpec_of_lines ?_ (projectLines_of_renews h hstart hownFile ho) hlines
  cases withVersionFiles with
  | false =>
      rw [if_neg Bool.false_ne_true] at hv ⊢
      exact hv
  | true =>
      rw [if_pos rfl] at hversionFiles hv ⊢
      exact versionLines_of_renews h hstart hroot hversionFiles hv

end renews

end GoogIndex.Ignore
