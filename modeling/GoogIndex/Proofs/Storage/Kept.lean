/-
  Proofs/Storage/Kept.lean --- what is still there after a write.

  A write first makes the folders that are missing on the way to its target, which only
  adds to the tree.  Then it replaces the entry that the target designates.  If that
  entry led to a file, a path that led to some other file does so afterwards: where it
  went through the entry, it would have ended at the target's file.
-/
import GoogIndex.Proofs.Storage.Removal

set_option autoImplicit false

namespace GoogIndex.Storage.Tree

/-! ## Additions -/

/-- Everything in the first tree is in the second. -/
structure Extends (t t' : Tree) : Prop where
  working : t'.working = t.working
  shapes : ∀ location shape, t.shapeAt location = some shape →
    t'.shapeAt location = some shape

namespace Extends

theorem refl (t : Tree) : Extends t t := ⟨rfl, fun _ _ hl => hl⟩

theorem trans {t t' t'' : Tree} (h : Extends t t') (h' : Extends t' t'') : Extends t t'' :=
  ⟨h'.working.trans h.working, fun location shape hl => h'.shapes location shape
    (h.shapes location shape hl)⟩

/-- Paths lead where they led. -/
theorem lookup {t t' : Tree} (h : Extends t t') {path : Text} {stop : Location} {node : Node}
    (hlookup : t.lookup true path = .ok (stop, node)) :
    ∃ node', t'.lookup true path = .ok (stop, node') ∧ node'.shape = node.shape := by
  obtain ⟨hnull, hempty, hlong, ⟨k, hk, hleads⟩, hat⟩ := lookup_eq_ok_iff.mp hlookup
  have hshape : t.shapeAt stop = some node.shape := by rw [shapeAt, hat, Option.map_some]
  obtain ⟨node', hat', hnode⟩ := Option.map_eq_some_iff.mp (h.shapes stop _ hshape)
  rw [← start_of_working h.working] at hleads
  have hroute := hleads.transfer_of_shapes fun location shape hl =>
    .inl (h.shapes location shape hl)
  exact ⟨node', lookup_eq_ok_iff.mpr ⟨hnull, hempty, hlong, ⟨k, hk, hroute⟩, hat'⟩, hnode⟩

theorem lookup_file {t t' : Tree} (h : Extends t t') {path : Text} {stop : Location}
    {a : Attributes} {content : List UInt8}
    (hlookup : t.lookup true path = .ok (stop, .file a content)) :
    t'.lookup true path = .ok (stop, .file a content) := by
  obtain ⟨node', hlookup', hnode⟩ := h.lookup hlookup
  rw [hlookup', shape_eq_file_iff.mp hnode]

/-- Slots are where they were. -/
theorem slot {t t' : Tree} (h : Extends t t') {path : Text} {folder : Location} {name : Text}
    (hslot : t.slot path = .ok (.entry folder name)) :
    t'.slot path = .ok (.entry folder name) := by
  rw [slot_eq_entry_iff] at hslot ⊢
  obtain ⟨hempty, hlong, ⟨k, hk, hleads⟩, hfolder, hlast, hshort⟩ := hslot
  refine ⟨hempty, hlong, ⟨k, hk, ?_⟩, h.shapes _ _ hfolder, hlast, hshort⟩
  rw [start_of_working h.working]
  exact hleads.transfer_of_shapes fun location shape hl => .inl (h.shapes location shape hl)

end Extends

/-- An empty folder stands at a place where nothing was, and nothing else is different. -/
structure NewFolder (t t' : Tree) (place : Location) : Prop where
  working : t'.working = t.working
  free : t.shapeAt place = none
  folder : t'.shapeAt place = some .folder
  inside : ∀ location shape, place <+: location → t'.shapeAt location = some shape →
    shape = .folder
  others : ∀ location, ¬ place <+: location → t'.shapeAt location = t.shapeAt location

/-- A folder that is made is new in the slot of its path. -/
theorem newFolder_of_makeFolder {t t' : Tree} {path : Text} (h : t.makeFolder path = .ok t') :
    ∃ folder name, t.slot path = .ok (.entry folder name) ∧
      NewFolder t t' (folder ++ [name]) := by
  unfold makeFolder at h
  split at h
  · cases h
  split at h
  · cases h
  · cases h
  rename_i folder name hslot
  split at h
  · cases h
  rename_i hnone
  cases h
  obtain ⟨_, _, _, hfolder, _, _⟩ := slot_eq_entry_iff.mp hslot
  obtain ⟨a, inner, hat⟩ := shapeAt_eq_folder_iff.mp hfolder
  refine ⟨folder, name, hslot, rfl, by rw [shapeAt, hnone, Option.map_none], ?_, ?_, ?_⟩
  · rw [shapeAt, at?_put hat]
    rfl
  · rintro location shape ⟨rest, rfl⟩ hl
    rw [shapeAt, at?_append, at?_put hat, Option.bind_some] at hl
    cases rest with
    | nil =>
        cases hl
        rfl
    | cons next more => cases hl
  · intro location hp
    exact shapeAt_put hat _ hp

theorem NewFolder.extends_ {t t' : Tree} {place : Location} (h : NewFolder t t' place) :
    Extends t t' := by
  refine ⟨h.working, fun location shape hl => ?_⟩
  by_cases hp : place <+: location
  · rw [shapeAt_of_free h.free hp] at hl
    cases hl
  · rw [h.others location hp, hl]

theorem extends_of_makeFolder {t t' : Tree} {path : Text} (h : t.makeFolder path = .ok t') :
    Extends t t' := by
  obtain ⟨_, _, _, hnew⟩ := newFolder_of_makeFolder h
  exact hnew.extends_

theorem tree_settleFolder (t : Tree) (path : Text) (f : Fault) :
    (t.settleFolder path f).tree = t := by
  unfold settleFolder
  split
  · rfl
  · split <;> rfl

/-- What holds of making a folder and of doing nothing holds of an attempt to make it. -/
theorem ensureFolder_induction {R : Tree → Tree → Prop} {path : Text} (hrefl : ∀ t, R t t)
    (hmake : ∀ {t t'}, makeFolder t path = .ok t' → R t t') (interrupt : Interruption)
    (t : Tree) : R t (ensureFolder interrupt t path).tree := by
  unfold ensureFolder
  split
  · rename_i t' hmade
    exact hmake (ok_of_attempt hmade)
  · exact hrefl t
  · rw [tree_settleFolder]
    exact hrefl t

/-- What holds of making the folder of a path and of doing nothing, of one thing after the
other, and of a path if it holds of a shorter one, holds of making the folders of a path,
whatever becomes of it. -/
theorem ensureFoldersWithin_induction {R : List Text → Tree → Tree → Prop} {anchor : Anchor}
    (hrefl : ∀ names t, R names t t)
    (htrans : ∀ {names t t' t''}, R names t t' → R names t' t'' → R names t t'')
    (hmono : ∀ {name names t t'}, R names t t' → R (name :: names) t t')
    (hmake : ∀ {names t t'},
      makeFolder t (PathName.mk anchor names.reverse).toText = .ok t' → R names t t')
    (interrupt : Interruption) (calls : Nat) (t : Tree) (names : List Text) :
    R names t (ensureFoldersWithin interrupt anchor calls t names).tree := by
  induction names generalizing calls with
  | nil =>
      cases calls with
      | zero => exact hrefl [] t
      | succ calls =>
          exact ensureFolder_induction (hrefl []) (@hmake []) interrupt t
  | cons name before ih =>
      cases calls with
      | zero => exact hrefl (name :: before) t
      | succ calls =>
          unfold ensureFoldersWithin
          simp only
          split
          · rename_i t' hmade
            exact hmake (ok_of_attempt hmade)
          · split
            · exact hmono (ih calls)
            · exact htrans (hmono (ih calls))
                (ensureFolder_induction (hrefl (name :: before)) hmake interrupt _)
          · rw [tree_settleFolder]
            exact hrefl (name :: before) t

/-- Whatever becomes of making folders, nothing is lost. -/
theorem extends_ensureFolders (interrupt : Interruption) (anchor : Anchor) (t : Tree)
    (names : List Text) : Extends t (ensureFolders interrupt anchor t names).tree :=
  ensureFoldersWithin_induction (R := fun _ => Extends) (fun _ => .refl) .trans id
    extends_of_makeFolder interrupt folderCalls t names

theorem umask_of_makeFolder {t t' : Tree} {path : Text} (h : t.makeFolder path = .ok t') :
    t'.umask = t.umask := by
  unfold makeFolder at h
  split at h
  · cases h
  split at h
  · cases h
  · cases h
  split at h
  · cases h
  · cases h
    rfl

theorem umask_ensureFolders (interrupt : Interruption) (anchor : Anchor) (t : Tree)
    (names : List Text) : (ensureFolders interrupt anchor t names).tree.umask = t.umask :=
  ensureFoldersWithin_induction (R := fun _ t t' => t'.umask = t.umask) (fun _ _ => rfl)
    (fun h h' => h'.trans h) id umask_of_makeFolder interrupt folderCalls t names

/-! ## Folders that are there -/

/-- A folder that is there cannot be made. -/
theorem makeFolder_of_isFolder {t : Tree} {path : Text} (h : t.isFolder path = .ok true) :
    t.makeFolder path = refuse .exists path := by
  obtain ⟨stop, a, inner, hlookup⟩ := isFolder_eq_true_iff.mp h
  obtain ⟨hnull, hempty, hlong, ⟨k, hk, hleads⟩, _⟩ := lookup_eq_ok_iff.mp hlookup
  obtain ⟨front, last, hsteps⟩ :=
    (List.eq_nil_or_concat (steps path)).resolve_left (steps_ne_nil path)
  rw [List.concat_eq_append] at hsteps
  obtain ⟨i, j, middle, hij, hfront, hlast⟩ := hleads.split _ _ hsteps
  have hmiddle := hlast.folder_of_cons
  obtain ⟨b, entries, hat⟩ := shapeAt_eq_folder_iff.mp hmiddle
  have hwalk := walk_of_leads hfront (Nat.le_trans (by omega) hk) hat
  unfold makeFolder
  rw [hnull]
  cases last with
  | down name =>
      have hentry : name.byteSize ≤ nameLimit ∧
          ∃ shape, t.shapeAt (middle ++ [name]) = some shape := by
        cases hlast with
        | down _ short entry _ _ => exact ⟨short, _, entry⟩
        | link _ short entry _ => exact ⟨short, _, entry⟩
      obtain ⟨hshort, shape, hshape⟩ := hentry
      obtain ⟨node, hnode, _⟩ := Option.map_eq_some_iff.mp hshape
      have hslot : t.slot path = .ok (.entry middle name) := by
        refine slot_eq_entry_iff.mpr ⟨hempty, hlong, ⟨i, by omega, ?_⟩, hmiddle, ?_, hshort⟩
        · rwa [hsteps, List.dropLast_concat]
        · rw [hsteps, List.getLast?_concat]
      simp only [hslot, hnode]
  | stay =>
      have hslot : t.slot path = .ok .unnamed := by
        simp [slot, hempty, Nat.not_lt.mpr hlong, hsteps, hwalk, Node.isFolder]
      simp only [hslot]
  | up =>
      have hslot : t.slot path = .ok .unnamed := by
        simp [slot, hempty, Nat.not_lt.mpr hlong, hsteps, hwalk, Node.isFolder]
      simp only [hslot]

/-- A folder that is there stays as it is. -/
theorem ensureFolders_of_isFolder {t : Tree} {anchor : Anchor} {names : List Text}
    (h : t.isFolder (PathName.mk anchor names.reverse).toText = .ok true) :
    ensureFolders .never anchor t names = ⟨t, none⟩ := by
  have hmade := makeFolder_of_isFolder h
  have hsettled : ∀ r, t.settleFolder (PathName.mk anchor names.reverse).toText (.refused r) =
      ⟨t, none⟩ := by
    intro r
    simp only [settleFolder, h]
  have hcalls : folderCalls = (folderCalls - 1) + 1 := rfl
  rw [ensureFolders, hcalls]
  cases names with
  | nil =>
      rw [List.reverse_nil] at hmade hsettled
      simp only [ensureFoldersWithin, ensureFolder, attempt, Interruption.never, hmade, refuse,
        hsettled]
  | cons name before =>
      simp only [ensureFoldersWithin, attempt, Interruption.never, hmade, refuse, hsettled]

/-! ## Replacements -/

section replaced

variable {base t : Tree} {file : Text} {folder : Location} {name : Text}
  {content : List UInt8} {place : Location} {a : Attributes} {bytes : List UInt8}

/-- If a path leads to a file, its entry is the file, or a link that leads to it. -/
theorem entry_of_lookup (hslot : base.slot file = .ok (.entry folder name))
    (hfile : base.lookup true file = .ok (place, .file a bytes)) :
    place = folder ++ [name] ∨ ∃ target k, base.shapeAt (folder ++ [name]) = some (.link target) ∧
      base.Leads k (if startsAtRoot target then [] else folder) (steps target) place := by
  obtain ⟨_, _, ⟨i, _, hfront⟩, _, hlast, _⟩ := slot_eq_entry_iff.mp hslot
  obtain ⟨_, _, _, ⟨k, _, hleads⟩, _⟩ := lookup_eq_ok_iff.mp hfile
  have hsteps : steps file = (steps file).dropLast ++ [.down name] := by
    obtain ⟨front, hsplit⟩ := List.getLast?_eq_some_iff.mp hlast
    rw [hsplit, List.dropLast_concat]
  obtain ⟨_, j, middle, _, hmiddle, hend⟩ := hleads.split _ _ hsteps
  have heq := hmiddle.unique hfront
  subst heq
  cases hend with
  | down _ _ _ _ more =>
      cases more
      exact .inl rfl
  | @link m _ _ _ target _ _ _ entry more =>
      rw [List.append_nil] at more
      exact .inr ⟨target, m, entry, more⟩

namespace Replaced

/-- A route that goes through the replaced entry ends at the target's file. -/
theorem eq_of_link (hslot : base.slot file = .ok (.entry folder name))
    (hfile : base.lookup true file = .ok (place, .file a bytes)) {target : Text}
    (hlink : base.shapeAt (folder ++ [name]) = some (.link target)) {m : Nat}
    {rest : List Step} {stop : Location}
    (hleads :
      base.Leads m (if startsAtRoot target then [] else folder) (steps target ++ rest) stop) :
    stop = place := by
  obtain ⟨_, _, _, _, hat⟩ := lookup_eq_ok_iff.mp hfile
  have hshape := shapeAt_eq_file_iff.mpr hat
  rcases entry_of_lookup hslot hfile with rfl | ⟨target', k, hlink', hway⟩
  · rw [hlink] at hshape
    cases hshape
  · rw [hlink] at hlink'
    cases hlink'
    obtain ⟨_, _, middle, _, hfirst, hrest⟩ := hleads.split _ _ rfl
    have heq := hfirst.unique hway
    subst heq
    cases rest with
    | nil =>
        cases hrest
        rfl
    | cons step more =>
        rw [hrest.folder_of_cons] at hshape
        cases hshape

/-- A route to anything but the target's file is still there. -/
theorem leads_kept (h : Replaced base t folder name content)
    (hslot : base.slot file = .ok (.entry folder name))
    (hfile : base.lookup true file = .ok (place, .file a bytes)) {k : Nat} {here stop : Location}
    {todo : List Step} (hleads : base.Leads k here todo stop) (hne : stop ≠ place) {last : Shape}
    (hstop : t.shapeAt stop = some last) (hlast : last.isLink = false) :
    t.Leads k here todo stop := by
  refine hleads.transfer_of_links ?_ ?_ hstop hlast
  · intro location hl
    by_cases hp : (folder ++ [name]) <+: location
    · obtain ⟨rest, rfl⟩ := hp
      cases rest with
      | nil =>
          rw [List.append_nil] at hl
          exact absurd hl h.former
      | cons next more => exact absurd (folder_of_shapeAt_append hl) h.former
    · rw [h.others location hp, hl]
  · intro m there n target rest hl hmore
    by_cases hp : (folder ++ [name]) <+: there ++ [n]
    · by_cases heq : there ++ [n] = folder ++ [name]
      · obtain ⟨rfl, hn⟩ := List.append_inj' heq rfl
        cases hn
        exact absurd (eq_of_link hslot hfile hl hmore) hne
      · obtain ⟨more, hmore'⟩ := hp
        cases more with
        | nil => exact absurd (by rw [← hmore', List.append_nil]) heq
        | cons next more =>
            rw [← hmore'] at hl
            exact absurd (folder_of_shapeAt_append hl) h.former
    · rw [h.others _ hp, hl]

/-- A path to another file still leads to it. -/
theorem lookup_kept (h : Replaced base t folder name content)
    (hslot : base.slot file = .ok (.entry folder name))
    (hfile : base.lookup true file = .ok (place, .file a bytes)) {path : Text} {stop : Location}
    {b : Attributes} {other : List UInt8}
    (hpath : base.lookup true path = .ok (stop, .file b other)) (hne : stop ≠ place) :
    t.lookup true path = .ok (stop, .file b other) := by
  obtain ⟨hnull, hempty, hlong, ⟨k, hk, hleads⟩, hat⟩ := lookup_eq_ok_iff.mp hpath
  have hshape := shapeAt_eq_file_iff.mpr hat
  have hkept : t.shapeAt stop = some (.file b other) := by
    by_cases hp : (folder ++ [name]) <+: stop
    · obtain ⟨rest, rfl⟩ := hp
      cases rest with
      | nil =>
          rw [List.append_nil] at hne hshape
          rcases entry_of_lookup hslot hfile with rfl | ⟨target, _, hlink, _⟩
          · exact absurd rfl hne
          · rw [hlink] at hshape
            cases hshape
      | cons next more => exact absurd (folder_of_shapeAt_append hshape) h.former
    · rw [h.others stop hp, hshape]
  have hroute := h.leads_kept hslot hfile hleads hne hkept rfl
  rw [← start_of_working h.working] at hroute
  exact lookup_eq_ok_iff.mpr ⟨hnull, hempty, hlong, ⟨k, hk, hroute⟩, shapeAt_eq_file_iff.mp hkept⟩

/-- The target's path leads to the new file. -/
theorem lookup_target (h : Replaced base t folder name content)
    (hslot : base.slot file = .ok (.entry folder name))
    (hfile : base.lookup true file = .ok (place, .file a bytes)) :
    ∃ b, t.lookup true file = .ok (folder ++ [name], .file b content) := by
  obtain ⟨hempty, hlong, ⟨k, hk, hleads⟩, hfolder, hlast, hshort⟩ := slot_eq_entry_iff.mp hslot
  obtain ⟨hnull, _, _, _, hat⟩ := lookup_eq_ok_iff.mp hfile
  have hne : folder ≠ place := by
    rintro rfl
    rw [shapeAt_eq_file_iff.mpr hat] at hfolder
    cases hfolder
  have hroute := h.leads_kept hslot hfile hleads hne h.shapeAt_folder rfl
  rw [← start_of_working h.working] at hroute
  obtain ⟨b, hentry⟩ := h.entry
  refine ⟨b, lookup_of_slot ?_ hnull hentry⟩
  exact slot_eq_entry_iff.mpr ⟨hempty, hlong, ⟨k, hk, hroute⟩, h.shapeAt_folder, hlast, hshort⟩

end Replaced

end replaced

end GoogIndex.Storage.Tree
