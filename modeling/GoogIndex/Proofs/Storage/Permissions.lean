/-
  Proofs/Storage/Permissions.lean --- the folders of a tree and their permissions.

  A change of one entry gives the folder around it a new time.  As long as the entry was
  no folder and is none afterwards, the same folders are there as before, each with its
  permissions: so it is for every change that a write makes after the folders on the way
  to its target.
-/
import GoogIndex.Proofs.Storage.Write

set_option autoImplicit false

namespace GoogIndex.Storage

/-- The permissions of a node that is a folder. -/
def Node.folderMode? : Node → Option Nat
  | .folder a _ => some a.mode
  | _ => none

namespace Tree

/-- The permissions of the folder at a location. -/
def folderModeAt (t : Tree) (location : Location) : Option Nat :=
  (t.at? location).bind Node.folderMode?

theorem shapeAt_of_folderModeAt {t : Tree} {location : Location} {mode : Nat}
    (h : t.folderModeAt location = some mode) : t.shapeAt location = some .folder := by
  obtain ⟨node, hat, hmode⟩ := Option.bind_eq_some_iff.mp h
  cases node with
  | folder a inner => exact shapeAt_eq_folder_iff.mpr ⟨a, inner, hat⟩
  | file a content => cases hmode
  | link target => cases hmode

theorem folderModeAt_of_at? {t : Tree} {location : Location} {a : Attributes} {inner : Folder}
    (h : t.at? location = some (.folder a inner)) : t.folderModeAt location = some a.mode := by
  rw [folderModeAt, h]
  rfl

/-- There are no folders at or behind what is no folder. -/
theorem folderModeAt_behind {t : Tree} {place location : Location}
    (h : ∀ node, t.at? place = some node → node.isFolder = false) (hp : place <+: location) :
    t.folderModeAt location = none := by
  obtain ⟨rest, rfl⟩ := hp
  rw [folderModeAt, at?_append]
  cases hat : t.at? place with
  | none => rfl
  | some node =>
      have hnode := h node hat
      cases node with
      | folder a inner => cases hnode
      | file a content => cases rest <;> rfl
      | link target => cases rest <;> rfl

/-! ## One changed entry -/

section entry

variable {t : Tree} {folder : Location} {name : Text} {a : Attributes} {inner : Folder}

/-- A change of one entry keeps the folders that are not behind it. -/
theorem folderModeAt_changeFolder_of_entry (h : t.at? folder = some (.folder a inner))
    {g : Attributes → Folder → Attributes × Folder} (hmode : (g a inner).1.mode = a.mode)
    (hothers : ∀ other, other ≠ name → (g a inner).2.find? other = inner.find? other)
    {location : Location} (hl : ¬ (folder ++ [name]) <+: location) :
    (t.changeFolder folder g).folderModeAt location = t.folderModeAt location := by
  by_cases hp : folder <+: location
  · obtain ⟨rest, rfl⟩ := hp
    rw [folderModeAt, folderModeAt, at?_changeFolder_append h g rest, at?_append, h,
      Option.bind_some]
    cases rest with
    | nil => exact congrArg some hmode
    | cons other more =>
        have hother : other ≠ name := by
          rintro rfl
          refine hl ⟨more, ?_⟩
          rw [List.append_assoc, List.singleton_append]
        simp only [nodeBelow, hothers other hother]
  · have hmodes : ∀ a inner inner',
        Node.folderMode? (.folder a inner') = Node.folderMode? (.folder a inner) :=
      fun _ _ _ => rfl
    have hview := view_changeBelow_outside hmodes g hp t.attributes t.root
    have hjoin := congrArg (fun found => Option.bind found id) hview
    rwa [Option.bind_map, Option.bind_map] at hjoin

/-- An entry that is no folder before or after its change leaves all folders as they are. -/
theorem folderModeAt_changeFolder (h : t.at? folder = some (.folder a inner))
    {g : Attributes → Folder → Attributes × Folder} (hmode : (g a inner).1.mode = a.mode)
    (hothers : ∀ other, other ≠ name → (g a inner).2.find? other = inner.find? other)
    (hformer : ∀ node, inner.find? name = some node → node.isFolder = false)
    (hlatter : ∀ node, (g a inner).2.find? name = some node → node.isFolder = false) :
    (t.changeFolder folder g).folderModeAt = t.folderModeAt := by
  funext location
  by_cases hl : (folder ++ [name]) <+: location
  · have hbefore : ∀ node, t.at? (folder ++ [name]) = some node → node.isFolder = false := by
      intro node hnode
      exact hformer node ((at?_child h name).symm.trans hnode)
    have hafter : ∀ node, (t.changeFolder folder g).at? (folder ++ [name]) = some node →
        node.isFolder = false := by
      intro node hnode
      exact hlatter node ((at?_changeFolder_entry h g).symm.trans hnode)
    rw [folderModeAt_behind hbefore hl, folderModeAt_behind hafter hl]
  · exact folderModeAt_changeFolder_of_entry h hmode hothers hl

theorem folderModeAt_put (h : t.at? folder = some (.folder a inner)) {node : Node}
    (hformer : ∀ node, inner.find? name = some node → node.isFolder = false)
    (hnode : node.isFolder = false) :
    (t.changeEntries folder fun f => f.put name node).folderModeAt = t.folderModeAt := by
  refine folderModeAt_changeFolder h rfl (fun other ho => Folder.find?_put_of_ne node inner ho)
    hformer fun found hfound => ?_
  rw [Folder.find?_put_self] at hfound
  cases hfound
  exact hnode

end entry

/-! ## The steps of a write -/

/-- A new file leaves all folders as they are. -/
theorem folderModeAt_of_createFile {t t' : Tree} {mode : Nat} {path : Text}
    (h : t.createFile mode path = .ok t') : t'.folderModeAt = t.folderModeAt := by
  unfold createFile at h
  split at h
  · cases h
  split at h
  · cases h
  · cases h
  rename_i folder name hslot
  split at h
  · cases h
  rename_i hnone
  cases h
  obtain ⟨_, _, _, hfolder, _, _⟩ := slot_eq_entry_iff.mp hslot
  obtain ⟨a, inner, hat⟩ := shapeAt_eq_folder_iff.mp hfolder
  rw [at?_child hat] at hnone
  refine folderModeAt_put hat (fun node hnode => ?_) rfl
  rw [hnone] at hnode
  cases hnode

theorem folderModeAt_of_createTemporary {t t' : Tree} {folder : PathName} {tries n : Nat}
    {path : Text} (h : t.createTemporary folder tries n = .ok (t', path)) :
    t'.folderModeAt = t.folderModeAt := by
  obtain ⟨m, hm⟩ := exists_of_firstFree h
  simp only [createNumbered] at hm
  cases hc : t.createFile 0o600 (folder.child (temporaryName m)).toText with
  | error f =>
      rw [hc] at hm
      cases hm
  | ok made =>
      rw [hc] at hm
      cases hm
      exact folderModeAt_of_createFile hc

section beside

variable {base t t' : Tree} {folder : Location} {name path : Text} {content : List UInt8}

/-- A change of the temporary file leaves all folders as they are. -/
theorem Beside.folderModeAt_changeNode (hb : Beside base t folder name content) {f : Node → Node}
    (hf : ∀ b, (f (.file b content)).isFolder = false) :
    (t.changeNode (folder ++ [name]) f).folderModeAt = t.folderModeAt := by
  obtain ⟨a, inner, b, hat, hfind, _⟩ := hb.entry
  rw [changeNode_eq]
  refine folderModeAt_changeFolder hat ?_ (fun other (ho : other ≠ name) => ?_) ?_ ?_
  · rw [hfind]
  · rw [hfind]
    exact Folder.find?_put_of_ne _ inner ho
  · intro node hnode
    rw [hfind] at hnode
    cases hnode
    rfl
  · intro node hnode
    rw [hfind, Folder.find?_put_self] at hnode
    cases hnode
    exact hf b

theorem Beside.folderModeAt_erase (hb : Beside base t folder name content) :
    (t.changeEntries folder fun f => f.erase name).folderModeAt = t.folderModeAt := by
  obtain ⟨a, inner, b, hat, hfind, hsingle⟩ := hb.entry
  refine folderModeAt_changeFolder hat rfl
    (fun other (ho : other ≠ name) => Folder.find?_erase_of_ne inner ho) ?_ ?_
  · intro node hnode
    rw [hfind] at hnode
    cases hnode
    rfl
  · intro node hnode
    rw [hsingle] at hnode
    cases hnode

theorem folderModeAt_of_setContent {new : List UInt8} (hb : Beside base t folder name content)
    (hslot : base.slot path = .ok (.entry folder name)) (hsound : breach? path = none)
    (h : t.setContent new path = .ok t') : t'.folderModeAt = t.folderModeAt := by
  obtain ⟨b, hlookup⟩ := hb.lookup hslot hsound
  rw [setContent, hlookup] at h
  cases h
  exact hb.folderModeAt_changeNode fun _ => rfl

/-- The temporary file gets the permissions that are asked for. -/
theorem at?_of_setMode {mode : Nat} (hb : Beside base t folder name content)
    (hslot : base.slot path = .ok (.entry folder name)) (hsound : breach? path = none)
    (h : t.setMode mode path = .ok t') :
    t'.folderModeAt = t.folderModeAt ∧
      ∃ b, t'.at? (folder ++ [name]) = some (.file b content) ∧ b.mode = mode := by
  obtain ⟨b, hlookup⟩ := hb.lookup hslot hsound
  rw [setMode, hlookup] at h
  cases h
  refine ⟨hb.folderModeAt_changeNode fun _ => rfl, ?_⟩
  obtain ⟨a, inner, c, hat, hfind, _⟩ := hb.entry
  refine ⟨{ c with mode := mode }, ?_, rfl⟩
  rw [at?_child (at?_folder_changeNode hat hfind _), Folder.find?_put_self]
  rfl

/-- The move takes the temporary file to the target's entry as it is. -/
theorem at?_of_moveFile {temporary target : Text} {toFolder : Location} {toName : Text}
    (hb : Beside base t folder temporary content)
    (hslot : base.slot path = .ok (.entry folder temporary))
    (htarget : base.slot target = .ok (.entry toFolder toName))
    (h : t.moveFile path target = .ok t') :
    t'.folderModeAt = t.folderModeAt ∧
      t'.at? (toFolder ++ [toName]) = t.at? (folder ++ [temporary]) := by
  obtain ⟨b, hat⟩ := hb.at?_place
  simp only [moveFile, slot_of_sameWays hb.sameWays hslot, slot_of_sameWays hb.sameWays htarget,
    hat] at h
  obtain ⟨_, _, _, hfolder, _, _⟩ := slot_eq_entry_iff.mp htarget
  -- the tree between the two halves of the move
  obtain ⟨a, inner, hinner⟩ :=
    shapeAt_eq_folder_iff.mp ((hb.shapeAt_erase toFolder).trans hfolder)
  have hmiddle := hb.folderModeAt_erase
  split at h
  · cases h
  split at h
  · cases h
  rename_i hformer
  cases h
  refine ⟨?_, by rw [at?_put hinner, hat]⟩
  rw [folderModeAt_put hinner (fun node hnode => ?_) rfl, hmiddle]
  cases node with
  | file c old => rfl
  | link target => rfl
  | folder c deeper =>
      -- then the target would be a folder
      have hmode := folderModeAt_of_at? ((at?_child hinner toName).trans hnode)
      rw [hmiddle] at hmode
      obtain ⟨d, entries, hthere⟩ := shapeAt_eq_folder_iff.mp (shapeAt_of_folderModeAt hmode)
      exact absurd hthere (hformer d entries)

end beside

end Tree

end GoogIndex.Storage
