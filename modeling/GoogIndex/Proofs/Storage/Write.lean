/-
  Proofs/Storage/Write.lean --- what a write leaves behind.

  Between its creation and the move, the temporary file stands beside everything else: it
  has a name that was free, and no other location has another shape (`Beside`).  The move
  takes it away and puts its content at the target's name (`Replaced`).  So a write that
  succeeds is a change of one entry.

  Whether the target's path then leads to the new file is a question of routes: it does
  unless the path comes by the very entry that was replaced.
-/
import GoogIndex.Proofs.Storage.Listing
import GoogIndex.Storage.AtomicWrite

set_option autoImplicit false

namespace GoogIndex.Storage

namespace Tree

/-! ## Trees with the same folders and links -/

/-- Two trees have the same folders and links at the same locations. -/
def SameWays (t t' : Tree) : Prop :=
  t'.working = t.working ∧
    ∀ location shape, shape.isFile = false →
      (t.shapeAt location = some shape ↔ t'.shapeAt location = some shape)

theorem start_of_working {t t' : Tree} (h : t'.working = t.working) (path : Text) :
    t'.start path = t.start path := by
  rw [start, start, h]

/-- A slot is found by way of folders and links only. -/
theorem slot_of_sameWays {t t' : Tree} (h : t.SameWays t') {path : Text} {folder : Location}
    {name : Text} (hslot : t.slot path = .ok (.entry folder name)) :
    t'.slot path = .ok (.entry folder name) := by
  rw [slot_eq_entry_iff] at hslot ⊢
  obtain ⟨hempty, hlong, ⟨k, hk, hleads⟩, hfolder, hlast, hshort⟩ := hslot
  have hfolder' := (h.2 _ _ rfl).mp hfolder
  refine ⟨hempty, hlong, ⟨k, hk, ?_⟩, hfolder', hlast, hshort⟩
  rw [start_of_working h.1]
  exact hleads.transfer (fun _ _ hl hf => (h.2 _ _ hf).mp hl) hfolder' rfl

theorem SameWays.symm {t t' : Tree} (h : t.SameWays t') : t'.SameWays t :=
  ⟨h.1.symm, fun location shape hf => (h.2 location shape hf).symm⟩

/-- A slot with an entry in it that is no link is what the path leads to. -/
theorem lookup_of_entry_at {t : Tree} {path : Text} {folder : Location} {name : Text}
    {node : Node} (hslot : t.slot path = .ok (.entry folder name)) (hsound : breach? path = none)
    (hat : t.at? (folder ++ [name]) = some node) (hnode : node.shape.isLink = false) :
    t.lookup true path = .ok (folder ++ [name], node) := by
  rw [slot_eq_entry_iff] at hslot
  obtain ⟨hempty, hlong, ⟨k, hk, hleads⟩, hfolder, hlast, hshort⟩ := hslot
  rw [lookup_eq_ok_iff]
  refine ⟨hsound, hempty, hlong, ⟨k, hk, ?_⟩, hat⟩
  have hshape : t.shapeAt (folder ++ [name]) = some node.shape := by
    rw [shapeAt, hat, Option.map_some]
  have hstep : t.Leads 0 folder [.down name] (folder ++ [name]) :=
    .down hfolder hshort hshape hnode (.here _)
  have hsteps : steps path = (steps path).dropLast ++ [.down name] := by
    obtain ⟨front, hfront⟩ := List.getLast?_eq_some_iff.mp hlast
    rw [hfront, List.dropLast_concat]
  rw [hsteps]
  exact hleads.append hstep

/-- A slot with a file in it is what the path leads to. -/
theorem lookup_of_slot {t : Tree} {path : Text} {folder : Location} {name : Text}
    {a : Attributes} {content : List UInt8} (hslot : t.slot path = .ok (.entry folder name))
    (hsound : breach? path = none) (hat : t.at? (folder ++ [name]) = some (.file a content)) :
    t.lookup true path = .ok (folder ++ [name], .file a content) :=
  lookup_of_entry_at hslot hsound hat rfl

/-! ## The temporary file -/

/-- A file of this content stands at a name that was free, and nothing else is different. -/
structure Beside (base t : Tree) (folder : Location) (name : Text) (content : List UInt8) :
    Prop where
  working : t.working = base.working
  free : base.shapeAt (folder ++ [name]) = none
  entry : ∃ a inner b, t.at? folder = some (.folder a inner) ∧
    inner.find? name = some (.file b content) ∧ (inner.erase name).find? name = none
  others : ∀ location, ¬ (folder ++ [name]) <+: location →
    t.shapeAt location = base.shapeAt location
  listing : (t.changeEntries folder fun f => f.erase name).root.listing = base.root.listing

/-- Nothing stands behind a name that is free. -/
theorem shapeAt_of_free {t : Tree} {place location : Location} (hfree : t.shapeAt place = none)
    (h : place <+: location) : t.shapeAt location = none := by
  obtain ⟨rest, rfl⟩ := h
  cases rest with
  | nil => rwa [List.append_nil]
  | cons name more =>
      cases hshape : t.shapeAt (place ++ name :: more) with
      | none => rfl
      | some shape =>
          rw [folder_of_shapeAt_append hshape] at hfree
          cases hfree

/-- Nothing stands behind a file. -/
theorem shapeAt_of_file {t : Tree} {place location : Location} {a : Attributes}
    {content : List UInt8} (hfile : t.at? place = some (.file a content)) (h : place <+: location)
    (hne : location ≠ place) : t.shapeAt location = none := by
  obtain ⟨rest, rfl⟩ := h
  cases rest with
  | nil => exact absurd (List.append_nil place) hne
  | cons name more => rw [shapeAt, at?_append, hfile]; rfl

namespace Beside

variable {base t : Tree} {folder : Location} {name : Text} {content : List UInt8}

theorem at?_place (h : Beside base t folder name content) :
    ∃ b, t.at? (folder ++ [name]) = some (.file b content) := by
  obtain ⟨a, inner, b, hat, hfind, _⟩ := h.entry
  exact ⟨b, by rw [at?_child hat, hfind]⟩

/-- The temporary file is on nobody's way. -/
theorem sameWays (h : Beside base t folder name content) : base.SameWays t := by
  refine ⟨h.working, ?_⟩
  intro location shape hshape
  by_cases hp : (folder ++ [name]) <+: location
  · have hbase := shapeAt_of_free h.free hp
    obtain ⟨b, hat⟩ := h.at?_place
    by_cases hl : location = folder ++ [name]
    · subst hl
      rw [hbase, shapeAt_eq_file_iff.mpr hat]
      constructor
      · intro hnone
        cases hnone
      · intro hfile
        cases hfile
        simp [Shape.isFile] at hshape
    · rw [hbase, shapeAt_of_file hat hp hl]
  · rw [h.others location hp]

/-- The path of the temporary file leads to it. -/
theorem lookup (h : Beside base t folder name content) {path : Text}
    (hslot : base.slot path = .ok (.entry folder name)) (hsound : breach? path = none) :
    ∃ b, t.lookup true path = .ok (folder ++ [name], .file b content) := by
  obtain ⟨b, hat⟩ := h.at?_place
  exact ⟨b, lookup_of_slot (slot_of_sameWays h.sameWays hslot) hsound hat⟩

/-- A change of the temporary file leaves it beside everything else. -/
theorem changeNode (h : Beside base t folder name content) {f : Node → Node}
    {content' : List UInt8} (hf : ∀ b, ∃ b', f (.file b content) = .file b' content') :
    Beside base (t.changeNode (folder ++ [name]) f) folder name content' := by
  obtain ⟨a, inner, b, hat, hfind, hsingle⟩ := h.entry
  obtain ⟨b', hb'⟩ := hf b
  have hafter := at?_folder_changeNode hat hfind f
  rw [hb'] at hafter
  refine ⟨?_, h.free, ⟨a, _, b', hafter, Folder.find?_put_self _ _ _, ?_⟩, ?_, ?_⟩
  · rw [changeNode_eq]
    exact h.working
  · rw [Folder.erase_put]
    exact hsingle
  · intro location hl
    rw [shapeAt_changeNode hat hfind f hl, h.others location hl]
  · rw [← h.listing, changeNode_eq, changeEntries, changeFolder_changeFolder, changeEntries]
    refine congrArg (fun s => s.root.listing) (changeFolder_congr hat ?_)
    simp only [hfind, Folder.erase_put]
    rfl

/-- Without the temporary file everything is as before. -/
theorem shapeAt_erase (h : Beside base t folder name content) (location : Location) :
    (t.changeEntries folder fun f => f.erase name).shapeAt location = base.shapeAt location := by
  obtain ⟨a, inner, b, hat, _, hsingle⟩ := h.entry
  by_cases hp : (folder ++ [name]) <+: location
  · rw [shapeAt_erase_behind hat hsingle hp, shapeAt_of_free h.free hp]
  · rw [Tree.shapeAt_erase hat hp, h.others location hp]

end Beside

/-- A new file stands beside everything else. -/
theorem beside_of_createFile {t t' : Tree} {mode : Nat} {path : Text}
    (h : t.createFile mode path = .ok t') :
    ∃ folder name, t.slot path = .ok (.entry folder name) ∧ breach? path = none ∧
      Beside t t' folder name [] := by
  unfold createFile at h
  cases hsound : breach? path with
  | some b =>
      rw [hsound] at h
      cases h
  | none =>
  rw [hsound] at h
  cases hslot : t.slot path with
  | error reason =>
      rw [hslot] at h
      cases h
  | ok slot =>
      rw [hslot] at h
      cases slot with
      | unnamed => cases h
      | entry folder name =>
          cases hat : t.at? (folder ++ [name]) with
          | some node =>
              simp only [hat] at h
              cases h
          | none =>
              simp only [hat, Except.ok.injEq] at h
              subst h
              obtain ⟨_, _, _, hfolder, _, _⟩ := slot_eq_entry_iff.mp hslot
              obtain ⟨a, inner, hinner⟩ := shapeAt_eq_folder_iff.mp hfolder
              have hfind : inner.find? name = none := by rw [← at?_child hinner, hat]
              refine ⟨folder, name, rfl, by simp, rfl, by rw [shapeAt, hat]; rfl,
                ⟨_, _, _, at?_folder_put hinner _, Folder.find?_put_self _ _ _, ?_⟩, ?_, ?_⟩
              · rw [Folder.erase_put, Folder.erase_of_find?_none hfind, hfind]
              · intro location hl
                exact shapeAt_put hinner _ hl
              · rw [changeEntries, changeEntries, changeFolder_changeFolder]
                refine listing_changeFolder hinner ?_
                rw [Folder.erase_put, Folder.erase_of_find?_none hfind]

/-- The temporary file is a new file. -/
theorem beside_of_createNumbered {t t' : Tree} {folder : PathName} {n : Nat} {path : Text}
    (h : t.createNumbered folder n = .ok (t', path)) :
    ∃ place name, t.slot path = .ok (.entry place name) ∧ breach? path = none ∧
      Beside t t' place name [] := by
  simp only [createNumbered] at h
  cases hc : t.createFile 0o600 (folder.child (temporaryName n)).toText with
  | error f =>
      rw [hc] at h
      cases h
  | ok s =>
      rw [hc] at h
      cases h
      exact beside_of_createFile hc

/-- What is made first is made under some name. -/
theorem exists_of_firstFree {α : Type} {make : Nat → Except Fault α} {tries n : Nat} {made : α}
    (h : firstFree make tries n = .ok made) : ∃ m, make m = .ok made := by
  induction tries generalizing n with
  | zero => exact ⟨n, h⟩
  | succ tries ih =>
      rw [firstFree] at h
      split at h
      · rename_i hn
        exact ⟨n, hn.trans h⟩
      · split at h
        · exact ih h
        · cases h

theorem beside_of_createTemporary {t t' : Tree} {folder : PathName} {tries n : Nat} {path : Text}
    (h : t.createTemporary folder tries n = .ok (t', path)) :
    ∃ place name, t.slot path = .ok (.entry place name) ∧ breach? path = none ∧
      Beside t t' place name [] := by
  obtain ⟨m, hm⟩ := exists_of_firstFree h
  exact beside_of_createNumbered hm

/-- Filling the temporary file keeps it beside everything else. -/
theorem beside_of_setContent {base t t' : Tree} {folder : Location} {name path : Text}
    {old content : List UInt8} (hb : Beside base t folder name old)
    (hslot : base.slot path = .ok (.entry folder name)) (hsound : breach? path = none)
    (h : t.setContent content path = .ok t') : Beside base t' folder name content := by
  obtain ⟨b, hlookup⟩ := hb.lookup hslot hsound
  rw [setContent, hlookup] at h
  cases h
  exact hb.changeNode fun b' => ⟨_, rfl⟩

theorem beside_of_setMode {base t t' : Tree} {folder : Location} {name path : Text}
    {content : List UInt8} {mode : Nat} (hb : Beside base t folder name content)
    (hslot : base.slot path = .ok (.entry folder name)) (hsound : breach? path = none)
    (h : t.setMode mode path = .ok t') : Beside base t' folder name content := by
  obtain ⟨b, hlookup⟩ := hb.lookup hslot hsound
  rw [setMode, hlookup] at h
  cases h
  exact hb.changeNode fun b' => ⟨_, rfl⟩

/-! ## The replaced entry -/

/-- One entry is a file of this content now, and nothing else is different. -/
structure Replaced (base t : Tree) (folder : Location) (name : Text) (content : List UInt8) :
    Prop where
  working : t.working = base.working
  inside : base.shapeAt folder = some .folder
  entry : ∃ a, t.at? (folder ++ [name]) = some (.file a content)
  others : ∀ location, ¬ (folder ++ [name]) <+: location →
    t.shapeAt location = base.shapeAt location
  former : base.shapeAt (folder ++ [name]) ≠ some .folder
  renewed : base.root.listing.Renewed (folder ++ [name]) t.root.listing

/-- The move of the temporary file replaces the entry that the target designates. -/
theorem replaced_of_moveFile {base t t' : Tree} {place : Location} {temporary : Text}
    {content : List UInt8} (hb : Beside base t place temporary content) {source target : Text}
    (hslot : base.slot source = .ok (.entry place temporary))
    (h : t.moveFile source target = .ok t') :
    ∃ folder name, base.slot target = .ok (.entry folder name) ∧ breach? target = none ∧
      Replaced base t' folder name content := by
  have hsource := slot_of_sameWays hb.sameWays hslot
  obtain ⟨b, hat⟩ := hb.at?_place
  simp only [moveFile, hsource] at h
  split at h
  · cases h
  rename_i hsound
  cases htarget : t.slot target with
  | error reason =>
      rw [htarget] at h
      cases h
  | ok slot =>
      rw [htarget] at h
      cases slot with
      | unnamed => cases h
      | entry folder name =>
          simp only [hat] at h
          have hbase := slot_of_sameWays hb.sameWays.symm htarget
          have hinside := (slot_eq_entry_iff.mp hbase).2.2.2.1
          -- the tree between the two halves of the move
          have hmiddle := hb.shapeAt_erase
          obtain ⟨a, inner, hinner⟩ := shapeAt_eq_folder_iff.mp ((hmiddle folder).trans hinside)
          have hnode : t' = (t.changeEntries place fun f => f.erase temporary).changeEntries folder
              fun f => f.put name (.file b content) := by
            split at h
            · cases h
            · exact (Except.ok.inj h).symm
          subst hnode
          have hformer : base.shapeAt (folder ++ [name]) ≠ some .folder := by
            intro hfolder
            obtain ⟨c, deeper, hdeeper⟩ :=
              shapeAt_eq_folder_iff.mp ((hb.sameWays.2 _ _ rfl).mp hfolder)
            simp only [hdeeper] at h
            cases h
          refine ⟨folder, name, hbase, by simp_all, hb.working, hinside, ⟨b, at?_put hinner _⟩, ?_,
            hformer, ?_⟩
          · intro location hl
            rw [shapeAt_put hinner _ hl, hmiddle]
          · rw [← hb.listing]
            refine renewed_changeEntries hinner (fun c deeper hfind => hformer ?_) b content
            rw [← hmiddle, shapeAt_eq_folder_iff]
            exact ⟨c, deeper, by rw [at?_child hinner, hfind]⟩

/-- A step that succeeds was not interrupted. -/
theorem ok_of_attempt {α : Type} {interrupt : Interruption} {step : WriteStep}
    {run : Except Fault α} {x : α} (h : attempt interrupt step run = .ok x) : run = .ok x := by
  unfold attempt at h
  split at h
  · cases h
  · exact h

/-- A temporary file that is filled and moved without a fault went through three changes, with
the permissions that were read for the target. -/
theorem changes_of_fillAndMove {interrupt : Interruption} {before t : Tree}
    {content : List UInt8} {temporary target : Text}
    (h : (fillAndMove interrupt before t content temporary target).fault = none) :
    ∃ filled mode ready, t.setContent content temporary = .ok filled ∧
      modeFor interrupt before target = .ok mode ∧
      filled.setMode mode temporary = .ok ready ∧
      ready.moveFile temporary target =
        .ok (fillAndMove interrupt before t content temporary target).tree := by
  unfold fillAndMove at h ⊢
  split at h
  · cases h
  rename_i filled hfilled
  split at h
  · cases h
  rename_i mode hmode
  split at h
  · cases h
  rename_i ready hready
  split at h
  · cases h
  rename_i moved hmoved
  exact ⟨filled, mode, ready, ok_of_attempt hfilled, hmode, ok_of_attempt hready,
    ok_of_attempt hmoved⟩

theorem ofFault_ne_written (f : Fault) : WriteOutcome.ofFault f ≠ .written := by
  cases f <;> simp [WriteOutcome.ofFault]

/-- A write that succeeds goes through its four changes in the tree with the folders for its
target. -/
theorem changes_of_written {t : Tree} {interrupt : Interruption} {content : String} {path : Text}
    (h : (t.writeFile interrupt content path).outcome = .written) :
    let target := PathName.ofText path
    let base := (ensureFolders interrupt target.parent.anchor t target.parent.names.reverse).tree
    ∃ folder tries made temporary filled mode ready,
      base.createTemporary folder tries 0 = .ok (made, temporary) ∧
      made.setContent (Text.encodeUtf8 content) temporary = .ok filled ∧
      modeFor interrupt base target.toText = .ok mode ∧
      filled.setMode mode temporary = .ok ready ∧
      ready.moveFile temporary target.toText =
        .ok (t.writeFile interrupt content path).tree := by
  intro target base
  unfold writeFile at h ⊢
  simp only at h ⊢
  split at h
  · exact absurd h (ofFault_ne_written _)
  rename_i hparents
  split at h
  · exact absurd h (ofFault_ne_written _)
  rename_i made temporary hmade
  split at h
  · rename_i hmoved
    obtain ⟨filled, mode, ready, hfilled, hmode, hready, hmove⟩ := changes_of_fillAndMove hmoved
    exact ⟨_, _, made, temporary, filled, mode, ready, ok_of_attempt hmade, hfilled, hmode, hready,
      hmove⟩
  · exact absurd h (ofFault_ne_written _)

/-- A write that succeeds replaces the entry that its target designates, after the folders
on the way to it were made. -/
theorem replaced_of_written {t : Tree} {interrupt : Interruption} {content : String} {path : Text}
    (h : (t.writeFile interrupt content path).outcome = .written) :
    let target := PathName.ofText path
    let parents := ensureFolders interrupt target.parent.anchor t target.parent.names.reverse
    ∃ folder name, parents.tree.slot target.toText = .ok (.entry folder name) ∧
      breach? path = none ∧
      Replaced parents.tree (t.writeFile interrupt content path).tree folder name
        (Text.encodeUtf8 content) := by
  intro target parents
  obtain ⟨_, _, made, temporary, filled, mode, ready, hmade, hfilled, _, hready, hmove⟩ :=
    changes_of_written h
  obtain ⟨place, name, hslot, hsound, hb⟩ := beside_of_createTemporary hmade
  have hfilled := beside_of_setContent hb hslot hsound hfilled
  have hready := beside_of_setMode hfilled hslot hsound hready
  obtain ⟨folder, target, htarget, htargetSound, hreplaced⟩ :=
    replaced_of_moveFile hready hslot hmove
  exact ⟨folder, target, htarget, breach?_toText_eq_none_iff.mp htargetSound, hreplaced⟩

/-! ## The path of the target -/

/-- The steps to a slot are those to its folder, and its name. -/
theorem steps_of_slot {t : Tree} {path : Text} {folder : Location} {name : Text}
    (h : t.slot (PathName.ofText path).toText = .ok (.entry folder name)) :
    (PathName.ofText path).names.map Step.ofName =
      (PathName.ofText path).parent.names.map Step.ofName ++ [.down name] ∧
    ∃ k, k ≤ linkLimit ∧
      t.Leads k (t.start path) ((PathName.ofText path).parent.names.map Step.ofName) folder := by
  have hlegal := PathName.legal_ofText path
  obtain ⟨_, _, ⟨k, hk, hleads⟩, _, hlast, _⟩ := slot_eq_entry_iff.mp h
  have hne : (PathName.ofText path).names ≠ [] := by
    intro hnil
    rw [steps_toText_of_nil hnil] at hlast
    cases hlast
  rw [steps_toText hlegal hne] at hleads hlast
  rw [start_toText t path hlegal rfl] at hleads
  obtain ⟨front, hfront⟩ := List.getLast?_eq_some_iff.mp hlast
  have hparent : (PathName.ofText path).parent.names.map Step.ofName = front := by
    rw [PathName.parent, List.map_dropLast, hfront, List.dropLast_concat]
  rw [hfront, List.dropLast_concat] at hleads
  rw [hparent]
  exact ⟨hfront, k, hk, hleads⟩

namespace Replaced

variable {base t : Tree} {folder : Location} {name path : Text} {content : List UInt8}

/-- All folders and links of the tree were there before. -/
theorem shapeAt_base (h : Replaced base t folder name content) {location : Location}
    {shape : Shape} (hl : t.shapeAt location = some shape) (hshape : shape.isFile = false) :
    base.shapeAt location = some shape := by
  by_cases hp : (folder ++ [name]) <+: location
  · obtain ⟨a, hat⟩ := h.entry
    by_cases heq : location = folder ++ [name]
    · subst heq
      rw [shapeAt_eq_file_iff.mpr hat] at hl
      cases hl
      simp [Shape.isFile] at hshape
    · rw [shapeAt_of_file hat hp heq] at hl
      cases hl
  · rwa [← h.others location hp]

/-- The folder around the entry is still there. -/
theorem shapeAt_folder (h : Replaced base t folder name content) :
    t.shapeAt folder = some .folder := by
  obtain ⟨a, hat⟩ := h.entry
  exact folder_of_shapeAt_append (shapeAt_eq_file_iff.mpr hat)

/-- A route to a folder for the steps before the target's name leads to the folder of the
slot. -/
theorem eq_folder (h : Replaced base t folder name content)
    (hslot : base.slot (PathName.ofText path).toText = .ok (.entry folder name)) {k : Nat}
    {stop : Location}
    (hleads : t.Leads k (t.start path) ((PathName.ofText path).parent.names.map Step.ofName) stop)
    (hstop : t.shapeAt stop = some .folder) : stop = folder := by
  obtain ⟨_, m, _, hbase⟩ := steps_of_slot hslot
  have hthere := hleads.transfer (fun _ _ hl hf => h.shapeAt_base hl hf)
    (h.shapeAt_base hstop rfl) rfl
  rw [start_of_working h.working] at hthere
  exact hthere.unique hbase

/-- If the target's path leads to a file, that is the new one. -/
theorem eq_content (h : Replaced base t folder name content)
    (hslot : base.slot (PathName.ofText path).toText = .ok (.entry folder name))
    {bytes : List UInt8} (hbytes : t.bytesOf path = .ok bytes) : bytes = content := by
  obtain ⟨stop, a, hlookup⟩ := bytesOf_eq_ok_iff.mp hbytes
  obtain ⟨_, _, _, ⟨k, _, hleads⟩, hat⟩ := lookup_eq_ok_iff.mp hlookup
  have hthin := hleads.thin (thinned_steps path)
  rw [(steps_of_slot hslot).1] at hthin
  obtain ⟨i, j, middle, _, hfront, hlast⟩ := hthin.split _ _ rfl
  have hmiddle := h.eq_folder hslot hfront hlast.folder_of_cons
  subst hmiddle
  obtain ⟨b, hentry⟩ := h.entry
  have hfile := shapeAt_eq_file_iff.mpr hentry
  cases hlast with
  | down _ _ _ _ more =>
      cases more
      rw [hat] at hentry
      cases hentry
      rfl
  | link _ _ hlink _ =>
      rw [hfile] at hlink
      cases hlink

/-- The target's path leads to the new file, unless its text is too long, ends in a step
that stays in place, or is no longer behind a folder. -/
theorem lookup_path (h : Replaced base t folder name content)
    (hslot : base.slot (PathName.ofText path).toText = .ok (.entry folder name))
    (hsound : breach? path = none) (hlong : path.byteSize ≤ pathLimit)
    (hlast : (steps path).getLast? ≠ some .stay)
    (hparent : t.isFolder (PathName.ofText path).parent.toText = .ok true) :
    ∃ a, t.lookup true path = .ok (folder ++ [name], .file a content) := by
  obtain ⟨a, hat⟩ := h.entry
  have hlegal := PathName.legal_parent (PathName.legal_ofText path)
  obtain ⟨hsteps, _⟩ := steps_of_slot hslot
  obtain ⟨_, _, _, _, _, hshort⟩ := slot_eq_entry_iff.mp hslot
  -- the steps of the parent lead to the folder of the slot
  obtain ⟨stop, b, inner, hlookup⟩ := isFolder_eq_true_iff.mp hparent
  obtain ⟨_, _, _, ⟨k, hk, hleads⟩, hstop⟩ := lookup_eq_ok_iff.mp hlookup
  have hthin := hleads.thin (thinned_steps_toText hlegal)
  rw [start_toText t path hlegal rfl] at hthin
  have hfolder := shapeAt_eq_folder_iff.mpr ⟨b, inner, hstop⟩
  have heq := h.eq_folder hslot hthin hfolder
  subst heq
  -- and so do the steps of the text before its last one
  have hthinned := thinned_steps path
  rw [hsteps] at hthinned
  obtain ⟨front, hfront, hrest⟩ := hthinned.concat hlast
  have hentry : t.Leads 0 stop [.down name] (stop ++ [name]) :=
    .down hfolder hshort (shapeAt_eq_file_iff.mpr hat) rfl (.here _)
  refine ⟨a, lookup_eq_ok_iff.mpr ⟨hsound, ?_, hlong, ⟨k, hk, ?_⟩, hat⟩⟩
  · rintro rfl
    have hnone : (PathName.ofText "").names = [] := rfl
    simp [hnone] at hsteps
  · rw [hfront]
    exact (hthin.thicken hfolder hrest).append hentry

end Replaced

end Tree

end GoogIndex.Storage
