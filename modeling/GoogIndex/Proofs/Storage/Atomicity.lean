/-
  Proofs/Storage/Atomicity.lean --- a write happens as a whole or not at all.

  Normative source: SPEC_FULL §4.3, `write_file`.

  Whatever step of a write fails, files and links are as they were, and at most folders on
  the way to the target are new.  A write that succeeds changes one more thing: the entry
  of its target, which is a regular file then.  Its permissions are those of what the
  target's path leads to once the folders are there, or the usual ones where that cannot
  be told.
-/
import GoogIndex.Proofs.Storage.Permissions
import GoogIndex.Proofs.Storage.Unwritten

set_option autoImplicit false

namespace GoogIndex.Storage.Tree

/-! ## Folders on the way to a path -/

/-- At most folders on the way to a path are new, and everything that was there is as it
was: files with their content and attributes, links, and folders with their permissions. -/
structure Provided (t t' : Tree) (path : PathName) : Prop where
  extends_ : Extends t t'
  modes : ∀ location mode, t.folderModeAt location = some mode →
    t'.folderModeAt location = some mode
  made : ∀ location shape, t.shapeAt location = none → t'.shapeAt location = some shape →
    shape = .folder ∧ ∃ front node, front <+: path.names ∧
      t'.lookup true (PathName.mk path.anchor front).toText = .ok (location, node)

namespace Provided

variable {t t' t'' : Tree} {path : PathName}

theorem refl (t : Tree) (path : PathName) : Provided t t path :=
  ⟨.refl t, fun _ _ hl => hl, fun _ _ hnone hl => by rw [hnone] at hl; cases hl⟩

theorem trans (h : Provided t t' path) (h' : Provided t' t'' path) : Provided t t'' path := by
  refine ⟨h.extends_.trans h'.extends_, fun location mode hl =>
    h'.modes location mode (h.modes location mode hl), fun location shape hnone hl => ?_⟩
  cases hmiddle : t'.shapeAt location with
  | none => exact h'.made location shape hmiddle hl
  | some middle =>
      obtain ⟨rfl, front, node, hfront, hlookup⟩ := h.made location middle hnone hmiddle
      rw [h'.extends_.shapes location _ hmiddle] at hl
      cases hl
      obtain ⟨node', hlookup', _⟩ := h'.extends_.lookup hlookup
      exact ⟨rfl, front, node', hfront, hlookup'⟩

/-- No file and no link is new or gone. -/
theorem shapeAt_iff (h : Provided t t' path) {location : Location} {shape : Shape}
    (hshape : shape ≠ .folder) :
    t'.shapeAt location = some shape ↔ t.shapeAt location = some shape := by
  refine ⟨fun hl => ?_, h.extends_.shapes location shape⟩
  cases hbefore : t.shapeAt location with
  | none => exact absurd (h.made location shape hbefore hl).1 hshape
  | some before =>
      rw [h.extends_.shapes location before hbefore] at hl
      exact hl

/-- What was made for a front of the names was made for them. -/
theorem mono {anchor : Anchor} {names more : List Text} (h : Provided t t' ⟨anchor, names⟩)
    (hmore : names <+: more) : Provided t t' ⟨anchor, more⟩ := by
  refine ⟨h.extends_, h.modes, fun location shape hnone hl => ?_⟩
  obtain ⟨rfl, front, node, hfront, hlookup⟩ := h.made location shape hnone hl
  exact ⟨rfl, front, node, hfront.trans hmore, hlookup⟩

end Provided

/-- A folder that is made is the only new thing, and its path leads to it. -/
theorem provided_of_makeFolder {t t' : Tree} {path : PathName}
    (h : t.makeFolder path.toText = .ok t') : Provided t t' path := by
  obtain ⟨folder, name, hslot, hnew⟩ := newFolder_of_makeFolder h
  obtain ⟨_, _, _, hfolder, _, _⟩ := slot_eq_entry_iff.mp hslot
  obtain ⟨a, inner, hat⟩ := shapeAt_eq_folder_iff.mp hfolder
  unfold makeFolder at h
  rw [hslot] at h
  split at h
  · cases h
  rename_i hnull
  simp only at h
  split at h
  · cases h
  cases h
  have hthere : (t.changeEntries folder fun f =>
      f.put name (.folder ⟨0o777 &&& (0o7777 ^^^ t.umask), t.clock⟩ .empty)).at?
        (folder ++ [name]) = some _ := at?_put hat _
  refine ⟨hnew.extends_, fun location mode hl => ?_, fun location shape hnone hl => ?_⟩
  · have hp : ¬ (folder ++ [name]) <+: location := by
      intro hp
      have hshape := shapeAt_of_folderModeAt hl
      rw [shapeAt_of_free hnew.free hp] at hshape
      cases hshape
    rw [← hl]
    exact folderModeAt_changeFolder_of_entry hat rfl
      (fun other ho => Folder.find?_put_of_ne _ inner ho) hp
  · by_cases hp : (folder ++ [name]) <+: location
    · obtain ⟨rest, rfl⟩ := hp
      cases rest with
      | nil =>
          rw [List.append_nil] at hl ⊢
          exact ⟨hnew.inside _ _ (List.prefix_refl _) hl, path.names, _, List.prefix_refl _,
            lookup_of_entry_at (hnew.extends_.slot hslot) (by simpa using hnull) hthere rfl⟩
      | cons next more =>
          -- the new folder is empty
          rw [shapeAt, at?_append, hthere] at hl
          cases hl
    · rw [hnew.others location hp, hnone] at hl
      cases hl

/-- Whatever becomes of making the folders of a path, at most those are new. -/
theorem provided_ensureFolders (interrupt : Interruption) (anchor : Anchor) (t : Tree)
    (names : List Text) :
    Provided t (ensureFolders interrupt anchor t names).tree ⟨anchor, names.reverse⟩ := by
  refine ensureFoldersWithin_induction
    (R := fun names t t' => Provided t t' ⟨anchor, names.reverse⟩)
    (fun names t => .refl t _) .trans (fun {name names t t'} h => h.mono ?_) provided_of_makeFolder
    interrupt folderCalls t names
  rw [List.reverse_cons]
  exact List.prefix_append _ _

/-- A tree like one in which folders were made is as good as that one. -/
theorem Provided.of_alike {t t' t'' : Tree} {path : PathName} (h : Provided t t' path)
    (halike : Alike t' t'') : Provided t t'' path := by
  have hback : Extends t' t'' :=
    ⟨halike.working, fun location shape hl => by rwa [halike.shapes]⟩
  refine ⟨h.extends_.trans hback, fun location mode hl => ?_,
    fun location shape hnone hl => ?_⟩
  · rw [halike.modes]
    exact h.modes location mode hl
  · rw [halike.shapes] at hl
    obtain ⟨rfl, front, node, hfront, hlookup⟩ := h.made location shape hnone hl
    obtain ⟨node', hlookup', _⟩ := hback.lookup hlookup
    exact ⟨rfl, front, node', hfront, hlookup'⟩

/-- Whatever step of a write fails, at most folders on the way to its target are new. -/
theorem provided_of_unwritten {t : Tree} {interrupt : Interruption} {content : String} {path : Text}
    (h : (t.writeFile interrupt content path).outcome ≠ .written) :
    Provided t (t.writeFile interrupt content path).tree (PathName.ofText path).parent := by
  have hfolders := provided_ensureFolders interrupt (PathName.ofText path).parent.anchor t
    (PathName.ofText path).parent.names.reverse
  rw [List.reverse_reverse] at hfolders
  exact hfolders.of_alike (alike_of_unwritten h)

/-! ## The permissions of the target -/

theorem attributesOf_eq_ok_iff {t : Tree} {path : Text} {a : Attributes} :
    t.attributesOf path = .ok a ↔
      ∃ stop node, t.lookup true path = .ok (stop, node) ∧
        ((∃ content, node = .file a content) ∨ ∃ inner, node = .folder a inner) := by
  unfold attributesOf Tree.node
  cases hlookup : t.lookup true path with
  | error f => simp [Except.map, bind, Except.bind]
  | ok found =>
      obtain ⟨stop, node⟩ := found
      simp only [Except.map, bind, Except.bind, Except.ok.injEq, Prod.mk.injEq]
      constructor
      · intro ha
        refine ⟨stop, node, ⟨rfl, rfl⟩, ?_⟩
        cases node with
        | file b content =>
            cases ha
            exact .inl ⟨content, rfl⟩
        | folder b inner =>
            cases ha
            exact .inr ⟨inner, rfl⟩
        | link target => cases ha
      · rintro ⟨_, _, ⟨rfl, rfl⟩, ⟨content, rfl⟩ | ⟨inner, rfl⟩⟩
        · rfl
        · rfl

/-- What had permissions before the folders were made has the same ones afterwards. -/
theorem Provided.attributesOf {t t' : Tree} {path : PathName} (h : Provided t t' path)
    {target : Text} {a : Attributes} (ha : t.attributesOf target = .ok a) :
    ∃ b, t'.attributesOf target = .ok b ∧ b.mode = a.mode := by
  obtain ⟨stop, node, hlookup, hnode⟩ := attributesOf_eq_ok_iff.mp ha
  rcases hnode with ⟨content, rfl⟩ | ⟨inner, rfl⟩
  · exact ⟨a, attributesOf_eq_ok_iff.mpr
      ⟨stop, _, h.extends_.lookup_file hlookup, .inl ⟨content, rfl⟩⟩, rfl⟩
  · obtain ⟨node', hlookup', hshape⟩ := h.extends_.lookup hlookup
    obtain ⟨b, inner', rfl⟩ := shape_eq_folder_iff.mp hshape
    obtain ⟨_, _, _, _, hat⟩ := lookup_eq_ok_iff.mp hlookup
    obtain ⟨_, _, _, _, hat'⟩ := lookup_eq_ok_iff.mp hlookup'
    have hmode := h.modes stop _ (folderModeAt_of_at? hat)
    rw [folderModeAt_of_at? hat'] at hmode
    exact ⟨b, attributesOf_eq_ok_iff.mpr ⟨stop, _, hlookup', .inr ⟨inner', rfl⟩⟩,
      Option.some.inj hmode⟩

/-- A path to an entry that is not there has no permissions. -/
theorem attributesOf_of_free {t : Tree} {path : Text} {folder : Location} {name : Text}
    (hslot : t.slot path = .ok (.entry folder name)) (hfree : t.shapeAt (folder ++ [name]) = none) :
    ∃ f, t.attributesOf path = .error f := by
  cases hattributes : t.attributesOf path with
  | error f => exact ⟨f, rfl⟩
  | ok a =>
      obtain ⟨stop, node, hlookup, _⟩ := attributesOf_eq_ok_iff.mp hattributes
      obtain ⟨_, _, ⟨i, _, hfront⟩, _, hlast, _⟩ := slot_eq_entry_iff.mp hslot
      obtain ⟨_, _, _, ⟨k, _, hleads⟩, _⟩ := lookup_eq_ok_iff.mp hlookup
      have hsteps : steps path = (steps path).dropLast ++ [.down name] := by
        obtain ⟨front, hsplit⟩ := List.getLast?_eq_some_iff.mp hlast
        rw [hsplit, List.dropLast_concat]
      obtain ⟨_, _, middle, _, hmiddle, hend⟩ := hleads.split _ _ hsteps
      have heq := hmiddle.unique hfront
      subst heq
      cases hend with
      | down _ _ entry _ _ =>
          rw [hfree] at entry
          cases entry
      | link _ _ entry _ =>
          rw [hfree] at entry
          cases entry

/-- The permissions of a new file are those of its target, as far as they can be read. -/
theorem modeFor_eq_ok {interrupt : Interruption} {t : Tree} {target : Text} {mode : Nat}
    (h : modeFor interrupt t target = .ok mode) :
    (∀ a, attempt interrupt .readMode (t.attributesOf target) = .ok a → mode = a.mode) ∧
      ∀ f, attempt interrupt .readMode (t.attributesOf target) = .error f →
        mode = 0o666 &&& (0o7777 ^^^ t.umask) := by
  unfold modeFor at h
  split at h
  · rename_i a ha
    cases h
    refine ⟨fun b hb => ?_, fun f hf => ?_⟩
    · cases ha.symm.trans hb
      rfl
    · cases ha.symm.trans hf
  · rename_i r hr
    cases h
    refine ⟨fun b hb => ?_, fun _ _ => rfl⟩
    cases hr.symm.trans hb
  · cases h

/-! ## Writes -/

/-- A write that succeeds makes the target's entry a file with the permissions that were read,
and keeps all folders. -/
theorem entry_of_written {t : Tree} {interrupt : Interruption} {content : String} {path : Text}
    (h : (t.writeFile interrupt content path).outcome = .written) :
    let target := PathName.ofText path
    let base := (ensureFolders interrupt target.parent.anchor t target.parent.names.reverse).tree
    let after := (t.writeFile interrupt content path).tree
    ∃ folder name a, base.slot target.toText = .ok (.entry folder name) ∧
      Replaced base after folder name (Text.encodeUtf8 content) ∧
      after.at? (folder ++ [name]) = some (.file a (Text.encodeUtf8 content)) ∧
      modeFor interrupt base target.toText = .ok a.mode ∧
      after.folderModeAt = base.folderModeAt := by
  intro target base after
  obtain ⟨folder, name, htarget, _, hreplaced⟩ := replaced_of_written h
  obtain ⟨_, _, made, temporary, filled, mode, ready, hmade, hfilled, hmode, hready, hmove⟩ :=
    changes_of_written h
  obtain ⟨place, temporaryName, hslot, hnull, hb⟩ := beside_of_createTemporary hmade
  have hfilledModes := folderModeAt_of_setContent hb hslot hnull hfilled
  have hfilled := beside_of_setContent hb hslot hnull hfilled
  obtain ⟨hreadyModes, a, hat, ha⟩ := at?_of_setMode hfilled hslot hnull hready
  have hready := beside_of_setMode hfilled hslot hnull hready
  obtain ⟨hafterModes, hentry⟩ := at?_of_moveFile hready hslot htarget hmove
  refine ⟨folder, name, a, htarget, hreplaced, hentry.trans hat, ?_, ?_⟩
  · rw [ha]
    exact hmode
  · rw [hafterModes, hreadyModes, hfilledModes, folderModeAt_of_createTemporary hmade]

/-- A write happens as a whole or not at all.  If it fails, at whatever step, at most folders on
the way to the target are new.  If it succeeds, there is one more change: the target's entry
is a file of exactly this text.  It has the permissions of what the target's path leads to,
with the folders on the way there, or the usual ones if these cannot be read. -/
theorem writeFile_atomic (t : Tree) (interrupt : Interruption) (content : String) (path : Text) :
    let target := PathName.ofText path
    let after := t.writeFile interrupt content path
    (after.outcome ≠ .written → Provided t after.tree target.parent) ∧
      (after.outcome = .written → ∃ base folder name a,
        Provided t base target.parent ∧ base.slot target.toText = .ok (.entry folder name) ∧
        after.tree.at? (folder ++ [name]) = some (.file a (Text.encodeUtf8 content)) ∧
        (∀ location, location ≠ folder ++ [name] →
          after.tree.shapeAt location = base.shapeAt location ∧
          after.tree.folderModeAt location = base.folderModeAt location) ∧
        (∀ b, attempt interrupt .readMode (base.attributesOf target.toText) = .ok b →
          a.mode = b.mode) ∧
        (∀ f, attempt interrupt .readMode (base.attributesOf target.toText) = .error f →
          a.mode = 0o666 &&& (0o7777 ^^^ t.umask)) ∧
        (interrupt .readMode = none → ∀ b, t.attributesOf target.toText = .ok b →
          a.mode = b.mode) ∧
        (base.at? (folder ++ [name]) = none → a.mode = 0o666 &&& (0o7777 ^^^ t.umask))) := by
  intro target after
  have hbase := provided_ensureFolders interrupt target.parent.anchor t
    target.parent.names.reverse
  rw [List.reverse_reverse] at hbase
  refine ⟨fun hfailed => hbase.of_alike (alike_of_unwritten hfailed), fun hwritten => ?_⟩
  obtain ⟨folder, name, a, hslot, hreplaced, hentry, hmode, hmodes⟩ := entry_of_written hwritten
  obtain ⟨hread, hunread⟩ := modeFor_eq_ok hmode
  rw [umask_ensureFolders] at hunread
  refine ⟨_, folder, name, a, hbase, hslot, hentry, fun location hl => ?_, hread, hunread, ?_, ?_⟩
  · refine ⟨?_, by rw [hmodes]⟩
    by_cases hp : (folder ++ [name]) <+: location
    · -- nothing is behind a file, nor behind what was no folder
      rw [shapeAt_of_file hentry hp hl]
      obtain ⟨rest, rfl⟩ := hp
      cases rest with
      | nil => exact absurd (List.append_nil _) hl
      | cons next more =>
          cases hshape : shapeAt _ (folder ++ [name] ++ next :: more) with
          | none => rfl
          | some shape => exact absurd (folder_of_shapeAt_append hshape) hreplaced.former
    · exact hreplaced.others location hp
  · intro hundisturbed b hb
    obtain ⟨c, hc, hcb⟩ := hbase.attributesOf hb
    rw [← hcb]
    refine hread c ?_
    rw [attempt, hundisturbed]
    exact hc
  · intro hnone
    obtain ⟨f, hf⟩ := attributesOf_of_free hslot (by rw [shapeAt, hnone]; rfl)
    unfold attempt at hunread
    split at hunread
    · exact hunread _ rfl
    · exact hunread f hf

/-- A link at the root to a folder that is not there. -/
def danglingTree : Tree :=
  ⟨⟨0o755, 0⟩, .link "l" "new" .empty, [], 0, 0o022⟩

/-- The name of the link so far from the end of a chain. -/
def chainName (n : Nat) : Text := String.singleton (Char.ofNat (48 + n))

/-- Links of which each leads to the one before, and the first to a file. -/
def linkChain : Nat → Folder
  | 0 => .file (chainName 0) ⟨0o600, 0⟩ [] .empty
  | n + 1 => .link (chainName (n + 1)) (chainName n) (linkChain n)

def chainTree : Tree := ⟨⟨0o755, 0⟩, linkChain 41, [], 0, 0o022⟩

/-- What the path leads to before the write does not settle the permissions.  The write makes a
folder on the way, and the path that led nowhere leads to it then; and behind more links than
a look-up follows there is a file whose permissions are not read. -/
theorem mode_not_of_before :
    ((∃ f, danglingTree.attributesOf "new/../l" = .error f) ∧
      (danglingTree.writeFile .never "x" "new/../l").outcome = .written ∧
      ((danglingTree.writeFile .never "x" "new/../l").tree.attributesOf "l").map (·.mode) =
        .ok 0o755 ∧
      0o755 ≠ 0o666 &&& (0o7777 ^^^ danglingTree.umask)) ∧
    ((chainTree.attributesOf (chainName 40)).map (·.mode) = .ok 0o600 ∧
      chainTree.lookup false (chainName 41) = .ok ([chainName 41], .link (chainName 40)) ∧
      (chainTree.writeFile .never "x" (chainName 41)).outcome = .written ∧
      ((chainTree.writeFile .never "x" (chainName 41)).tree.attributesOf (chainName 41)).map
        (·.mode) = .ok 0o644) :=
  ⟨⟨⟨_, rfl⟩, rfl, rfl, by decide⟩, rfl, rfl, rfl, rfl⟩

end GoogIndex.Storage.Tree
