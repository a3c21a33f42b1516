/-
  Proofs/Storage/Unwritten.lean --- what a write that fails leaves behind.

  Up to the move only the temporary file is touched, and it is taken away again.  What
  remains are the folders that were made on the way to the target, and these are empty.
  So a target whose path has no step upwards has no other content than before.
-/
import GoogIndex.Proofs.Storage.Kept
import GoogIndex.Proofs.Storage.Permissions

set_option autoImplicit false

namespace GoogIndex.Storage.Tree

/-! ## The temporary file is taken away -/

section cleaned

variable {base : Tree} {place : Location} {name temporary target : Text}
  {interrupt : Interruption}

/-- Until a fault, the temporary file has stood beside everything else. -/
theorem beside_of_fault {before t : Tree} {old content : List UInt8} {f : Fault}
    (hb : Beside base t place name old) (hslot : base.slot temporary = .ok (.entry place name))
    (hsound : breach? temporary = none)
    (h : (fillAndMove interrupt before t content temporary target).fault = some f) :
    (fillAndMove interrupt before t content temporary target).tree.folderModeAt = t.folderModeAt ∧
      ∃ left, Beside base (fillAndMove interrupt before t content temporary target).tree place name
        left := by
  unfold fillAndMove at h ⊢
  split
  · exact ⟨rfl, old, hb⟩
  rename_i filled hfilled
  have hmodes := folderModeAt_of_setContent hb hslot hsound (ok_of_attempt hfilled)
  have hfilled := beside_of_setContent hb hslot hsound (ok_of_attempt hfilled)
  split
  · exact ⟨hmodes, content, hfilled⟩
  split
  · exact ⟨hmodes, content, hfilled⟩
  rename_i ready hready
  have hsame := (at?_of_setMode hfilled hslot hsound (ok_of_attempt hready)).1.trans hmodes
  have hready := beside_of_setMode hfilled hslot hsound (ok_of_attempt hready)
  split
  · exact ⟨hsame, content, hready⟩
  · simp_all

/-- The temporary file can be taken away. -/
theorem remove_of_beside {t : Tree} {content : List UInt8} (hb : Beside base t place name content)
    (hslot : base.slot temporary = .ok (.entry place name)) (hsound : breach? temporary = none) :
    t.remove temporary = .ok (t.changeEntries place fun f => f.erase name) := by
  obtain ⟨b, hat⟩ := hb.at?_place
  have hthere := slot_of_sameWays hb.sameWays hslot
  unfold remove
  rw [hsound, hthere]
  simp [hat]

end cleaned

/-- Two trees with the same shapes at the same locations, and the same permissions of folders. -/
structure Alike (t t' : Tree) : Prop where
  working : t'.working = t.working
  shapes : t'.shapeAt = t.shapeAt
  modes : t'.folderModeAt = t.folderModeAt

theorem Alike.refl (t : Tree) : Alike t t := ⟨rfl, rfl, rfl⟩

/-- A write that fails leaves the tree with the folders for its target. -/
theorem alike_of_unwritten {t : Tree} {interrupt : Interruption} {content : String} {path : Text}
    (h : (t.writeFile interrupt content path).outcome ≠ .written) :
    let target := PathName.ofText path
    Alike (ensureFolders interrupt target.parent.anchor t target.parent.names.reverse).tree
      (t.writeFile interrupt content path).tree := by
  intro target
  unfold writeFile at h ⊢
  simp only at h ⊢
  cases hparents : (ensureFolders interrupt (PathName.ofText path).parent.anchor t
      (PathName.ofText path).parent.names.reverse).fault with
  | some f => exact .refl _
  | none =>
      rw [hparents] at h
      simp only at h ⊢
      split
      · exact .refl _
      rename_i made temporary hmade
      rw [hmade] at h
      simp only at h
      split
      · rename_i hmoved
        rw [hmoved] at h
        exact absurd rfl h
      rename_i f hfault
      have hmade := ok_of_attempt hmade
      obtain ⟨place, name, hslot, hsound, hb⟩ := beside_of_createTemporary hmade
      obtain ⟨hmodes, left, hb⟩ := beside_of_fault hb hslot hsound hfault
      rw [remove_of_beside hb hslot hsound]
      exact ⟨hb.working, funext hb.shapeAt_erase,
        hb.folderModeAt_erase.trans (hmodes.trans (folderModeAt_of_createTemporary hmade))⟩

/-- What a write leaves that fails, next to the tree with the folders for its target: nothing
else is there. -/
theorem extends_of_unwritten {t : Tree} {interrupt : Interruption} {content : String} {path : Text}
    (h : (t.writeFile interrupt content path).outcome ≠ .written) :
    let target := PathName.ofText path
    Extends (t.writeFile interrupt content path).tree
      (ensureFolders interrupt target.parent.anchor t target.parent.names.reverse).tree := by
  intro target
  have halike := alike_of_unwritten h
  exact ⟨halike.working.symm, fun location shape hl => by rwa [halike.shapes] at hl⟩

/-! ## The folders that were made -/

/-- Folders were made for the names of a path, or nothing was done: only folders are new, and
the way to the first of them is a front of the names. -/
structure Made (t t' : Tree) (here : Location) (names : List Text) : Prop where
  onlyFolders : ∀ location shape, t'.shapeAt location = some shape →
    t.shapeAt location = some shape ∨ shape = .folder
  new : t' = t ∨ ∃ front k place, front <+: names ∧ t.shapeAt place = none ∧
    t'.Leads k here (front.map Step.ofName) place

namespace Made

variable {t t' t'' : Tree} {here : Location} {names : List Text}

theorem refl (t : Tree) (here : Location) (names : List Text) : Made t t here names :=
  ⟨fun _ _ hl => .inl hl, .inl rfl⟩

/-- What was made for a front of the names was made for them. -/
theorem mono (h : Made t t' here names) {more : List Text} (hmore : names <+: more) :
    Made t t' here more := by
  refine ⟨h.onlyFolders, ?_⟩
  rcases h.new with hsame | ⟨front, k, place, hfront, hnew⟩
  · exact .inl hsame
  · exact .inr ⟨front, k, place, hfront.trans hmore, hnew⟩

/-- More folders may be made for the same names. -/
theorem trans (h : Made t t' here names) (h' : Made t' t'' here names) (hext : Extends t' t'') :
    Made t t'' here names := by
  refine ⟨fun location shape hl => ?_, ?_⟩
  · rcases h'.onlyFolders location shape hl with hl' | hfolder
    · exact h.onlyFolders location shape hl'
    · exact .inr hfolder
  · rcases h.new with rfl | ⟨front, k, place, hfront, hfree, hleads⟩
    · exact h'.new
    · exact .inr ⟨front, k, place, hfront, hfree, hleads.transfer_of_shapes
        fun location shape hl => .inl (hext.shapes location shape hl)⟩

end Made

/-- A folder that is made is one for the names of its path. -/
theorem made_of_makeFolder {t t' : Tree} {p : PathName} (hp : p.Legal)
    (h : t.makeFolder p.toText = .ok t') : Made t t' (t.start p.toText) p.names := by
  obtain ⟨folder, name, hslot, hnew⟩ := newFolder_of_makeFolder h
  refine ⟨fun location shape hl => ?_, .inr ⟨p.names, ?_⟩⟩
  · by_cases hplace : (folder ++ [name]) <+: location
    · exact .inr (hnew.inside location shape hplace hl)
    · rw [hnew.others location hplace] at hl
      exact .inl hl
  · obtain ⟨_, _, ⟨k, _, hleads⟩, hfolder, hlast, hshort⟩ := slot_eq_entry_iff.mp hslot
    have hne : p.names ≠ [] := by
      intro hnil
      rw [steps_toText_of_nil hnil] at hlast
      cases hlast
    obtain ⟨front, hfront⟩ := List.getLast?_eq_some_iff.mp hlast
    rw [hfront, List.dropLast_concat] at hleads
    rw [← steps_toText hp hne, hfront]
    have hroute := hleads.transfer_of_shapes fun location shape hl =>
      .inl (hnew.extends_.shapes location shape hl)
    have hentry : t'.Leads 0 folder [.down name] (folder ++ [name]) :=
      .down (hnew.extends_.shapes _ _ hfolder) hshort hnew.folder rfl (.here _)
    exact ⟨k + 0, _, List.prefix_refl _, hnew.free, hroute.append hentry⟩

theorem made_ensureFolders (interrupt : Interruption) (t : Tree) (path : Text)
    {names : List Text} (hnames : ∀ n ∈ names, IsName n) :
    Made t (ensureFolders interrupt (PathName.ofText path).anchor t names).tree (t.start path)
      names.reverse := by
  -- what was made before may be followed since nothing of it is lost
  have hmade := @ensureFoldersWithin_induction
    (fun names t t' => Extends t t' ∧
      ((∀ n ∈ names, IsName n) → Made t t' (t.start path) names.reverse))
    (PathName.ofText path).anchor (fun names t => ⟨.refl t, fun _ => .refl t _ _⟩) ?trans ?mono
    ?make interrupt folderCalls t names
  case trans =>
    rintro names t t' t'' ⟨hkept, hmade⟩ ⟨hkept', hmade'⟩
    refine ⟨hkept.trans hkept', fun hnames => ?_⟩
    have hnext := hmade' hnames
    rw [start_of_working hkept.working] at hnext
    exact (hmade hnames).trans hnext hkept'
  case mono =>
    rintro name names t t' ⟨hkept, hmade⟩
    refine ⟨hkept, fun hnames =>
      (hmade fun n hn => hnames n (List.mem_cons_of_mem name hn)).mono ?_⟩
    rw [List.reverse_cons]
    exact List.prefix_append _ _
  case make =>
    intro names t t' hmake
    refine ⟨extends_of_makeFolder hmake, fun hnames => ?_⟩
    have hlegal : (PathName.mk (PathName.ofText path).anchor names.reverse).Legal :=
      fun n hn => hnames n (List.mem_reverse.mp hn)
    have hnew := made_of_makeFolder hlegal hmake
    rwa [start_toText t path hlegal rfl] at hnew
  exact hmade.2 hnames

/-! ## The content of the target -/

/-- A way down from a new folder only leads to new places. -/
theorem Made.free_of_leads {t t' : Tree} {here : Location} {names : List Text}
    (h : Made t t' here names) {rest : List Text} (hup : (".." : Text) ∉ rest)
    (hstay : ("." : Text) ∉ rest)
    {k : Nat} {place stop : Location} (hplace : t.shapeAt place = none)
    (hleads : t'.Leads k place (rest.map Step.ofName) stop) : t.shapeAt stop = none := by
  induction rest generalizing k place with
  | nil =>
      cases hleads
      exact hplace
  | cons n more ih =>
      rw [List.mem_cons, not_or] at hup hstay
      have hfree : t.shapeAt (place ++ [n]) = none :=
        shapeAt_of_free hplace (List.prefix_append _ _)
      rw [List.map_cons, Step.ofName, if_neg (Ne.symm hstay.1), if_neg (Ne.symm hup.1)] at hleads
      cases hleads with
      | down _ _ _ _ hmore => exact ih hup.2 hstay.2 hfree hmore
      | link _ _ hentry _ =>
          rcases h.onlyFolders _ _ hentry with hl | hfolder
          · rw [hfree] at hl
            cases hl
          · cases hfolder

/-- A write that fails gives its target no content, unless the path has a step upwards. -/
theorem bytesOf_of_unwritten {t : Tree} {interrupt : Interruption} {content : String} {path : Text}
    (h : (t.writeFile interrupt content path).outcome ≠ .written)
    (hup : (".." : Text) ∉ (PathName.ofText path).names) {bytes : List UInt8}
    (hbytes : (t.writeFile interrupt content path).tree.bytesOf path = .ok bytes) :
    t.bytesOf path = .ok bytes := by
  have hlegal := PathName.legal_ofText path
  have hmade : Made t (ensureFolders interrupt (PathName.ofText path).parent.anchor t
      (PathName.ofText path).parent.names.reverse).tree (t.start path)
      (PathName.ofText path).parent.names := by
    have hnames : ∀ n ∈ (PathName.ofText path).parent.names.reverse, IsName n :=
      fun n hn => PathName.legal_parent hlegal n (List.mem_reverse.mp hn)
    have hthere := made_ensureFolders interrupt t path hnames
    rwa [List.reverse_reverse] at hthere
  obtain ⟨stop, a, hlookup⟩ := bytesOf_eq_ok_iff.mp hbytes
  have hlookup := (extends_of_unwritten h).lookup_file hlookup
  rcases hmade.new with hsame | ⟨front, i, place, hfront, hfree, hplace⟩
  · rw [hsame] at hlookup
    exact bytesOf_eq_ok_iff.mpr ⟨stop, a, hlookup⟩
  · -- the path goes through a new folder, so there is no file at its end
    obtain ⟨_, _, _, ⟨k, _, hleads⟩, hat⟩ := lookup_eq_ok_iff.mp hlookup
    obtain ⟨rest, hrest⟩ := hfront.trans (List.dropLast_prefix _)
    have hthin := hleads.thin (thinned_steps path)
    rw [← hrest, List.map_append, start_of_working (extends_ensureFolders ..).working] at hthin
    obtain ⟨_, _, middle, _, hfirst, hsecond⟩ := hthin.split _ _ rfl
    have heq := hfirst.unique hplace
    subst heq
    have hgone : t.shapeAt stop = none := by
      refine hmade.free_of_leads (fun hn => ?_) (fun hn => ?_) hfree hsecond
      · exact hup (hrest ▸ List.mem_append_right front hn)
      · exact (hlegal "." (hrest ▸ List.mem_append_right front hn)).2.1 rfl
    rcases hmade.onlyFolders stop _ (shapeAt_eq_file_iff.mpr hat) with hl | hfolder
    · rw [hgone] at hl
      cases hl
    · cases hfolder

end GoogIndex.Storage.Tree
