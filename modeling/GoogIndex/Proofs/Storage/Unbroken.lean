/-
  Proofs/Storage/Unbroken.lean --- a write to a legal name ends as written or as refused.

  Storage refuses many things, but an operation breaks only on a text that is no path: one
  with a NUL, or with half of a surrogate pair that is not read from a byte.  What a write
  passes to storage is made of the names of its target, of the working folder and of the
  temporary file; so a write breaks only if such a point stands in one of the first two, or
  if more folders are missing on the way than the program can make one for the other.
-/
import GoogIndex.Proofs.Storage.Kept

set_option autoImplicit false

namespace GoogIndex.Storage

/-- No step breaks by itself: each that is made to fail is refused. -/
def Interruption.Refuses (interrupt : Interruption) : Prop :=
  ∀ step b, interrupt step ≠ some (.broken b)

theorem Interruption.refuses_never : Interruption.never.Refuses := fun _ _ =>
  (Option.some_ne_none _).symm

/-! ## Texts that are paths -/

theorem sound_append_iff {s s' : Text} :
    breach? (s ++ s') = none ↔ breach? s = none ∧ breach? s' = none := by
  simp only [breach?_eq_none_iff, Text.toList_append, List.forall_mem_append]

theorem sound_text (anchor : Anchor) : breach? anchor.text = none := by
  cases anchor <;> decide

/-- The text of a path name is a path if all of its names are. -/
theorem sound_of_names {p : PathName} (h : ∀ n ∈ p.names, breach? n = none) :
    breach? p.toText = none := by
  have hjoin : breach? (joinSlashes p.names) = none := by
    rw [joinSlashes]
    generalize p.names = names at h
    induction names with
    | nil => rfl
    | cons n rest ih =>
        have hn := h n List.mem_cons_self
        have hrest := ih fun m hm => h m (List.mem_cons_of_mem n hm)
        cases rest with
        | nil => simpa [Text.intercalate_singleton] using hn
        | cons m more =>
            rw [← List.singleton_append, Text.intercalate_append_of_ne_nil _ (by simp) (by simp),
              Text.intercalate_singleton]
            exact sound_append_iff.mpr ⟨sound_append_iff.mpr ⟨hn, by decide⟩, hrest⟩
  rw [PathName.toText]
  split
  · rfl
  · exact sound_append_iff.mpr ⟨sound_text _, hjoin⟩

/-- The names of a path are paths. -/
theorem sound_of_mem_names {s n : Text} (h : breach? s = none)
    (hn : n ∈ (PathName.ofText s).names) : breach? n = none :=
  breach?_eq_none_iff_names.mp h n hn

/-- What is collected step by step was there before, or is one of the steps, if that holds of
every step. -/
theorem mem_of_mem_foldl {α : Type} {f : List α → α → List α}
    (hf : ∀ done a, ∀ m ∈ f done a, m = a ∨ m ∈ done) {rest done : List α} {m : α}
    (h : m ∈ rest.foldl f done) : m ∈ rest ∨ m ∈ done := by
  induction rest generalizing done with
  | nil => exact .inr h
  | cons first rest ih =>
      rcases ih h with hrest | hnext
      · exact .inl (List.mem_cons_of_mem first hrest)
      · rcases hf done first m hnext with rfl | hdone
        · exact .inl List.mem_cons_self
        · exact .inr hdone

/-- Resolving steps upwards makes no new names. -/
theorem mem_of_mem_collapseNames {absolute : Bool} {names : List Text} {n : Text}
    (h : n ∈ PathName.collapseNames absolute names) : n ∈ names := by
  unfold PathName.collapseNames at h
  refine (mem_of_mem_foldl ?_ (List.mem_reverse.mp h)).resolve_right (by simp)
  intro done name m hm
  split at hm
  · split at hm
    · split at hm
      · cases hm
      · exact .inl (List.mem_singleton.mp hm)
    · split at hm
      · exact List.mem_cons.mp hm
      · exact .inr (List.mem_cons_of_mem _ hm)
  · exact List.mem_cons.mp hm

namespace Tree

/-- The name of a temporary file is a path. -/
theorem sound_temporaryName (n : Nat) : breach? (temporaryName n) = none := by
  refine sound_append_iff.mpr ⟨sound_append_iff.mpr ⟨by decide, ?_⟩, by decide⟩
  -- the digits, and the zeros before them, are characters that may stand in a path
  refine breach?_eq_none_iff.mpr fun p hp => ?_
  simp only [Text.toList_ofString, String.toList_ofList, List.mem_map, List.mem_append] at hp
  obtain ⟨c, hc, rfl⟩ := hp
  refine bne_iff_ne.mpr fun hnull => ?_
  subst hnull
  rcases hc with hzero | hdigit
  · exact absurd (List.eq_of_mem_replicate hzero) (by decide)
  · exact absurd (Nat.isDigit_of_mem_toDigits (by decide) (by decide) hdigit) (by decide)

/-- The folder of a path is a path. -/
theorem sound_parent {path : Text} (h : breach? path = none) :
    breach? (PathName.ofText path).parent.toText = none :=
  sound_of_names fun _ hn => sound_of_mem_names h (List.dropLast_subset _ hn)

/-- Where something is behind the text of a path name, the folder before its last name is
one. -/
theorem isFolder_parent_of_lookup {t : Tree} {path : Text}
    (hnormal : (PathName.ofText path).toText = path)
    (hne : (PathName.ofText path).names ≠ []) {found : Location × Node}
    (h : t.lookup true path = .ok found) :
    t.isFolder (PathName.ofText path).parent.toText = .ok true := by
  obtain ⟨stop, node⟩ := found
  obtain ⟨hsound, _, hlong, ⟨k, hk, hleads⟩, _⟩ := lookup_eq_ok_iff.mp h
  have hlegal := PathName.legal_ofText path
  have hparent := PathName.legal_parent hlegal
  obtain ⟨front, last, hnames⟩ := (List.eq_nil_or_concat _).resolve_left hne
  rw [List.concat_eq_append] at hnames
  have hfront : (PathName.ofText path).parent.names = front := by
    rw [PathName.parent, hnames, List.dropLast_concat]
  -- the steps before the last one lead to a folder
  have hsteps : steps path = front.map Step.ofName ++ [Step.ofName last] := by
    rw [← hnormal, steps_toText hlegal hne, hnames, List.map_append, List.map_singleton]
  obtain ⟨i, j, middle, hij, hbefore, hlast⟩ := hleads.split _ _ hsteps
  have hmiddle := hlast.folder_of_cons
  obtain ⟨a, inner, hat⟩ := shapeAt_eq_folder_iff.mp hmiddle
  rw [← start_toText t path hparent rfl] at hbefore
  have hthinned := thinned_steps_toText hparent
  rw [hfront] at hthinned
  have hsize : (PathName.ofText path).parent.toText.byteSize ≤ path.byteSize := by
    have hlastne := (hlegal last (by simp [hnames])).1
    have hsize := byteSize_toText_le (PathName.ofText path).anchor front hlastne
    rwa [← hnames, ← hfront, show PathName.mk (PathName.ofText path).anchor
      (PathName.ofText path).names = PathName.ofText path from rfl, hnormal] at hsize
  exact isFolder_eq_true_iff.mpr ⟨middle, a, inner, lookup_eq_ok_iff.mpr
    ⟨sound_parent hsound, toText_ne_empty hparent, Nat.le_trans hsize hlong,
      ⟨i, by omega, hbefore.thicken hmiddle hthinned⟩, hat⟩⟩

/-! ## Operations that do not break -/

/-- An outcome that is no breach: a result or a refusal. -/
def Unbroken {α : Type} (x : Except Fault α) : Prop := ∀ b, x ≠ .error (.broken b)

namespace Unbroken

variable {α β : Type}

theorem ok (a : α) : Unbroken (.ok a) := by simp [Unbroken]

theorem refused (r : Refusal) : Unbroken (.error (.refused r) : Except Fault α) := by
  simp [Unbroken]

theorem bind {x : Except Fault α} {f : α → Except Fault β} (hx : Unbroken x)
    (hf : ∀ a, Unbroken (f a)) : Unbroken (x >>= f) := by
  cases x with
  | error g =>
      rintro b h
      cases h
      exact hx b rfl
  | ok a => exact hf a

theorem map {x : Except Fault α} (hx : Unbroken x) (f : α → β) : Unbroken (x.map f) := by
  cases x with
  | error g =>
      rintro b h
      cases h
      exact hx b rfl
  | ok a => exact ok (f a)

end Unbroken

section operations

variable {t : Tree} {path : Text}

theorem unbroken_lookup (h : breach? path = none) (followLast : Bool) :
    Unbroken (t.lookup followLast path) := by
  unfold lookup
  rw [h]
  dsimp only
  split
  · exact .refused _
  · exact .refused _
  · exact .ok _

theorem unbroken_attributesOf (h : breach? path = none) : Unbroken (t.attributesOf path) := by
  refine .bind ((unbroken_lookup h true).map _) fun node => ?_
  cases node with
  | file a content => exact .ok a
  | folder a inner => exact .ok a
  | link target => exact .refused _

theorem unbroken_modifiedMillis (h : breach? path = none) : Unbroken (t.modifiedMillis path) :=
  (unbroken_attributesOf h).map _

theorem lookup_of_breach (t : Tree) {b : Breach} (h : breach? path = some b)
    (followLast : Bool) : t.lookup followLast path = .error (.broken b) := by
  rw [lookup, h]

/-- Asking for a time breaks exactly for a text that is no path. -/
theorem modifiedMillis_eq_broken_iff (t : Tree) (path : Text) {b : Breach} :
    t.modifiedMillis path = .error (.broken b) ↔ breach? path = some b := by
  cases hsound : breach? path with
  | none =>
      exact ⟨fun h => absurd h (unbroken_modifiedMillis hsound b), fun h => by cases h⟩
  | some c =>
      have hbroken : t.modifiedMillis path = .error (.broken c) := by
        simp only [modifiedMillis, attributesOf, node, lookup_of_breach t hsound]
        rfl
      simp [hbroken]

theorem unbroken_bytesOf (h : breach? path = none) : Unbroken (t.bytesOf path) := by
  refine .bind ((unbroken_lookup h true).map _) fun node => ?_
  cases node with
  | file a content => exact .ok content
  | folder a inner => exact .refused _
  | link target => exact .refused _

/-- Reading a text breaks exactly for one that is no path. -/
theorem textOf_eq_broken_iff (t : Tree) (path : Text) {b : Breach} :
    t.textOf path = .error (.access (.broken b)) ↔ breach? path = some b := by
  cases hsound : breach? path with
  | none =>
      refine ⟨fun h => ?_, fun h => by cases h⟩
      have hbytes := unbroken_bytesOf (t := t) hsound
      unfold textOf at h
      split at h
      · cases h
        exact absurd ‹_› (hbytes b)
      · split at h <;> cases h
  | some c =>
      have hbroken : t.textOf path = .error (.access (.broken c)) := by
        simp only [textOf, bytesOf, node, lookup_of_breach t hsound]
        rfl
      simp [hbroken]

theorem unbroken_isFolder (t : Tree) (path : Text) : Unbroken (t.isFolder path) := by
  unfold isFolder asks
  split
  · exact .ok _
  · exact .ok _
  · split
    · exact .ok _
    · exact .refused _

theorem unbroken_makeFolder (h : breach? path = none) : Unbroken (t.makeFolder path) := by
  unfold makeFolder
  rw [h]
  dsimp only
  split
  · exact .refused _
  · exact .refused _
  · split
    · exact .refused _
    · exact .ok _

theorem unbroken_createFile (h : breach? path = none) (mode : Nat) :
    Unbroken (t.createFile mode path) := by
  unfold createFile
  rw [h]
  dsimp only
  split
  · exact .refused _
  · exact .refused _
  · split
    · exact .refused _
    · exact .ok _

theorem unbroken_setContent (h : breach? path = none) (content : List UInt8) :
    Unbroken (t.setContent content path) := by
  refine .bind (unbroken_lookup h true) fun found => ?_
  obtain ⟨stop, node⟩ := found
  cases node with
  | file a old => exact .ok _
  | folder a inner => exact .refused _
  | link target => exact .refused _

theorem unbroken_setMode (h : breach? path = none) (mode : Nat) :
    Unbroken (t.setMode mode path) := .bind (unbroken_lookup h true) fun _ => .ok _

theorem unbroken_moveFile {source target : Text} (hsource : breach? source = none)
    (htarget : breach? target = none) : Unbroken (t.moveFile source target) := by
  unfold moveFile
  rw [hsource, htarget, Option.or_none]
  dsimp only
  split
  · exact .refused _
  split
  · exact .refused _
  split
  · split
    · split
      · exact .refused _
      · exact .ok _
    · exact .refused _
    · exact .refused _
  · exact .refused _

end operations

/-! ## A write that does not break -/

section write

variable {interrupt : Interruption}

/-- A step that does not break does not if it is only refused. -/
theorem unbroken_attempt {α : Type} (hinterrupt : interrupt.Refuses) (step : WriteStep)
    {run : Except Fault α} (hrun : Unbroken run) : Unbroken (attempt interrupt step run) := by
  unfold attempt
  split
  · rename_i f hf
    rintro b he
    cases he
    exact hinterrupt step b hf
  · exact hrun

/-- A folder that cannot be made, for a reason that is no breach, is not settled by one. -/
theorem settleFolder_fault_ne (hinterrupt : interrupt.Refuses) {t : Tree} {path : Text}
    (h : breach? path = none) {f : Fault}
    (hf : attempt interrupt (.makeFolder path) (t.makeFolder path) = .error f) (b : Breach) :
    (t.settleFolder path f).fault ≠ some (.broken b) := by
  unfold settleFolder
  cases f with
  | broken b => exact absurd hf (unbroken_attempt hinterrupt _ (unbroken_makeFolder h) b)
  | refused r =>
      simp only
      split
      · simp
      · simp
      · rename_i g hg
        rintro he
        cases he
        exact unbroken_isFolder t path b hg

theorem ensureFolder_fault_ne (hinterrupt : interrupt.Refuses) (t : Tree) {path : Text}
    (h : breach? path = none) (b : Breach) :
    (ensureFolder interrupt t path).fault ≠ some (.broken b) := by
  unfold ensureFolder
  split
  · simp
  · simp
  · rename_i f _ hf
    exact settleFolder_fault_ne hinterrupt h hf b

/-- How many folders in a row, from the path of these names outwards, cannot be made because
the folder around each of them is missing.  The names stand in reverse. -/
def missingFolders (interrupt : Interruption) (anchor : Anchor) (t : Tree) : List Text → Nat
  | [] => 0
  | name :: before =>
      let path := (PathName.mk anchor (name :: before).reverse).toText
      match attempt interrupt (.makeFolder path) (t.makeFolder path) with
      | .error (.refused ⟨.missing, _⟩) => missingFolders interrupt anchor t before + 1
      | _ => 0

theorem missingFolders_le (interrupt : Interruption) (anchor : Anchor) (t : Tree)
    (names : List Text) : missingFolders interrupt anchor t names ≤ names.length := by
  induction names with
  | nil => exact Nat.le_refl 0
  | cons name before ih =>
      unfold missingFolders
      simp only
      split
      · exact Nat.succ_le_succ ih
      · exact Nat.zero_le _

/-- None is missing before a folder that is there. -/
theorem missingFolders_of_isFolder {anchor : Anchor} {t : Tree} {names : List Text}
    (h : t.isFolder (PathName.mk anchor names.reverse).toText = .ok true) :
    missingFolders .never anchor t names = 0 := by
  cases names with
  | nil => rfl
  | cons name before =>
      simp only [missingFolders, attempt, Interruption.never, makeFolder_of_isFolder h, refuse]

/-- None is missing on the way to something that is there. -/
theorem missingFolders_of_lookup {t : Tree} {path : Text}
    (hnormal : (PathName.ofText path).toText = path) {found : Location × Node}
    (h : t.lookup true path = .ok found) :
    missingFolders .never (PathName.ofText path).parent.anchor t
      (PathName.ofText path).parent.names.reverse = 0 := by
  by_cases hne : (PathName.ofText path).names = []
  · simp [PathName.parent, hne, missingFolders]
  · refine missingFolders_of_isFolder ?_
    rw [List.reverse_reverse]
    exact isFolder_parent_of_lookup hnormal hne h

/-- Making folders with legal names breaks exactly if there is no room for a call for each missing
folder. -/
theorem ensureFoldersWithin_eq_broken_iff (hinterrupt : interrupt.Refuses) (anchor : Anchor)
    (calls : Nat) (t : Tree) {names : List Text} (h : ∀ n ∈ names, breach? n = none)
    {b : Breach} :
    (ensureFoldersWithin interrupt anchor calls t names).fault = some (.broken b) ↔
      b = .tooDeep ∧ calls ≤ missingFolders interrupt anchor t names := by
  have hpath : breach? (PathName.mk anchor names.reverse).toText = none :=
    sound_of_names fun n hn => h n (List.mem_reverse.mp hn)
  induction names generalizing calls with
  | nil =>
      cases calls with
      | zero => simp [ensureFoldersWithin, missingFolders, eq_comm]
      | succ calls =>
          have hfolder := ensureFolder_fault_ne hinterrupt t hpath b
          exact ⟨fun hb => absurd hb hfolder, fun hb => absurd hb.2 (Nat.not_succ_le_zero calls)⟩
  | cons name before ih =>
      cases calls with
      | zero => simp [ensureFoldersWithin, eq_comm]
      | succ calls =>
          have hbefore := fun n hn => h n (List.mem_cons_of_mem name hn)
          have hdeeper := ih calls hbefore
            (sound_of_names fun n hn => hbefore n (List.mem_reverse.mp hn))
          unfold ensureFoldersWithin
          simp only
          split
          · rename_i hstep
            simp only [missingFolders, hstep]
            simp
          · rename_i hstep
            simp only [missingFolders, hstep]
            refine Iff.trans ?_ (hdeeper.trans (and_congr_right fun _ => Nat.succ_le_succ_iff.symm))
            split
            · exact Iff.rfl
            · rename_i hnone
              rw [hnone]
              simpa using ensureFolder_fault_ne hinterrupt _ hpath b
          · rename_i f hmissing hstep
            have hnone : missingFolders interrupt anchor t (name :: before) = 0 := by
              unfold missingFolders
              simp only [hstep]
              split
              · rename_i hf
                cases hf
                exact absurd rfl (hmissing _)
              · rfl
            simpa [hnone] using settleFolder_fault_ne hinterrupt hpath hstep b

theorem ensureFolders_eq_broken_iff (hinterrupt : interrupt.Refuses) (anchor : Anchor)
    (t : Tree) {names : List Text} (h : ∀ n ∈ names, breach? n = none) {b : Breach} :
    (ensureFolders interrupt anchor t names).fault = some (.broken b) ↔
      b = .tooDeep ∧ folderCalls ≤ missingFolders interrupt anchor t names :=
  ensureFoldersWithin_eq_broken_iff hinterrupt anchor folderCalls t h

/-- The first free name does not break if no name does. -/
theorem unbroken_firstFree {α : Type} {make : Nat → Except Fault α}
    (hmake : ∀ n, Unbroken (make n)) (tries n : Nat) : Unbroken (firstFree make tries n) := by
  induction tries generalizing n with
  | zero => exact hmake n
  | succ tries ih =>
      unfold firstFree
      split
      · exact .ok _
      · rename_i f hf
        split
        · exact ih (n + 1)
        · rw [← hf]
          exact hmake n

/-- The path of a temporary file is a path, if the names of its folder are. -/
theorem sound_temporary {folder : PathName} (h : ∀ n ∈ folder.names, breach? n = none)
    (n : Nat) : breach? (folder.child (temporaryName n)).toText = none := by
  refine sound_of_names fun m hm => ?_
  have hlast : ∀ m ∈ (PathName.ofText (temporaryName n)).names, breach? m = none :=
    fun m hm => sound_of_mem_names (sound_temporaryName n) hm
  unfold PathName.child PathName.join at hm
  split at hm
  · exact hlast m hm
  · rcases List.mem_append.mp hm with hm | hm
    · exact h m hm
    · exact hlast m hm

theorem unbroken_createTemporary {t : Tree} {folder : PathName}
    (h : ∀ n ∈ folder.names, breach? n = none) (tries n : Nat) :
    Unbroken (t.createTemporary folder tries n) := by
  refine unbroken_firstFree (fun m => ?_) tries n
  unfold createNumbered
  exact (unbroken_createFile (sound_temporary h m) 0o600).map _

/-- A temporary file that was made has a path. -/
theorem sound_of_createTemporary {t t' : Tree} {folder : PathName} {tries n : Nat}
    {path : Text} (h : t.createTemporary folder tries n = .ok (t', path)) :
    breach? path = none := by
  obtain ⟨_, _, _, hsound, _⟩ := beside_of_createTemporary h
  exact hsound

theorem unbroken_modeFor (hinterrupt : interrupt.Refuses) {t : Tree} {target : Text}
    (h : breach? target = none) : Unbroken (modeFor interrupt t target) := by
  unfold modeFor
  split
  · exact .ok _
  · exact .ok _
  · rename_i f hrefused hf
    cases f with
    | refused r => exact absurd rfl (hrefused r)
    | broken b => exact absurd hf (unbroken_attempt hinterrupt _ (unbroken_attributesOf h) b)

theorem fillAndMove_fault_ne (hinterrupt : interrupt.Refuses) (before t : Tree)
    (content : List UInt8) {temporary target : Text} (htemporary : breach? temporary = none)
    (htarget : breach? target = none) (b : Breach) :
    (fillAndMove interrupt before t content temporary target).fault ≠ some (.broken b) := by
  have hne : ∀ {α : Type} {x : Except Fault α} {f : Fault}, Unbroken x → x = .error f →
      some f ≠ some (.broken b) := by
    rintro α x f hx rfl he
    cases he
    exact hx b rfl
  unfold fillAndMove
  split
  · rename_i f hf
    exact hne (unbroken_attempt hinterrupt _ (unbroken_setContent htemporary content)) hf
  split
  · rename_i f hf
    exact hne (unbroken_modeFor hinterrupt htarget) hf
  split
  · rename_i f hf
    exact hne (unbroken_attempt hinterrupt _ (unbroken_setMode htemporary _)) hf
  split
  · rename_i f hf
    exact hne (unbroken_attempt hinterrupt _ (unbroken_moveFile htemporary htarget)) hf
  · simp

/-- The names of the absolute form of a folder are paths, if its own names and those of the working
folder are. -/
theorem sound_of_mem_absolute {t : Tree} {folder : PathName}
    (hnames : ∀ n ∈ folder.names, breach? n = none)
    (hworking : folder.isAbsolute = true ∨ ∀ n ∈ t.working, breach? n = none) :
    ∀ n ∈ (folder.absolute t.workingName).names, breach? n = none := by
  intro n hn
  have hmem := mem_of_mem_collapseNames hn
  rw [PathName.join] at hmem
  split at hmem
  · exact hnames n hmem
  · rename_i hrelative
    rcases List.mem_append.mp hmem with hmem | hmem
    · exact (hworking.resolve_left hrelative) n hmem
    · exact hnames n hmem

theorem ofFault_ne_broken {f : Fault} (h : ∀ b, f ≠ .broken b) (g : Fault) :
    WriteOutcome.ofFault f ≠ .broken g := by
  cases f with
  | refused r => simp [WriteOutcome.ofFault]
  | broken b => exact absurd rfl (h b)

/-- A write is never broken if its text and the names of the working folder are paths, and
there is room for the missing folders. -/
theorem writeFile_ne_broken {t : Tree} (hinterrupt : interrupt.Refuses) {path : Text}
    (h : breach? path = none)
    (hworking : (PathName.ofText path).isAbsolute = true ∨
      ∀ n ∈ t.working, breach? n = none)
    (hroom : missingFolders interrupt (PathName.ofText path).parent.anchor t
      (PathName.ofText path).parent.names.reverse < folderCalls) (content : String) (f : Fault) :
    (t.writeFile interrupt content path).outcome ≠ .broken f := by
  have hnames : ∀ n ∈ (PathName.ofText path).parent.names, breach? n = none := fun n hn =>
    sound_of_mem_names h (List.dropLast_subset _ hn)
  have hreversed : ∀ n ∈ (PathName.ofText path).parent.names.reverse, breach? n = none :=
    fun n hn => hnames n (List.mem_reverse.mp hn)
  have hkept := (extends_ensureFolders interrupt (PathName.ofText path).parent.anchor t
    (PathName.ofText path).parent.names.reverse).working
  unfold writeFile
  simp only
  split
  · rename_i g hg
    refine ofFault_ne_broken (fun b hb => ?_) f
    subst hb
    exact Nat.not_le.mpr hroom
      ((ensureFolders_eq_broken_iff hinterrupt _ t hreversed).mp hg).2
  have hfolder := sound_of_mem_absolute hnames
    (hworking.imp_right fun h n hn => h n (hkept ▸ hn))
  split
  · rename_i g hg
    refine ofFault_ne_broken (fun b hb => ?_) f
    subst hb
    exact unbroken_attempt hinterrupt _ (unbroken_createTemporary hfolder _ _) b hg
  rename_i made temporary hmade
  have htemporary := sound_of_createTemporary (ok_of_attempt hmade)
  split
  · simp
  · rename_i g hg
    refine ofFault_ne_broken (fun b hb => ?_) f
    subst hb
    exact fillAndMove_fault_ne hinterrupt _ _ _ htemporary (breach?_toText_eq_none_iff.mpr h) b hg

end write

end Tree

end GoogIndex.Storage
