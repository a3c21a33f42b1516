/-
  Proofs/Cache/Reporting.lean --- whether a write reports how it ended.

  Normative source: SPEC_FULL §4.3, `write_file`; §4.2, `save`; §7, persist failure.

  A write reports if it returns nothing or a refusal and its callback, if there is one, was
  called once, with what is returned.  Refusals are reported at whatever step they occur.
  A breach is not: it goes past the report and past the callback.  A write breaks where a
  step gets a text that is no path, one with a NUL or with half of a pair that no byte is
  read as, and where more folders are missing on the way to its target than can be made one
  for the other.  Which writes come to that depends on the path and on storage, so the
  conditions (`MeetsBreach`, `LacksRoom`) speak of both.
-/
import GoogIndex.Proofs.Cache.Saving

set_option autoImplicit false

namespace GoogIndex.Storage

/-! ## Reports -/

namespace WriteOutcome

/-- A write reports: it returns a value, and a callback is called once, with this value. -/
def Reports (o : WriteOutcome) : Prop :=
  ∃ value, ∀ (σ : Type) (state : σ), o.announce none state = (.ok value, state) ∧
    ∀ callback, o.announce (some callback) state = (.ok value, callback value state)

/-- A write raises a fault: nothing is returned, and no callback is called. -/
def Raises (o : WriteOutcome) (f : Fault) : Prop :=
  ∀ (σ : Type) (state : σ) (callback : Option (Option Refusal → σ → σ)),
    o.announce callback state = (.error f, state)

theorem raises_iff {o : WriteOutcome} {f : Fault} : o.Raises f ↔ o = .broken f := by
  constructor
  · intro h
    have hreport := congrArg Prod.fst (h Unit () none)
    cases o with
    | written => cases hreport
    | refused r => cases hreport
    | broken g =>
        cases hreport
        rfl
  · rintro rfl σ state callback
    rfl

theorem reports_iff {o : WriteOutcome} : o.Reports ↔ ∀ f, o ≠ .broken f := by
  constructor
  · rintro ⟨value, h⟩ f rfl
    cases (h Unit ()).1
  · intro h
    cases o with
    | written => exact ⟨none, fun σ state => ⟨rfl, fun callback => rfl⟩⟩
    | refused r => exact ⟨some r, fun σ state => ⟨rfl, fun callback => rfl⟩⟩
    | broken f => exact absurd rfl (h f)

theorem ofFault_eq_broken_iff {f g : Fault} :
    ofFault f = .broken g ↔ ∃ b, f = .broken b ∧ g = .broken b := by
  cases f with
  | refused r => simp [ofFault]
  | broken b => simp [ofFault, eq_comm]

end WriteOutcome

/-- The interruptions of a write to a path happen in storage: they are refusals, and a text that
is no path does not get there. -/
structure Interruption.InStorage (interrupt : Interruption) (path : Text) : Prop where
  refuses : interrupt.Refuses
  folder : ∀ folder b, breach? folder = some b → interrupt (.makeFolder folder) = none
  mode : ∀ b, breach? path = some b → interrupt .readMode = none

theorem Interruption.inStorage_never (path : Text) : Interruption.never.InStorage path :=
  ⟨refuses_never, fun _ _ _ => rfl, fun _ _ => rfl⟩

namespace Tree

/-! ## Steps that get no path -/

section unsound

variable {interrupt : Interruption} {b : Breach}

theorem attempt_of_none {α : Type} {step : WriteStep} (h : interrupt step = none)
    (run : Except Fault α) : attempt interrupt step run = run := by
  rw [attempt, h]

theorem none_of_attempt {α : Type} {step : WriteStep} {run : Except Fault α} {x : α}
    (h : attempt interrupt step run = .ok x) : interrupt step = none := by
  unfold attempt at h
  split at h
  · cases h
  · assumption

/-- A folder whose text is no path cannot even be tried. -/
theorem attempt_makeFolder_of_breach (t : Tree) {path : Text} (hbreach : breach? path = some b)
    (hstep : interrupt (.makeFolder path) = none) :
    attempt interrupt (.makeFolder path) (t.makeFolder path) = .error (.broken b) := by
  rw [attempt_of_none hstep, makeFolder, hbreach]

/-- Making folders ends at once for a text that is no path. -/
theorem ensureFolders_of_breach {anchor : Anchor} (t : Tree) {names : List Text}
    (hbreach : breach? (PathName.mk anchor names.reverse).toText = some b)
    (hstep : interrupt (.makeFolder (PathName.mk anchor names.reverse).toText) = none) :
    ensureFolders interrupt anchor t names = ⟨t, some (.broken b)⟩ := by
  have hmake := attempt_makeFolder_of_breach t hbreach hstep
  have hcalls : folderCalls = (folderCalls - 1) + 1 := rfl
  rw [ensureFolders, hcalls]
  cases names with
  | nil =>
      rw [List.reverse_nil] at hmake
      simp only [ensureFoldersWithin, ensureFolder, hmake]
      rfl
  | cons name before =>
      simp only [ensureFoldersWithin, hmake]
      rfl

/-- No folder counts as missing before a text that is no path. -/
theorem missingFolders_of_breach {anchor : Anchor} (t : Tree) {names : List Text}
    (hbreach : breach? (PathName.mk anchor names.reverse).toText = some b)
    (hstep : interrupt (.makeFolder (PathName.mk anchor names.reverse).toText) = none) :
    missingFolders interrupt anchor t names = 0 := by
  cases names with
  | nil => rfl
  | cons name before =>
      simp only [missingFolders, attempt_makeFolder_of_breach t hbreach hstep]

/-- The permissions of a target whose text is no path cannot be told. -/
theorem modeFor_of_breach (t : Tree) {target : Text} (hbreach : breach? target = some b)
    (hstep : interrupt .readMode = none) : modeFor interrupt t target = .error (.broken b) := by
  have hattributes : t.attributesOf target = .error (.broken b) := by
    simp only [attributesOf, node, lookup_of_breach t hbreach]
    rfl
  rw [modeFor, attempt_of_none hstep, hattributes]

theorem fillAndMove_of_interrupted {f : Fault} (h : interrupt .writeContent = some f)
    (before t : Tree) (content : List UInt8) (temporary target : Text) :
    fillAndMove interrupt before t content temporary target = ⟨t, some f⟩ := by
  have hfill : attempt interrupt .writeContent (t.setContent content temporary) = .error f := by
    rw [attempt, h]
  rw [fillAndMove, hfill]

/-- A temporary file that was made can be filled. -/
theorem setContent_of_createTemporary {t t' : Tree} {folder : PathName} {tries n : Nat}
    {temporary : Text} (h : t.createTemporary folder tries n = .ok (t', temporary))
    (content : List UInt8) : ∃ filled, t'.setContent content temporary = .ok filled := by
  obtain ⟨place, name, hslot, hnull, hbeside⟩ := beside_of_createTemporary h
  obtain ⟨b, hlookup⟩ := hbeside.lookup hslot hnull
  rw [setContent, hlookup]
  exact ⟨_, rfl⟩

end unsound

/-! ## Writes that come to such a step -/

/-- A write has its temporary file, and it is filled: the folder of the target is there or is
made, and a name in it is free. -/
structure Fills (t : Tree) (interrupt : Interruption) (path : Text) : Prop where
  folders : (ensureFolders interrupt (PathName.ofText path).parent.anchor t
    (PathName.ofText path).parent.names.reverse).fault = none
  created : interrupt .createTemporary = none
  free : let base := (ensureFolders interrupt (PathName.ofText path).parent.anchor t
      (PathName.ofText path).parent.names.reverse).tree
    let folder := (PathName.ofText path).parent.absolute base.workingName
    ∃ made, base.createTemporary folder (base.entryCount folder) 0 = .ok made
  filled : interrupt .writeContent = none

/-- More folders are missing on the way to the target than can be made one for the other. -/
def LacksRoom (t : Tree) (interrupt : Interruption) (path : Text) : Prop :=
  folderCalls ≤ missingFolders interrupt (PathName.ofText path).parent.anchor t
    (PathName.ofText path).parent.names.reverse

/-- A write comes to a step that gets no path, and breaks on it: it is the folder of the target,
or only the target, and the write has its temporary file by then. -/
def MeetsBreach (t : Tree) (interrupt : Interruption) (path : Text) (b : Breach) : Prop :=
  breach? (PathName.ofText path).parent.toText = some b ∨
    breach? (PathName.ofText path).toText = some b ∧ t.Fills interrupt path

/-- The outcome is what the path makes of a write: a report, or what it breaks on. -/
structure Decides (t : Tree) (interrupt : Interruption) (path : Text) (o : WriteOutcome) :
    Prop where
  reports : o.Reports ↔
    (∀ b, ¬ t.MeetsBreach interrupt path b) ∧ ¬ t.LacksRoom interrupt path
  raises : ∀ b, o.Raises (.broken b) ↔
    t.MeetsBreach interrupt path b ∨ b = .tooDeep ∧ t.LacksRoom interrupt path

section write

variable {t : Tree} {interrupt : Interruption} {path : Text}

/-- What a write breaks on is a breach. -/
theorem breach_of_broken {content : String} {f : Fault}
    (h : (t.writeFile interrupt content path).outcome = .broken f) : ∃ b, f = .broken b := by
  have hfault : ∀ {g : Fault}, WriteOutcome.ofFault g = .broken f → ∃ b, f = .broken b :=
    fun hg => (WriteOutcome.ofFault_eq_broken_iff.mp hg).imp fun _ => And.right
  unfold writeFile at h
  simp only at h
  split at h
  · exact hfault h
  split at h
  · exact hfault h
  split at h
  · cases h
  · exact hfault h

/-- A folder of the target that is no path breaks a write before anything is done. -/
theorem writeFile_of_breach_folder (hinterrupt : interrupt.InStorage path) {b : Breach}
    (hbreach : breach? (PathName.ofText path).parent.toText = some b) (content : String) :
    t.writeFile interrupt content path = ⟨t, .broken (.broken b)⟩ := by
  have hfolders : ensureFolders interrupt (PathName.ofText path).parent.anchor t
      (PathName.ofText path).parent.names.reverse = ⟨t, some (.broken b)⟩ := by
    apply ensureFolders_of_breach
    · rwa [List.reverse_reverse]
    · rw [List.reverse_reverse]
      exact hinterrupt.folder _ _ hbreach
  unfold writeFile
  simp only [hfolders]
  rfl

/-- A target that is no path breaks a write that has its temporary file. -/
theorem broken_of_fills (hinterrupt : interrupt.InStorage path) {b : Breach}
    (hbreach : breach? (PathName.ofText path).toText = some b)
    (h : t.Fills interrupt path) (content : String) :
    (t.writeFile interrupt content path).outcome = .broken (.broken b) := by
  obtain ⟨⟨made, temporary⟩, hmade⟩ := h.free
  obtain ⟨filled, hfilled⟩ := setContent_of_createTemporary hmade (Text.encodeUtf8 content)
  have hpath : ∃ c, breach? path = some c := by
    refine Option.ne_none_iff_exists'.mp fun hsound => ?_
    rw [breach?_toText_eq_none_iff.mpr hsound] at hbreach
    cases hbreach
  obtain ⟨c, hc⟩ := hpath
  have hmode := modeFor_of_breach (ensureFolders interrupt (PathName.ofText path).parent.anchor t
    (PathName.ofText path).parent.names.reverse).tree hbreach (hinterrupt.mode c hc)
  unfold writeFile
  simp only [h.folders, attempt_of_none h.created, hmade, fillAndMove,
    attempt_of_none h.filled, hfilled, hmode]
  rfl

/-- The names of a folder that is a path, from the last one on. -/
theorem sound_of_mem_parent
    (hfolder : breach? (PathName.ofText path).parent.toText = none) :
    ∀ n ∈ (PathName.ofText path).parent.names.reverse, breach? n = none := by
  intro n hn
  apply sound_of_mem_names hfolder
  rw [PathName.ofText_toText (PathName.legal_parent (PathName.legal_ofText path))]
  exact List.mem_reverse.mp hn

/-- A write whose target's folder is a path breaks for want of room, or after its temporary file
is filled. -/
theorem fills_of_broken (hinterrupt : interrupt.InStorage path)
    (hfolder : breach? (PathName.ofText path).parent.toText = none)
    (hworking : ∀ n ∈ t.working, breach? n = none) {content : String} {b : Breach}
    (h : (t.writeFile interrupt content path).outcome = .broken (.broken b)) :
    b = .tooDeep ∧ t.LacksRoom interrupt path ∨ t.Fills interrupt path := by
  have hreversed := sound_of_mem_parent hfolder
  have hnames : ∀ n ∈ (PathName.ofText path).parent.names, breach? n = none :=
    fun n hn => hreversed n (List.mem_reverse.mpr hn)
  have hkept := (extends_ensureFolders interrupt (PathName.ofText path).parent.anchor t
    (PathName.ofText path).parent.names.reverse).working
  have hplace := sound_of_mem_absolute hnames (.inr fun n hn => hworking n (hkept ▸ hn))
  have hbroken : ∀ {g : Fault}, WriteOutcome.ofFault g = .broken (.broken b) → g = .broken b := by
    intro g hg
    obtain ⟨_, rfl, hb⟩ := WriteOutcome.ofFault_eq_broken_iff.mp hg
    exact hb.symm
  unfold writeFile at h
  simp only at h
  split at h
  · rename_i g hg
    rw [hbroken h] at hg
    exact .inl ((ensureFolders_eq_broken_iff hinterrupt.refuses _ t hreversed).mp hg)
  rename_i hfolders
  -- a refusal at one of the next steps would have been reported
  split at h
  · rename_i g hg
    rw [hbroken h] at hg
    exact absurd hg (unbroken_attempt hinterrupt.refuses _ (unbroken_createTemporary hplace _ _) b)
  rename_i made temporary hmade
  refine .inr ⟨hfolders, none_of_attempt hmade, ⟨_, ok_of_attempt hmade⟩, ?_⟩
  cases hfill : interrupt .writeContent with
  | none => rfl
  | some g =>
      rw [fillAndMove_of_interrupted hfill] at h
      rw [hbroken h] at hfill
      exact absurd hfill (hinterrupt.refuses _ b)

theorem MeetsBreach.unsound {b : Breach} (h : t.MeetsBreach interrupt path b) :
    breach? path ≠ none := by
  intro hsound
  rcases h with hfolder | ⟨htarget, -⟩
  · rw [sound_parent hsound] at hfolder
    cases hfolder
  · rw [breach?_toText_eq_none_iff.mpr hsound] at htarget
    cases htarget

/-- Where the folders were made, there was room for them. -/
theorem Fills.not_lacksRoom (hinterrupt : interrupt.InStorage path)
    (hfolder : breach? (PathName.ofText path).parent.toText = none)
    (h : t.Fills interrupt path) : ¬ t.LacksRoom interrupt path := by
  intro hroom
  have hfault := (ensureFolders_eq_broken_iff hinterrupt.refuses _ t
    (sound_of_mem_parent hfolder)).mpr ⟨rfl, hroom⟩
  rw [h.folders] at hfault
  cases hfault

/-- A folder that is no path lacks no room. -/
theorem LacksRoom.sound_parent (hinterrupt : interrupt.InStorage path)
    (h : t.LacksRoom interrupt path) :
    breach? (PathName.ofText path).parent.toText = none := by
  rw [Option.eq_none_iff_forall_ne_some]
  intro b hbreach
  have hmissing : missingFolders interrupt (PathName.ofText path).parent.anchor t
      (PathName.ofText path).parent.names.reverse = 0 :=
    missingFolders_of_breach t (by rwa [List.reverse_reverse])
      (by rw [List.reverse_reverse]; exact hinterrupt.folder _ _ hbreach)
  rw [LacksRoom, hmissing] at h
  exact absurd h (by decide)

/-- What a write breaks on. -/
theorem outcome_eq_broken_iff (hinterrupt : interrupt.InStorage path)
    (hworking : ∀ n ∈ t.working, breach? n = none) (content : String) {b : Breach} :
    (t.writeFile interrupt content path).outcome = .broken (.broken b) ↔
      t.MeetsBreach interrupt path b ∨ b = .tooDeep ∧ t.LacksRoom interrupt path := by
  constructor
  · intro h
    cases hfolder : breach? (PathName.ofText path).parent.toText with
    | some c =>
        rw [writeFile_of_breach_folder hinterrupt hfolder] at h
        cases h
        exact .inl (.inl hfolder)
    | none =>
        rcases fills_of_broken hinterrupt hfolder hworking h with hroom | hfills
        · exact .inr hroom
        · have hroom := Nat.lt_of_not_le (hfills.not_lacksRoom hinterrupt hfolder)
          cases htarget : breach? (PathName.ofText path).toText with
          | none =>
              exact absurd h (writeFile_ne_broken hinterrupt.refuses
                (breach?_toText_eq_none_iff.mp htarget) (.inr hworking) hroom content _)
          | some c =>
              rw [broken_of_fills hinterrupt htarget hfills] at h
              cases h
              exact .inl (.inr ⟨htarget, hfills⟩)
  · rintro ((hfolder | ⟨htarget, hfills⟩) | ⟨rfl, hroom⟩)
    · rw [writeFile_of_breach_folder hinterrupt hfolder]
    · exact broken_of_fills hinterrupt htarget hfills content
    · have hfault := (ensureFolders_eq_broken_iff hinterrupt.refuses _ t
        (sound_of_mem_parent (hroom.sound_parent hinterrupt))).mpr ⟨rfl, hroom⟩
      unfold writeFile
      simp only [hfault]
      rfl

/-- The path decides how a write ends. -/
theorem decides_writeFile (hinterrupt : interrupt.InStorage path)
    (hworking : ∀ n ∈ t.working, breach? n = none) (content : String) :
    t.Decides interrupt path (t.writeFile interrupt content path).outcome := by
  have hbroken := @outcome_eq_broken_iff t interrupt path hinterrupt hworking content
  refine ⟨?_, fun b => by rw [WriteOutcome.raises_iff, hbroken]⟩
  rw [WriteOutcome.reports_iff]
  constructor
  · exact fun h => ⟨fun b hmeets => h _ (hbroken.mpr (.inl hmeets)),
      fun hroom => h _ (hbroken.mpr (.inr ⟨rfl, hroom⟩))⟩
  · rintro ⟨hmeets, hroom⟩ f hf
    obtain ⟨b, rfl⟩ := breach_of_broken hf
    rcases hbroken.mp hf with hb | ⟨-, hlacks⟩
    · exact hmeets b hb
    · exact hroom hlacks

end write

end Tree

end GoogIndex.Storage

namespace GoogIndex.Cache.SourceCache

open GoogIndex.Storage

/-! ## Saving an empty cache -/

/-- A cache without records is saved by a write of an empty object. -/
theorem outcome_save_of_empty {c : SourceCache} (h : c.sources.keys = [])
    (interrupt : Interruption) (t : Tree) (handled : Bool) :
    (save interrupt t c handled).outcome =
      (t.writeFile interrupt (Json.obj []).write c.file).outcome := by
  have hrows : c.sources.rows = [] := List.map_eq_nil_iff.mp h
  have hsnapshot : c.snapshot t.modifiedMillis = .ok [] := by
    rw [snapshot, hrows]
    rfl
  unfold save
  simp only [hsnapshot]
  split
  · rfl
  · rfl

/-- A write reports how it ended, whatever step is refused, unless it comes to a step that gets
no path, or lacks room for its folders; then it raises that fault and calls no callback.  A text
that is a path, and with fewer folders than can be made one for the other, is no such text.  The
same holds for saving a cache without records, to any file. -/
theorem write_reports_iff {t : Tree} {interrupt : Interruption} {path : Text}
    (hinterrupt : interrupt.InStorage path) (hworking : ∀ n ∈ t.working, breach? n = none) :
    (∀ b, t.MeetsBreach interrupt path b → breach? path ≠ none) ∧
      (t.LacksRoom interrupt path →
        Tree.folderCalls ≤ (PathName.ofText path).parent.names.length) ∧
      (∀ content, t.Decides interrupt path (t.writeFile interrupt content path).outcome) ∧
      ∀ (c : SourceCache) (handled : Bool), c.file = path → c.sources.keys = [] →
        t.Decides interrupt path (save interrupt t c handled).outcome := by
  refine ⟨fun _ => Tree.MeetsBreach.unsound, fun hroom => ?_,
    Tree.decides_writeFile hinterrupt hworking, ?_⟩
  · have hbound := Nat.le_trans hroom (Tree.missingFolders_le _ _ t _)
    rwa [List.length_reverse] at hbound
  · rintro c handled rfl hempty
    rw [outcome_save_of_empty hempty]
    exact Tree.decides_writeFile hinterrupt hworking (Json.obj []).write

/-- A regular file in the working folder. -/
def oneFileTree : Tree :=
  ⟨⟨0o755, 0⟩, .file "f" ⟨0o644, 0⟩ [] .empty, [], 0, 0o022⟩

/-- Storage in which files can be made but not filled. -/
def unfilled : Interruption
  | .writeContent => some (.refused ⟨.busy, []⟩)
  | _ => none

theorem inStorage_unfilled (path : Text) : unfilled.InStorage path := by
  refine ⟨fun step b => ?_, fun _ _ _ => rfl, fun _ _ => rfl⟩
  cases step <;> simp [unfilled]

/-- A NUL in the name of a target is met once the temporary file is there and filled.  Below a
regular file, or where no file can be filled, it is not met, and the refusal is reported. -/
theorem write_reports_iff_sample :
    (Interruption.never.InStorage "a\x00b" ∧ Interruption.never.InStorage "f/a\x00b" ∧
      unfilled.InStorage "a\x00b" ∧ (∀ n ∈ oneFileTree.working, breach? n = none) ∧
      (empty "a\x00b").sources.keys = []) ∧
    ((oneFileTree.writeFile .never "x" "a\x00b").outcome.Raises (.broken .nullByte) ∧
      (save .never oneFileTree (empty "a\x00b") true).outcome.Raises (.broken .nullByte)) ∧
    ((oneFileTree.writeFile .never "x" "f/a\x00b").outcome.Reports ∧
      (save .never oneFileTree (empty "f/a\x00b") true).outcome.Reports) ∧
    (oneFileTree.writeFile unfilled "x" "a\x00b").outcome.Reports := by
  have hworking : ∀ n ∈ oneFileTree.working, breach? n = none := by decide
  have hmeets : oneFileTree.MeetsBreach .never "a\x00b" .nullByte :=
    .inr ⟨by decide, ⟨rfl, rfl, ⟨_, rfl⟩, rfl⟩⟩
  have hbelow : ∀ b, ¬ oneFileTree.MeetsBreach .never "f/a\x00b" b := by
    rintro b (hfolder | ⟨-, hfills⟩)
    · cases hfolder
    · cases hfills.folders
  have hunfilled : ∀ b, ¬ oneFileTree.MeetsBreach unfilled "a\x00b" b := by
    rintro b (hfolder | ⟨-, hfills⟩)
    · cases hfolder
    · cases hfills.filled
  have hroom : ¬ oneFileTree.LacksRoom .never "f/a\x00b" ∧
      ¬ oneFileTree.LacksRoom unfilled "a\x00b" :=
    ⟨Nat.not_le.mpr (by decide), Nat.not_le.mpr (by decide)⟩
  obtain ⟨-, -, hraises, hsaves⟩ :=
    write_reports_iff (Interruption.inStorage_never "a\x00b") hworking
  obtain ⟨-, -, hreports, hsaved⟩ :=
    write_reports_iff (Interruption.inStorage_never "f/a\x00b") hworking
  obtain ⟨-, -, hrefused, -⟩ := write_reports_iff (inStorage_unfilled "a\x00b") hworking
  exact ⟨⟨Interruption.inStorage_never _, Interruption.inStorage_never _, inStorage_unfilled _,
      hworking, rfl⟩,
    ⟨((hraises "x").raises _).mpr (.inl hmeets),
      ((hsaves (empty "a\x00b") true rfl rfl).raises _).mpr (.inl hmeets)⟩,
    ⟨(hreports "x").reports.mpr ⟨hbelow, hroom.1⟩,
      (hsaved (empty "f/a\x00b") true rfl rfl).reports.mpr ⟨hbelow, hroom.1⟩⟩,
    (hrefused "x").reports.mpr ⟨hunfilled, hroom.2⟩⟩

/-- Not every write reports, nor every save of an empty cache: neither does to a name with a
NUL in it, even if nothing is refused. -/
theorem not_reports_of_null_name :
    ¬ (oneFileTree.writeFile .never "x" "a\x00b").outcome.Reports ∧
      ¬ (save .never oneFileTree (empty "a\x00b") true).outcome.Reports := by
  have hwrite : (oneFileTree.writeFile .never "x" "a\x00b").outcome =
      .broken (.broken .nullByte) := rfl
  have hsave : (save .never oneFileTree (empty "a\x00b") true).outcome =
      .broken (.broken .nullByte) := rfl
  rw [hwrite, hsave, WriteOutcome.reports_iff]
  exact ⟨fun h => h _ rfl, fun h => h _ rfl⟩

end GoogIndex.Cache.SourceCache
