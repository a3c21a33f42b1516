/-
  Proofs/Cache/Reload.lean --- a saved cache, loaded again.

  Normative source: SPEC_FULL §11, save then reload; §4.2, `save`.

  Saving goes through entries, text and bytes, and loading comes back through all of
  them.  Each layer restores what the other made of it: the entry of a record, the
  members of an object, the text of a value (`Proofs.Json.RoundTrip`), the bytes of the
  text (`Proofs.Json.Printable`) and the file behind a path (`Proofs.Storage.Write`).
-/
import GoogIndex.Proofs.Cache.Legible
import GoogIndex.Proofs.Storage.Write

set_option autoImplicit false

namespace GoogIndex.Cache

open GoogIndex.Storage

/-! ## Entries -/

theorem textList?_texts (ss : List Text) : Entry.textList? (.texts ss) = some ss := by
  simp only [Entry.textList?, Json.texts]
  induction ss with
  | nil => rfl
  | cons s rest ih => simp [Json.text?, ih]

/-- The entry of a record is valid, and it holds what the record holds. -/
theorem ofJson?_toEntry (r : Record) (time : Int) :
    Entry.ofJson? (r.toEntry time) =
      some ⟨r.provides, r.requires, r.isModule, .whole time⟩ := by
  simp [Record.toEntry, Entry.ofJson?, Json.member?, textList?_texts, Stamp.ofJson?, Json.isSet]

/-! ## Rows that are saved -/

/-- A row of a cache whose path has a modification time. -/
structure LiveRow where
  path : Text
  record : Record
  time : Int
  deriving DecidableEq, Repr, Inhabited

namespace LiveRow

/-- The member that is saved for a row. -/
def member (l : LiveRow) : Text × Json := (l.path, l.record.toEntry l.time)

/-- The record that is loaded for a row: its path is the one it was stored under. -/
def loaded (l : LiveRow) : Record := { l.record with path := l.path }

end LiveRow

/-- The rows whose paths have modification times, with these times. -/
def liveRows (modified : Text → Except Fault Int) (rows : List (Text × Record)) :
    List LiveRow :=
  rows.filterMap fun row => (modified row.1).toOption.map fun time => ⟨row.1, row.2, time⟩

theorem liveRows_cons_of_ok {modified : Text → Except Fault Int} {row : Text × Record}
    {time : Int} (h : modified row.1 = .ok time) (rest : List (Text × Record)) :
    liveRows modified (row :: rest) = ⟨row.1, row.2, time⟩ :: liveRows modified rest := by
  simp [liveRows, h, Except.toOption]

theorem liveRows_cons_of_error {modified : Text → Except Fault Int} {row : Text × Record}
    {f : Fault} (h : modified row.1 = .error f) (rest : List (Text × Record)) :
    liveRows modified (row :: rest) = liveRows modified rest := by
  simp [liveRows, h, Except.toOption]

namespace SourceCache

/-- A snapshot has the members of the live rows. -/
theorem snapshotRows_eq {modified : Text → Except Fault Int} {rows : List (Text × Record)}
    {entries : List (Text × Json)} (h : snapshotRows modified rows = .ok entries) :
    entries = (liveRows modified rows).map LiveRow.member := by
  induction rows generalizing entries with
  | nil =>
      cases h
      rfl
  | cons row rest ih =>
      obtain ⟨path, r⟩ := row
      rw [snapshotRows] at h
      cases hm : modified path with
      | ok time =>
          simp only [hm] at h
          cases hrest : snapshotRows modified rest with
          | error f =>
              rw [hrest] at h
              cases h
          | ok more =>
              rw [hrest] at h
              cases h
              rw [liveRows_cons_of_ok hm, List.map_cons, ← ih hrest]
              rfl
      | error f =>
          cases f with
          | broken b =>
              simp only [hm] at h
              cases h
          | refused reason =>
              simp only [hm] at h
              rw [liveRows_cons_of_error hm, ← ih h]

/-- The cache that live rows make when they are loaded. -/
def ofLive (file : Text) (rows : List LiveRow) : SourceCache :=
  ⟨file, ⟨rows.map fun l => (l.path, l.loaded)⟩, ⟨rows.map fun l => (l.path, .whole l.time)⟩⟩

/-- Loading takes live rows in one after the other. -/
theorem addEntries_live {file : Text} {before rows : List LiveRow}
    (h : ((before ++ rows).map LiveRow.path).Nodup) :
    (ofLive file before).addEntries (rows.map LiveRow.member) = ofLive file (before ++ rows) := by
  induction rows generalizing before with
  | nil => simp [addEntries]
  | cons l rest ih =>
      have hnew : l.path ∉ before.map LiveRow.path := by
        intro hmem
        rw [List.map_append, List.nodup_append] at h
        exact h.2.2 l.path hmem l.path (by simp) rfl
      have hstep : (ofLive file before).addEntry l.path (l.record.toEntry l.time) =
          ofLive file (before ++ [l]) := by
        have hsources : l.path ∉ (before.map fun l => (l.path, l.loaded)).map (·.1) := by
          simpa using hnew
        have hstamps : l.path ∉
            (before.map fun l => (l.path, Stamp.whole l.time)).map (·.1) := by
          simpa using hnew
        simp only [addEntry, ofJson?_toEntry, ofLive, Table.put,
          Table.insertRow_of_not_mem _ hsources, Table.insertRow_of_not_mem _ hstamps,
          List.map_append, List.map_singleton]
        rfl
      rw [List.map_cons, addEntries, List.foldl_cons]
      show (((ofLive file before).addEntry l.path (l.record.toEntry l.time)).addEntries _) = _
      rw [hstep, ih (by simpa using h), List.append_assoc, List.singleton_append]

/-- The live rows are some of the rows, in their order. -/
theorem paths_liveRows (modified : Text → Except Fault Int) (rows : List (Text × Record)) :
    ((liveRows modified rows).map LiveRow.path).Sublist (rows.map (·.1)) := by
  induction rows with
  | nil => exact .slnil
  | cons row rest ih =>
      cases hm : modified row.1 with
      | ok time =>
          rw [liveRows_cons_of_ok hm]
          exact ih.cons_cons row.1
      | error f =>
          rw [liveRows_cons_of_error hm]
          exact ih.cons row.1

theorem mem_liveRows_iff {modified : Text → Except Fault Int} {rows : List (Text × Record)}
    {l : LiveRow} :
    l ∈ liveRows modified rows ↔ (l.path, l.record) ∈ rows ∧ modified l.path = .ok l.time := by
  unfold liveRows
  rw [List.mem_filterMap]
  constructor
  · rintro ⟨⟨path, r⟩, hmem, hl⟩
    cases hm : modified path with
    | error f => simp [hm, Except.toOption] at hl
    | ok time =>
        simp only [hm, Except.toOption, Option.map_some, Option.some.injEq] at hl
        subst hl
        exact ⟨hmem, hm⟩
  · rintro ⟨hmem, hm⟩
    exact ⟨(l.path, l.record), hmem, by simp [hm, Except.toOption]⟩

/-- A path has a live row if it has a row and a time. -/
theorem find_liveRows {α : Type} (modified : Text → Except Fault Int)
    (rows : List (Text × Record)) (value : LiveRow → α) (path : Text) :
    Table.find path ((liveRows modified rows).map fun l => (l.path, value l)) =
      (modified path).toOption.bind fun time =>
        (Table.find path rows).map fun r => value ⟨path, r, time⟩ := by
  induction rows with
  | nil => cases modified path <;> rfl
  | cons row rest ih =>
      by_cases hp : row.1 = path
      · subst hp
        cases hm : modified row.1 with
        | ok time => simp [liveRows_cons_of_ok hm, Except.toOption, Table.find]
        | error f =>
            rw [hm] at ih
            simpa [liveRows_cons_of_error hm, Except.toOption] using ih
      · rw [Table.find, if_neg hp, ← ih]
        cases hm : modified row.1 with
        | ok time => simp [liveRows_cons_of_ok hm, Table.find, hp]
        | error f => rw [liveRows_cons_of_error hm]

/-- The loaded cache has the records of the live rows, under the paths of the rows. -/
theorem get?_sources_ofLive (file : Text) (modified : Text → Except Fault Int)
    (rows : List (Text × Record)) (path : Text) :
    (ofLive file (liveRows modified rows)).sources.get? path =
      (modified path).toOption.bind fun _ =>
        (Table.find path rows).map fun r => { r with path := path } :=
  find_liveRows modified rows LiveRow.loaded path

/-- The loaded cache has the times of the live rows. -/
theorem get?_stamps_ofLive (file : Text) (modified : Text → Except Fault Int)
    (rows : List (Text × Record)) (path : Text) :
    (ofLive file (liveRows modified rows)).stamps.get? path =
      (modified path).toOption.bind fun time =>
        (Table.find path rows).map fun _ => .whole time :=
  find_liveRows modified rows (fun l => Stamp.whole l.time) path

/-! ## Saved values are read back -/

/-- The times of storage are written with few digits. -/
theorem length_toDigits_millis (time : FileTime) :
    (Nat.toDigits 10 time.millis.natAbs).length ≤ Json.digitLimit := by
  have hbound : time.millis.natAbs < 10 ^ 22 := by
    obtain ⟨hlow, hhigh⟩ := time.inRange
    simp only [timeBound] at hlow hhigh
    have hdiv : time.millis = time.nanoseconds / 1000000 :=
      Int.fdiv_eq_ediv_of_nonneg _ (by decide)
    omega
  exact Nat.le_trans ((Nat.length_toDigits_le_iff (by decide) (by decide)).mpr hbound) (by decide)

theorem length_toDigits_of_modifiedMillis {t : Tree} {path : Text} {time : Int}
    (h : t.modifiedMillis path = .ok time) :
    (Nat.toDigits 10 time.natAbs).length ≤ Json.digitLimit := by
  unfold Tree.modifiedMillis at h
  cases ha : t.attributesOf path with
  | error f =>
      rw [ha] at h
      cases h
  | ok a =>
      rw [ha] at h
      cases h
      exact length_toDigits_millis a.modified

/-- A path with a modification time is restored: the halves that it has are read from bytes, and
so each is the last half of a pair. -/
theorem unsplit_of_modifiedMillis {t : Tree} {path : Text} {time : Int}
    (h : t.modifiedMillis path = .ok time) : Json.Unsplit path := by
  refine Json.unsplit_of_not_high fun p hp => ?_
  have hpoint := breach?_eq_none_iff.mp (Tree.sound_of_modifiedMillis h) p hp
  cases p with
  | char c => exact Json.isHigh_char c
  | lone half =>
      simp only [isPathPoint, Point.isByte, Bool.and_eq_true, decide_eq_true_eq] at hpoint
      rw [← Bool.not_eq_true, Point.isHigh, Point.toNat, Bool.and_eq_true, decide_eq_true_eq,
        decide_eq_true_eq]
      omega

theorem plain_texts (room : Nat) (ss : List Text) : Json.Plain (room + 1) (.texts ss) := by
  rw [Json.texts, Json.Plain]
  induction ss with
  | nil => trivial
  | cons s rest ih => exact ⟨trivial, ih⟩

theorem plain_toEntry (room : Nat) (r : Record) {time : Int}
    (h : (Nat.toDigits 10 time.natAbs).length ≤ Json.digitLimit) :
    Json.Plain (room + 2) (r.toEntry time) := by
  rw [Record.toEntry, Json.Plain]
  have hkeys : [Json.joinText "isModule", Json.joinText "modifiedDates", Json.joinText "provides",
      Json.joinText "requires"].Nodup := by decide
  exact ⟨hkeys, trivial, h, plain_texts room r.provides, plain_texts room r.requires, trivial⟩

theorem whole_texts {ss : List Text} (h : ∀ s ∈ ss, Json.Unsplit s) : (Json.texts ss).Whole :=
  Json.wholeItems_iff.mpr (List.forall_mem_map.mpr h)

theorem whole_toEntry {r : Record} (hr : r.Legible) (time : Int) : (r.toEntry time).Whole := by
  have hkeys := Json.unsplit_ofString
  exact ⟨⟨hkeys _, trivial⟩, ⟨hkeys _, trivial⟩, ⟨hkeys _, whole_texts hr.provides⟩,
    ⟨hkeys _, whole_texts hr.requires⟩, trivial⟩

/-- Reading restores live rows, if their records are legible and each time is one that storage
tells. -/
theorem read_liveRows {modified : Text → Except Fault Int} {rows : List (Text × Record)}
    (hkeys : (rows.map (·.1)).Nodup)
    (htold : ∀ path time, modified path = .ok time → ∃ t : Tree, t.modifiedMillis path = .ok time)
    (hlegible : ∀ l ∈ liveRows modified rows, l.record.Legible) :
    let v := Json.obj ((liveRows modified rows).map LiveRow.member)
    Json.read depthLimit v.write = .ok v := by
  have hlive (l : LiveRow) (hl : l ∈ liveRows modified rows) :
      Json.Unsplit l.path ∧ (Nat.toDigits 10 l.time.natAbs).length ≤ Json.digitLimit := by
    obtain ⟨t, htime⟩ := htold _ _ (mem_liveRows_iff.mp hl).2
    exact ⟨unsplit_of_modifiedMillis htime, length_toDigits_of_modifiedMillis htime⟩
  have hwhole : Json.WholeMembers ((liveRows modified rows).map LiveRow.member) :=
    Json.wholeMembers_iff.mpr <| List.forall_mem_map.mpr fun l hl =>
      ⟨(hlive l hl).1, whole_toEntry (hlegible l hl) l.time⟩
  have hvalues : ∀ live : List LiveRow,
      (∀ l ∈ live, (Nat.toDigits 10 l.time.natAbs).length ≤ Json.digitLimit) →
      Json.PlainMembers (981 + 2) (live.map LiveRow.member) := by
    intro live hdigits
    induction live with
    | nil => trivial
    | cons l rest ih =>
        exact ⟨plain_toEntry 981 l.record (hdigits l List.mem_cons_self),
          ih fun m hm => hdigits m (List.mem_cons_of_mem l hm)⟩
  have hplain : Json.Plain (981 + 2 + 1)
      (.obj ((liveRows modified rows).map LiveRow.member)) := by
    rw [Json.Plain, Json.joinedMembers_of_whole hwhole, List.map_map]
    exact ⟨hkeys.sublist (paths_liveRows modified rows), hvalues _ fun l hl => (hlive l hl).2⟩
  exact Json.read_write_of_whole hplain hwhole

/-- The live rows of a legible cache are legible. -/
theorem Legible.live {c : SourceCache} (hc : c.Legible) (modified : Text → Except Fault Int) :
    ∀ l ∈ liveRows modified c.sources.rows, l.record.Legible :=
  fun _ hl => hc _ (mem_liveRows_iff.mp hl).1

/-- A file with the written form of a value is read as the value, if reading restores it. -/
theorem readValue_of_bytesOf {t : Tree} {file : Text} {v : Json}
    (hv : Json.read depthLimit v.write = .ok v)
    (h : t.bytesOf file = .ok (Text.encodeUtf8 v.write)) :
    readValue t file = .ok v := by
  have hdecode := Json.decodeUtf8_write v
  cases hcs : Text.decodeUtf8 (Text.encodeUtf8 v.write) with
  | error f =>
      rw [hcs] at hdecode
      cases hdecode
  | ok cs =>
      rw [hcs, Except.map, Except.ok.injEq] at hdecode
      simp only [readValue, Tree.textOf, h, hcs, hdecode, String.ofList_toList, hv]
      rfl

/-! ## Saved and loaded again -/

/-- Everything a save that succeeds has done. -/
theorem written_of_save {interrupt : Interruption} {t : Tree} {c : SourceCache} {handled : Bool}
    (h : (save interrupt t c handled).outcome = .written) :
    let entries := (liveRows t.modifiedMillis c.sources.rows).map LiveRow.member
    (t.writeFile interrupt (Json.obj entries).write c.file).outcome = .written ∧
      (save interrupt t c handled).tree =
        (t.writeFile interrupt (Json.obj entries).write c.file).tree := by
  unfold save at h ⊢
  cases hs : c.snapshot t.modifiedMillis with
  | error f =>
      rw [hs] at h
      cases h
  | ok entries =>
      have hentries := snapshotRows_eq hs
      simp only [hs] at h ⊢
      rw [← hentries]
      cases ho : (t.writeFile interrupt (Json.obj entries).write c.file).outcome with
      | written => exact ⟨rfl, rfl⟩
      | refused r =>
          rw [ho] at h
          cases h
      | broken f =>
          rw [ho] at h
          cases h

/-- If the file of a saved cache can be read, it holds the written form of the rows that were live
at the save. -/
theorem bytes_of_save {interrupt : Interruption} {t : Tree} {c : SourceCache} {handled : Bool}
    (h : (save interrupt t c handled).outcome = .written) {bytes : List UInt8}
    (hbytes : (save interrupt t c handled).tree.bytesOf c.file = .ok bytes) :
    bytes = Text.encodeUtf8
      (Json.obj ((liveRows t.modifiedMillis c.sources.rows).map LiveRow.member)).write := by
  obtain ⟨hwritten, htree⟩ := written_of_save h
  obtain ⟨folder, name, hslot, _, hreplaced⟩ := Tree.replaced_of_written hwritten
  rw [htree] at hbytes
  exact hreplaced.eq_content hslot hbytes

/-- If the file of a saved cache can be seen, it holds an object with the members of the rows
that were live at the save. -/
theorem readValue_of_save {interrupt : Interruption} {t : Tree} {c : SourceCache} {handled : Bool}
    (hc : c.Keyed) (hlegible : ∀ l ∈ liveRows t.modifiedMillis c.sources.rows, l.record.Legible)
    (h : (save interrupt t c handled).outcome = .written) {bytes : List UInt8}
    (hbytes : (save interrupt t c handled).tree.bytesOf c.file = .ok bytes) :
    readValue (save interrupt t c handled).tree c.file =
      .ok (.obj ((liveRows t.modifiedMillis c.sources.rows).map LiveRow.member)) := by
  apply readValue_of_bytesOf (read_liveRows hc (fun _ _ htime => ⟨t, htime⟩) hlegible)
  rwa [bytes_of_save h hbytes] at hbytes

/-- A file with live rows is loaded as the cache that they make. -/
theorem load_of_readValue {t : Tree} {file : Text} {rows : List LiveRow}
    (hseen : t.canBeSeen file = true) (hkeys : (rows.map LiveRow.path).Nodup)
    (hvalue : readValue t file = .ok (.obj (rows.map LiveRow.member))) :
    load t file = ⟨ofLive file rows, []⟩ := by
  have hnew : (([] ++ rows).map LiveRow.path).Nodup := hkeys
  have htaken : (empty file).addEntries (rows.map LiveRow.member) = ofLive file rows :=
    addEntries_live hnew
  have hskipped : skippedCount (rows.map LiveRow.member) = 0 := by
    rw [skippedCount, List.countP_eq_zero]
    intro m hm
    obtain ⟨l, _, rfl⟩ := List.mem_map.mp hm
    simp [LiveRow.member, ofJson?_toEntry]
  unfold load
  simp only [hseen, Bool.not_true, Bool.false_eq_true, if_false, hvalue, hskipped, if_true, htaken]

/-- If the file of a saved cache can be seen, loading it gives the rows that were live at
the save, under the paths they were stored under and with the times of the save. -/
theorem load_of_save {interrupt : Interruption} {t : Tree} {c : SourceCache} {handled : Bool}
    (hc : c.Keyed) (hlegible : ∀ l ∈ liveRows t.modifiedMillis c.sources.rows, l.record.Legible)
    (h : (save interrupt t c handled).outcome = .written) {bytes : List UInt8}
    (hbytes : (save interrupt t c handled).tree.bytesOf c.file = .ok bytes) :
    load (save interrupt t c handled).tree c.file =
      ⟨ofLive c.file (liveRows t.modifiedMillis c.sources.rows), []⟩ :=
  load_of_readValue (Tree.canBeSeen_of_bytesOf hbytes)
    (hc.sublist (paths_liveRows t.modifiedMillis c.sources.rows))
    (readValue_of_save hc hlegible h hbytes)

/-- A row of the loaded cache answers exactly the lookups at its own time. -/
theorem get_ofLive_iff {file : Text} {rows : List LiveRow}
    (hkeys : (rows.map LiveRow.path).Nodup) {l : LiveRow} (hl : l ∈ rows)
    (modified : Except Fault Int) :
    ((ofLive file rows).get l.path modified).map (·.1) = .ok (some l.loaded) ↔
      modified = .ok l.time := by
  have hsource : (ofLive file rows).sources.get? l.path = some l.loaded := by
    refine (Table.find_eq_some_iff ?_).mpr (List.mem_map_of_mem hl)
    show (List.map _ (List.map _ rows)).Nodup
    rwa [List.map_map]
  have hstamp : (ofLive file rows).stamps.get? l.path = some (.whole l.time) := by
    refine (Table.find_eq_some_iff ?_).mpr (List.mem_map_of_mem hl)
    show (List.map _ (List.map _ rows)).Nodup
    rwa [List.map_map]
  cases modified with
  | error f => simp [get, hsource, Except.map]
  | ok time =>
      by_cases htime : l.time = time
      · simp [get, hsource, isFresh, hstamp, Stamp.isMillis, Except.map, htime]
      · simp [get, hsource, isFresh, hstamp, Stamp.isMillis, Except.map, htime, Ne.symm htime]

/-- A saved cache is restored.  Take any cache that calls can lead to, and let a save of it
end well, whatever storage did to its steps.  If the file's name ends with a name, is not
too long, and is still behind a folder after the save, then loading the file reports
nothing and gives the rows that had a modification time at the save, in their order,
with the path they were stored under and the time of the save; and each of them answers
a lookup exactly if the time is still that one. -/
theorem restored_of_save (start t : Tree) (file : Text) (calls : List Call)
    (interrupt : Interruption) (handled : Bool) :
    let c := (load start file).outcome.afterAll calls
    let saved := save interrupt t c handled
    let live := liveRows t.modifiedMillis c.sources.rows
    let again := load saved.tree file
    saved.outcome = .written →
    (∀ l ∈ live, l.record.Legible) →
    ¬ [Point.char '/'] <:+ file.toList → ¬ [Point.char '/', '.'] <:+ file.toList →
    file.byteSize ≤ Tree.pathLimit →
    saved.tree.isFolder (PathName.ofText file).parent.toText = .ok true →
    again.events = [] ∧
    again.outcome.sources.rows =
      live.map (fun l => (l.path, { l.record with path := l.path })) ∧
    again.outcome.stamps.rows = live.map (fun l => (l.path, .whole l.time)) ∧
    (∀ l ∈ live, ∀ modified : Except Fault Int,
      (again.outcome.get l.path modified).map (·.1) =
        .ok (some { l.record with path := l.path }) ↔ modified = .ok l.time) ∧
    c.after .save = c := by
  intro c saved live again hwritten hlegible hslash hpoint hshort hparent
  have hkeyed : c.Keyed := keyed_afterAll start file calls
  have hfile : c.file = file := file_afterAll start file calls
  have hbytes : ∃ bytes, saved.tree.bytesOf c.file = .ok bytes := by
    obtain ⟨hwrite, htree⟩ := written_of_save hwritten
    obtain ⟨folder, name, hslot, hnull, hreplaced⟩ := Tree.replaced_of_written hwrite
    have hnames : (PathName.ofText c.file).names ≠ [] := by
      intro hnil
      have hsteps := (Tree.steps_of_slot hslot).1
      simp [hnil] at hsteps
    rw [← htree] at hreplaced
    rw [← hfile] at hslash hpoint hshort hparent
    obtain ⟨a, hlookup⟩ := hreplaced.lookup_path hslot hnull hshort
      (getLast?_steps_ne_stay hslash hpoint hnames) hparent
    exact ⟨_, Tree.bytesOf_eq_ok_iff.mpr ⟨_, a, hlookup⟩⟩
  obtain ⟨bytes, hbytes⟩ := hbytes
  have hload : again = ⟨ofLive file live, []⟩ := by
    have h := load_of_save hkeyed hlegible hwritten hbytes
    rwa [hfile] at h
  have hkeys : (live.map LiveRow.path).Nodup := hkeyed.sublist (paths_liveRows _ _)
  rw [hload]
  exact ⟨rfl, rfl, rfl, fun l hl modified => get_ofLive_iff hkeys hl modified, rfl⟩

/-! ### Names that keep the file, and names that lose it -/

/-- A working folder with one source, and with a link to the folder itself. -/
def selfLinkTree : Tree :=
  ⟨⟨0o755, 0⟩, .link "l" "." (.file "a.js" ⟨0o644, 1000000000⟩ [] .empty), [], 0, 0⟩

/-- A cache of a file, with one record stored for the source; the record has another path
than the one it is stored under. -/
def storedOnce (file : Text) : SourceCache :=
  (load selfLinkTree file).outcome.afterAll [.use (.store "a.js" ⟨"b.js", ["a"], [], false⟩)]

theorem restored_of_save_sample :
    let saved := save .never selfLinkTree (storedOnce "c.json") false
    saved.outcome = .written ∧
    (load saved.tree "c.json").outcome.sources.rows =
      [(("a.js" : Text), ⟨"a.js", ["a"], [], false⟩)] := by
  have hwritten : (save .never selfLinkTree (storedOnce "c.json") false).outcome = .written := rfl
  have h := restored_of_save selfLinkTree selfLinkTree "c.json"
    [.use (.store "a.js" ⟨"b.js", ["a"], [], false⟩)] .never false hwritten
    (by decide) (by decide) (by decide) (by decide) rfl
  exact ⟨hwritten, h.2.1⟩

/-- A name that is too long is not seen, whatever it would lead to. -/
theorem load_of_long (t : Tree) {file : Text} (h : Tree.pathLimit < file.byteSize) :
    load t file = ⟨empty file, []⟩ := by
  have hunseen : t.canBeSeen file = false := by
    rw [← Bool.not_eq_true, Tree.canBeSeen_eq_true_iff]
    rintro ⟨stop, node, hlookup⟩
    obtain ⟨_, _, hlong, _⟩ := Tree.lookup_eq_ok_iff.mp hlookup
    omega
  rw [load, hunseen]
  rfl

/-- A save goes by the path name of the file. -/
theorem save_congr (interrupt : Interruption) (t : Tree) (handled : Bool) {c d : SourceCache}
    (hfile : PathName.ofText c.file = PathName.ofText d.file) (hsources : c.sources = d.sources) :
    (save interrupt t c handled).tree = (save interrupt t d handled).tree ∧
      (save interrupt t c handled).outcome = (save interrupt t d handled).outcome := by
  have hwrite : ∀ content, t.writeFile interrupt content c.file =
      t.writeFile interrupt content d.file := by
    intro content
    rw [Tree.writeFile, Tree.writeFile, hfile]
  unfold save
  rw [snapshot, snapshot, hsources]
  cases snapshotRows t.modifiedMillis d.sources.rows with
  | error f => exact ⟨rfl, rfl⟩
  | ok entries =>
      simp only [hwrite]
      cases (t.writeFile interrupt (Json.obj entries).write d.file).outcome <;> exact ⟨rfl, rfl⟩

/-- A name of one letter, after some steps that stay in place. -/
def dottedName : Nat → Text
  | 0 => "c"
  | n + 1 => "./" ++ dottedName n

theorem byteSize_dottedName (n : Nat) : (dottedName n).byteSize = 2 * n + 1 := by
  induction n with
  | zero => decide
  | succ n ih =>
      have hstep : Text.byteSize "./" = 2 := by decide
      rw [dottedName, Text.byteSize_append, ih, hstep]
      omega

theorem toList_dottedName_succ (n : Nat) :
    (dottedName (n + 1)).toList = [Point.char '.'] ++ Point.char '/' :: (dottedName n).toList := by
  rw [dottedName, Text.toList_append]
  rfl

theorem getLast?_dottedName (n : Nat) : (dottedName n).toList.getLast? = some (.char 'c') := by
  induction n with
  | zero => decide
  | succ n ih =>
      rw [toList_dottedName_succ, List.getLast?_append, List.getLast?_cons, ih]
      rfl

/-- The steps that stay in place do not count for the path name. -/
theorem ofText_dottedName (n : Nat) : PathName.ofText (dottedName n) = ⟨.relative, ["c"]⟩ := by
  induction n with
  | zero => decide
  | succ n ih =>
      have hnames := congrArg PathName.names ih
      have hstep : (PathName.ofText (dottedName (n + 1))).names = ["c"] := by
        rw [PathName.names_ofText, toList_dottedName_succ, splitAtSlashes_append (by decide)]
        rw [PathName.names_ofText] at hnames
        have hpoint : Text.ofList [Point.char '.'] = "." := rfl
        simpa [hpoint] using hnames
      have hanchor : PathName.anchorOf (dottedName (n + 1)).toList = .relative := by
        rw [toList_dottedName_succ]
        rfl
      exact congr (congrArg PathName.mk hanchor) hstep

theorem not_suffix_dottedName (n : Nat) {p : Point} (hp : p ≠ 'c') (front : List Point) :
    ¬ (front ++ [p]) <:+ (dottedName n).toList := by
  rintro ⟨rest, hrest⟩
  have hlast := getLast?_dottedName n
  rw [← hrest, ← List.append_assoc, List.getLast?_concat, Option.some.injEq] at hlast
  exact hp hlast

/-- A save under a name that is too long ends well, and nothing is seen afterwards. -/
theorem lost_of_long {file : Text} (hlong : Tree.pathLimit < file.byteSize)
    (hname : PathName.ofText file = ⟨.relative, ["c"]⟩) :
    let saved := save .never selfLinkTree (storedOnce file) false
    saved.outcome = .written ∧
      liveRows selfLinkTree.modifiedMillis (storedOnce file).sources.rows =
        [⟨"a.js", ⟨"b.js", ["a"], [], false⟩, 1000⟩] ∧
      (load saved.tree file).outcome.sources.rows = [] := by
  have hstored : storedOnce file = ⟨file, ⟨[("a.js", ⟨"b.js", ["a"], [], false⟩)]⟩, ⟨[]⟩⟩ := by
    rw [storedOnce, load_of_long selfLinkTree hlong]
    rfl
  have hlive : liveRows selfLinkTree.modifiedMillis [("a.js", ⟨"b.js", ["a"], [], false⟩)] =
      [⟨"a.js", ⟨"b.js", ["a"], [], false⟩, 1000⟩] := rfl
  intro saved
  refine ⟨?_, by rw [hstored]; exact hlive, ?_⟩
  · have hshort : (save .never selfLinkTree
        ⟨"c", ⟨[("a.js", ⟨"b.js", ["a"], [], false⟩)]⟩, ⟨[]⟩⟩ false).outcome = .written := rfl
    rw [← hshort]
    refine (save_congr .never selfLinkTree false ?_ ?_).2
    · rw [hstored]
      exact hname
    · rw [hstored]
  · rw [load_of_long saved.tree hlong]
    rfl

/-- Two saves that end well, of a record whose path has a time, and both caches are empty
when they are loaded again: the path of the first file leads through the link that the
save replaces, and the second name is too long to be seen. -/
theorem lost_after_save :
    (let file : Text := "l/l"
     let saved := save .never selfLinkTree (storedOnce file) false
     (¬ [Point.char '/'] <:+ file.toList ∧ ¬ [Point.char '/', '.'] <:+ file.toList) ∧
     saved.outcome = .written ∧
       liveRows selfLinkTree.modifiedMillis (storedOnce file).sources.rows =
         [⟨"a.js", ⟨"b.js", ["a"], [], false⟩, 1000⟩] ∧
       (load saved.tree file).outcome.sources.rows = []) ∧
    (let file := dottedName 2048
     let saved := save .never selfLinkTree (storedOnce file) false
     (¬ [Point.char '/'] <:+ file.toList ∧ ¬ [Point.char '/', '.'] <:+ file.toList) ∧
     saved.outcome = .written ∧
       liveRows selfLinkTree.modifiedMillis (storedOnce file).sources.rows =
         [⟨"a.js", ⟨"b.js", ["a"], [], false⟩, 1000⟩] ∧
       (load saved.tree file).outcome.sources.rows = []) := by
  have hlong : Tree.pathLimit < (dottedName 2048).byteSize := by
    rw [byteSize_dottedName]
    decide
  refine ⟨⟨by decide, rfl, rfl, rfl⟩, ⟨?_, ?_⟩, lost_of_long hlong (ofText_dottedName 2048)⟩
  · exact not_suffix_dottedName 2048 (by decide) []
  · exact not_suffix_dottedName 2048 (by decide) [Point.char '/']

end SourceCache

end GoogIndex.Cache
