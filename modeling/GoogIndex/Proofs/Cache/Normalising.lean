/-
  Proofs/Cache/Normalising.lean --- a pass over a cache file leaves a normal form.

  Normative source: SPEC_FULL §4.2, load and `save`; §6.

  A pass loads a file, whatever it holds, and saves the cache that was loaded.  What
  loading drops or reads loosely is gone after that: the file holds live rows only, in the
  one form in which they are written.  A second pass finds these rows again, and while
  storage gives the same times for them it writes the bytes that it found.
-/
import GoogIndex.Proofs.Cache.Reload
import GoogIndex.Proofs.Storage.Route

set_option autoImplicit false

namespace GoogIndex.Cache

open GoogIndex.Storage

/-! ## Rows of loaded records -/

/-- The row of a loaded record is live with the time of the row it was saved as. -/
def LiveRow.reloaded (l : LiveRow) : LiveRow := ⟨l.path, l.loaded, l.time⟩

/-- The path in a record is not saved, so a loaded record is saved as it was before. -/
theorem member_reloaded (l : LiveRow) : l.reloaded.member = l.member := rfl

/-- Rows that are live at a save and loaded again are live as long as their times are the same. -/
theorem liveRows_loaded {modified : Text → Except Fault Int} {live : List LiveRow}
    (h : ∀ l ∈ live, modified l.path = .ok l.time) :
    liveRows modified (live.map fun l => (l.path, l.loaded)) = live.map LiveRow.reloaded := by
  induction live with
  | nil => rfl
  | cons l rest ih =>
      obtain ⟨hl, hrest⟩ := List.forall_mem_cons.mp h
      rw [List.map_cons, List.map_cons, liveRows_cons_of_ok hl, ih hrest]
      rfl

/-- If records have the paths that they stand under, loading the live rows keeps those rows. -/
theorem loaded_liveRows (modified : Text → Except Fault Int) {rows : List (Text × Record)}
    (h : ∀ row ∈ rows, row.2.path = row.1) :
    (liveRows modified rows).map (fun l => (l.path, l.loaded)) =
      rows.filter fun row => (modified row.1).toOption.isSome := by
  induction rows with
  | nil => rfl
  | cons row rest ih =>
      obtain ⟨hrow, hrest⟩ := List.forall_mem_cons.mp h
      cases hm : modified row.1 with
      | ok time =>
          have hkept : LiveRow.loaded ⟨row.1, row.2, time⟩ = row.2 := by
            rw [LiveRow.loaded, ← hrow]
          rw [liveRows_cons_of_ok hm, List.map_cons, ih hrest, hkept]
          simp [hm, Except.toOption]
      | error f =>
          rw [liveRows_cons_of_error hm, ih hrest]
          simp [hm, Except.toOption]

namespace SourceCache

/-! ## Passes -/

/-- A pass over a file: it is loaded in one tree, and what was loaded is saved in another. -/
structure Pass where
  loadedIn : Tree
  savedIn : Tree
  interrupt : Interruption
  handled : Bool

namespace Pass

/-- The cache that a pass loads. -/
def cache (p : Pass) (file : Text) : SourceCache := (load p.loadedIn file).outcome

/-- The save of a pass. -/
def saved (p : Pass) (file : Text) : Saved :=
  save p.interrupt p.savedIn (p.cache file) p.handled

/-- A pass ends well, and the file holds these bytes then. -/
def Leaves (p : Pass) (file : Text) (bytes : List UInt8) : Prop :=
  (p.saved file).outcome = .written ∧ (p.saved file).tree.bytesOf file = .ok bytes

/-- The rows that a pass saves. -/
def live (p : Pass) (file : Text) : List LiveRow :=
  liveRows p.savedIn.modifiedMillis (p.cache file).sources.rows

/-- A pass leaves the written form of its live rows. -/
theorem bytes_of_leaves {p : Pass} {file : Text} {bytes : List UInt8}
    (h : p.Leaves file bytes) :
    bytes = Text.encodeUtf8 (Json.obj ((p.live file).map LiveRow.member)).write := by
  obtain ⟨hwritten, hbytes⟩ := h
  apply bytes_of_save hwritten
  rwa [cache, file_load]

/-- What a pass leaves is loaded as the cache that its live rows make. -/
theorem load_of_leaves {p : Pass} {file : Text} {bytes : List UInt8} (h : p.Leaves file bytes)
    {t : Tree} (ht : t.bytesOf file = .ok bytes) :
    load t file = ⟨ofLive file (p.live file), []⟩ := by
  have hkeyed : (p.cache file).Keyed := keyed_load p.loadedIn file
  have hlegible := Legible.live (legible_load p.loadedIn file) p.savedIn.modifiedMillis
  rw [bytes_of_leaves h] at ht
  apply load_of_readValue (Tree.canBeSeen_of_bytesOf ht)
  · exact hkeyed.sublist (paths_liveRows p.savedIn.modifiedMillis (p.cache file).sources.rows)
  · exact readValue_of_bytesOf
      (read_liveRows hkeyed (fun _ _ htime => ⟨p.savedIn, htime⟩) hlegible) ht

/-- The records of a pass have the paths that they stand under. -/
theorem path_of_cache (p : Pass) (file : Text) :
    ∀ row ∈ (p.cache file).sources.rows, row.2.path = row.1 := by
  intro row hrow
  have hkeyed : (p.cache file).Keyed := keyed_load p.loadedIn file
  exact path_of_load ((Table.find_eq_some_iff hkeyed).mpr hrow)

/-- One pass over a file normalises it.  Take any file, and any pass over it that ends well, and
then a pass over what the first one left, while storage gives the same times for the paths of the
cache that was loaded first.  The second pass leaves the same bytes.  It loads every record of
the first cache whose path had a time, in the same order, nothing else, and reports nothing. -/
theorem leaves_again {first second : Pass} {file : Text} {bytes again : List UInt8}
    (hfirst : first.Leaves file bytes) (hheld : second.loadedIn.bytesOf file = .ok bytes)
    (hsecond : second.Leaves file again)
    (htimes : ∀ path ∈ (first.cache file).sources.keys,
      second.savedIn.modifiedMillis path = first.savedIn.modifiedMillis path) :
    again = bytes ∧
      (second.cache file).sources.rows = (first.cache file).sources.rows.filter
        (fun row => (first.savedIn.modifiedMillis row.1).toOption.isSome) ∧
      (load second.loadedIn file).events = [] := by
  have hload := load_of_leaves hfirst hheld
  have hrows : (second.cache file).sources.rows =
      (first.live file).map fun l => (l.path, l.loaded) := by
    rw [cache, hload]
    rfl
  have hlive : second.live file = (first.live file).map LiveRow.reloaded := by
    rw [live, hrows]
    apply liveRows_loaded
    intro l hl
    obtain ⟨hrow, htime⟩ := mem_liveRows_iff.mp hl
    rw [htimes l.path (List.mem_map_of_mem (f := Prod.fst) hrow), htime]
  refine ⟨?_, ?_, ?_⟩
  · have hmembers : (first.live file).map (LiveRow.member ∘ LiveRow.reloaded) =
        (first.live file).map LiveRow.member :=
      List.map_congr_left fun l _ => member_reloaded l
    rw [bytes_of_leaves hsecond, bytes_of_leaves hfirst, hlive, List.map_map, hmembers]
  · rw [hrows]
    exact loaded_liveRows _ (path_of_cache first file)
  · rw [hload]

/-! ### A file that is read loosely -/

/-- An entry for a path without a file, a value that is no entry, and an entry with a time that is
no number, two escapes, one of half a pair, and a number for the flag of modules. -/
def looseText : String :=
  "\x7b\"b\":\x7b\"provides\":[],\"requires\":[],\"modifiedDates\":1\x7d,\"c\":null,\"a\":" ++
  "\x7b\"modifiedDates\":NaN,\"requires\":[],\"provides\":[\"\\u0061\\ud800\"],\"isModule\":2\x7d\x7d"

/-- A folder with one source and this cache file. -/
def looseTree : Tree :=
  { attributes := ⟨0o755, 0⟩
    root := .file "c" ⟨0o644, 0⟩ (Text.encodeUtf8 looseText)
      (.file "a" ⟨0o644, 1000000000⟩ [] .empty)
    working := []
    clock := 0
    umask := 0o022 }

/-- The record in it of the source, with half a pair in a name. -/
def looseRecord : Record := ⟨"a", [.ofList [.char 'a', .lone 0]], [], true⟩

/-- What is loaded of it. -/
def looseCache : SourceCache :=
  ⟨"c", ⟨[("b", ⟨"b", [], [], false⟩), ("a", looseRecord)]⟩,
    ⟨[("b", .whole 1), ("a", .real .notANumber)]⟩⟩

/-- The folder after a save. -/
def strictTree : Tree := (save .never looseTree looseCache false).tree

/-- After a pass only the entry for the source is left, and another pass changes nothing. -/
theorem leaves_again_sample :
    let first : Pass := ⟨looseTree, looseTree, .never, false⟩
    let second : Pass := ⟨strictTree, strictTree, .never, true⟩
    ∃ bytes again, first.Leaves "c" bytes ∧ second.loadedIn.bytesOf "c" = .ok bytes ∧
      second.Leaves "c" again ∧
      (∀ path ∈ (first.cache "c").sources.keys,
        second.savedIn.modifiedMillis path = first.savedIn.modifiedMillis path) ∧
      again = bytes ∧
      (second.cache "c").sources.rows = looseCache.sources.rows.filter (·.1 = ("a" : Text)) := by
  intro first second
  have hcache : first.cache "c" = looseCache := by decide +kernel
  have hsaved : first.saved "c" = save .never looseTree looseCache false :=
    congrArg (fun c => save .never looseTree c false) hcache
  have hfound : ∀ t : Tree, (t.bytesOf "c").toOption.isSome = true →
      ∃ bytes, t.bytesOf "c" = .ok bytes := by
    intro t ht
    cases h : t.bytesOf "c" with
    | ok bytes => exact ⟨bytes, rfl⟩
    | error f =>
        rw [h] at ht
        cases ht
  obtain ⟨bytes, hbytes⟩ := hfound strictTree (by decide +kernel)
  have hfirst : first.Leaves "c" bytes := by
    rw [Leaves, hsaved]
    exact ⟨by decide +kernel, hbytes⟩
  have hlive : first.live "c" = [⟨"a", looseRecord, 1000⟩] := by
    rw [live, hcache]
    decide +kernel
  have hagain : second.cache "c" = ofLive "c" [⟨"a", looseRecord, 1000⟩] := by
    rw [← hlive]
    exact congrArg Reported.outcome (load_of_leaves hfirst hbytes)
  have hresaved : second.saved "c" =
      save .never strictTree (ofLive "c" [⟨"a", looseRecord, 1000⟩]) true :=
    congrArg (fun c => save .never strictTree c true) hagain
  obtain ⟨again, hagainBytes⟩ := hfound (save .never strictTree
    (ofLive "c" [⟨"a", looseRecord, 1000⟩]) true).tree (by decide +kernel)
  have hsecond : second.Leaves "c" again := by
    rw [Leaves, hresaved]
    exact ⟨by decide +kernel, hagainBytes⟩
  have htimes : ∀ path ∈ (first.cache "c").sources.keys,
      second.savedIn.modifiedMillis path = first.savedIn.modifiedMillis path := by
    rw [hcache]
    show ∀ path ∈ looseCache.sources.keys,
      strictTree.modifiedMillis path = looseTree.modifiedMillis path
    decide +kernel
  obtain ⟨hsame, -, -⟩ := leaves_again hfirst hbytes hsecond htimes
  refine ⟨bytes, again, hfirst, hbytes, hsecond, htimes, hsame, ?_⟩
  rw [hagain]
  decide +kernel

end Pass

end SourceCache

end GoogIndex.Cache
