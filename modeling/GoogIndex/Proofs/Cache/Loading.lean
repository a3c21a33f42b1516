/-
  Proofs/Cache/Loading.lean --- what loading makes of a cache file.

  Normative source: SPEC_FULL §4.2, `_load`; §7, load-time corruption.

  Whatever bytes a cache file has, loading ends with a cache.  Bytes that are no text, a text
  that is no value and a value that is no object make an empty one.  Of an object each key
  counts on its own: it is in the cache if the last value that it is given is a valid entry,
  with what that value says.  What other keys are given has nothing to do with it.
-/
import Mathlib.Data.List.Basic
import GoogIndex.Proofs.Cache.Keys
import GoogIndex.Proofs.Json.Members
import GoogIndex.Proofs.Storage.Route

set_option autoImplicit false

namespace GoogIndex.Cache

open GoogIndex.Json GoogIndex.Storage

/-! ## Entries -/

/-- A time as a value. -/
def Stamp.toJson : Stamp → Json
  | .whole n => .int n
  | .real x => .real x

/-- The value is an object that describes an entry: two lists of texts, a number for the time,
and a flag that is set if its value counts as set. -/
def IsEntry (v : Json) (e : Entry) : Prop :=
  ∃ members, v = .obj members ∧
    member? members "provides" = some (.texts e.provides) ∧
    member? members "requires" = some (.texts e.requires) ∧
    member? members "modifiedDates" = some e.stamp.toJson ∧
    e.isModule = ((member? members "isModule").map isSet).getD false

theorem ofJson?_eq_some_stamp {v : Json} {s : Stamp} : Stamp.ofJson? v = some s ↔ v = s.toJson := by
  cases s <;> cases v <;> simp [Stamp.ofJson?, Stamp.toJson]

theorem text?_eq_some {v : Json} {s : Text} : text? v = some s ↔ v = .str s := by
  cases v <;> simp [text?]

theorem mapM_text?_eq_some {items : List Json} {ss : List Text} :
    items.mapM text? = some ss ↔ items = ss.map .str := by
  induction items generalizing ss with
  | nil => cases ss <;> simp
  | cons v items ih =>
      simp only [List.mapM_cons, Option.bind_eq_bind, Option.bind_eq_some_iff, Option.pure_def,
        Option.some.injEq, text?_eq_some, ih]
      constructor
      · rintro ⟨s, rfl, tail, rfl, rfl⟩
        rfl
      · intro h
        cases ss with
        | nil => cases h
        | cons s tail =>
            cases h
            exact ⟨s, rfl, tail, rfl, rfl⟩

theorem textList?_eq_some {v : Json} {ss : List Text} :
    Entry.textList? v = some ss ↔ v = .texts ss := by
  cases v with
  | arr items => rw [Entry.textList?, mapM_text?_eq_some, texts, Json.arr.injEq]
  | _ => simp [Entry.textList?, texts]

/-- The check of an entry accepts exactly the values that describe one. -/
theorem ofJson?_eq_some_entry {v : Json} {e : Entry} : Entry.ofJson? v = some e ↔ IsEntry v e := by
  cases v with
  | obj members =>
      obtain ⟨provides, requires, isModule, stamp⟩ := e
      simp only [Entry.ofJson?, IsEntry, Option.bind_eq_bind, Option.bind_eq_some_iff,
        Option.pure_def, Option.some.injEq, textList?_eq_some, ofJson?_eq_some_stamp,
        Json.obj.injEq, Entry.mk.injEq]
      constructor
      · rintro ⟨_, ⟨_, hprovides, rfl⟩, _, ⟨_, hrequires, rfl⟩, _, ⟨_, hstamp, rfl⟩, rfl, rfl,
          hmodule, rfl⟩
        exact ⟨members, rfl, hprovides, hrequires, hstamp, hmodule.symm⟩
      · rintro ⟨_, rfl, hprovides, hrequires, hstamp, rfl⟩
        exact ⟨_, ⟨_, hprovides, rfl⟩, _, ⟨_, hrequires, rfl⟩, _, ⟨_, hstamp, rfl⟩, rfl, rfl,
          rfl, rfl⟩
  | _ => simp [Entry.ofJson?, IsEntry]

/-! ## Accepted entries -/

/-- The entries among members, in the order of their keys' first places; each key counts with
its last value. -/
def entriesOf (written : List (Text × Json)) : List (Text × Entry) :=
  (keysOf written).eraseDups.filterMap fun key =>
    ((lastValue? written key).bind Entry.ofJson?).map fun e => (key, e)

/-- A key has an entry if and only if its last value describes it. -/
theorem mem_entriesOf_iff {written : List (Text × Json)} {key : Text} {e : Entry} :
    (key, e) ∈ entriesOf written ↔ ∃ v, lastValue? written key = some v ∧ IsEntry v e := by
  simp only [entriesOf, List.mem_filterMap, Option.map_eq_some_iff, Option.bind_eq_some_iff,
    ofJson?_eq_some_entry, Prod.mk.injEq]
  constructor
  · rintro ⟨key, -, e, ⟨v, hv, he⟩, rfl, rfl⟩
    exact ⟨v, hv, he⟩
  · rintro ⟨v, hv, he⟩
    have hmem : key ∈ keysOf written := by
      have hpair := mem_of_member? hv
      exact List.mem_map_of_mem (f := (·.1)) (List.mem_reverse.mp hpair)
    exact ⟨key, List.mem_eraseDups.mpr hmem, e, ⟨v, hv, he⟩, rfl, rfl⟩

/-- The keys of the entries are in the order of their first places. -/
theorem keys_entriesOf_sublist (written : List (Text × Json)) :
    ((entriesOf written).map (·.1)).Sublist (keysOf written).eraseDups := by
  unfold entriesOf
  induction (keysOf written).eraseDups with
  | nil => exact .refl []
  | cons key keys ih =>
      cases hentry : (lastValue? written key).bind Entry.ofJson? with
      | none =>
          rw [List.filterMap_cons_none (by rw [hentry]; rfl)]
          exact ih.cons key
      | some e =>
          rw [List.filterMap_cons_some (by rw [hentry]; rfl), List.map_cons]
          exact ih.cons_cons key

/-- Keys without one of them. -/
theorem eraseDups_filter_ne (key : Text) (keys : List Text) :
    (keys.filter (· ≠ key)).eraseDups = keys.eraseDups.filter (· ≠ key) := by
  -- dropping repetitions filters the rest, so the induction is on the length
  induction hlong : keys.length using Nat.strongRecOn generalizing keys with
  | ind n ih =>
      cases keys with
      | nil => rfl
      | cons k keys =>
          have hshort : (keys.filter fun other => !other == k).length < n := by
            rw [← hlong, List.length_cons]
            exact Nat.lt_succ_of_le (List.length_filter_le _ _)
          have hrest := ih _ hshort _ rfl
          rw [List.eraseDups_cons]
          by_cases hk : k = key
          · subst hk
            rw [List.filter_cons_of_neg (by simp), List.filter_cons_of_neg (by simp), ← hrest,
              List.filter_filter]
            congr 2
            funext other
            by_cases hother : other = k <;> simp [hother]
          · rw [List.filter_cons_of_pos (by simpa using hk),
              List.filter_cons_of_pos (by simpa using hk), List.eraseDups_cons, ← hrest,
              List.filter_filter, List.filter_filter]
            congr 3
            funext other
            exact Bool.and_comm _ _

theorem lastValue?_filter_ne {key other : Text} (h : other ≠ key)
    (written : List (Text × Json)) :
    lastValue? (written.filter fun m => m.1 ≠ key) other = lastValue? written other := by
  unfold lastValue?
  rw [← List.filter_reverse]
  induction written.reverse with
  | nil => rfl
  | cons m rest ih =>
      by_cases hkey : m.1 = key
      · rw [List.filter_cons_of_neg (by simpa using hkey), ih, member?_cons,
          if_neg fun heq => h (heq.symm.trans hkey)]
      · rw [List.filter_cons_of_pos (by simpa using hkey), member?_cons, member?_cons, ih]

/-- Taking everything out that a key is given takes its entry out and nothing else. -/
theorem entriesOf_filter_ne (key : Text) (written : List (Text × Json)) :
    entriesOf (written.filter fun m => m.1 ≠ key) =
      (entriesOf written).filter fun r => r.1 ≠ key := by
  have hkeys : keysOf (written.filter fun m => m.1 ≠ key) =
      (keysOf written).filter (· ≠ key) := by
    rw [keysOf, keysOf, List.filter_map]
    rfl
  rw [entriesOf, hkeys, eraseDups_filter_ne, entriesOf, List.filterMap_filter,
    List.filter_filterMap]
  refine List.filterMap_congr fun other _ => ?_
  by_cases hother : other = key
  · subst hother
    rw [if_neg (by simp)]
    cases (lastValue? written other).bind Entry.ofJson? <;> simp [Option.filter]
  · rw [if_pos (by simpa using hother), lastValue?_filter_ne hother]
    cases (lastValue? written other).bind Entry.ofJson? <;> simp [Option.filter, hother]

/-- What a key is given leaves no trace if the last of it describes no entry. -/
theorem entriesOf_of_malformed {written : List (Text × Json)} {key : Text}
    (h : ∀ v e, lastValue? written key = some v → ¬ IsEntry v e) :
    entriesOf (written.filter fun m => m.1 ≠ key) = entriesOf written := by
  rw [entriesOf_filter_ne, List.filter_eq_self]
  rintro ⟨other, e⟩ hmem
  refine decide_eq_true fun heq => ?_
  subst heq
  obtain ⟨v, hv, he⟩ := mem_entriesOf_iff.mp hmem
  exact h v e hv he

/-! ## Loading -/

namespace SourceCache

/-- The cache with these entries. -/
def ofEntries (file : Text) (entries : List (Text × Entry)) : SourceCache :=
  ⟨file, ⟨entries.map fun r => (r.1, r.2.record r.1)⟩, ⟨entries.map fun r => (r.1, r.2.stamp)⟩⟩

/-- Members with different keys are their keys, each with its value. -/
theorem filterMap_of_nodup {α : Type} {members : List (Text × Json)}
    (h : (keysOf members).Nodup) (f : Text → Json → Option α) :
    (members.filterMap fun m => f m.1 m.2) =
      (keysOf members).filterMap fun key => (member? members key).bind (f key) := by
  induction members with
  | nil => rfl
  | cons m members ih =>
      have hcons : keysOf (m :: members) = m.1 :: keysOf members := rfl
      rw [hcons, List.nodup_cons] at h
      have hrest :
          ((keysOf members).filterMap fun key => (member? (m :: members) key).bind (f key)) =
          (keysOf members).filterMap fun key => (member? members key).bind (f key) := by
        refine List.filterMap_congr fun key hkey => ?_
        rw [member?_cons, if_neg]
        rintro rfl
        exact h.1 hkey
      rw [hcons, List.filterMap_cons, List.filterMap_cons, hrest, ih h.2, member?_cons, if_pos rfl]
      rfl

/-- The entries of members with different keys are taken in one after the other. -/
theorem addEntries_ofEntries (file : Text) {before : List (Text × Entry)}
    {members : List (Text × Json)} (h : (before.map (·.1) ++ keysOf members).Nodup) :
    (ofEntries file before).addEntries members =
      ofEntries file (before ++ members.filterMap fun m =>
        (Entry.ofJson? m.2).map fun e => (m.1, e)) := by
  induction members generalizing before with
  | nil => simp [addEntries]
  | cons m members ih =>
      have hcons : keysOf (m :: members) = m.1 :: keysOf members := rfl
      rw [hcons] at h
      have hsplit : (ofEntries file before).addEntries (m :: members) =
          ((ofEntries file before).addEntry m.1 m.2).addEntries members := rfl
      rw [hsplit]
      cases hentry : Entry.ofJson? m.2 with
      | none =>
          have hsame : (ofEntries file before).addEntry m.1 m.2 = ofEntries file before := by
            rw [addEntry, hentry]
          rw [hsame, ih (h.sublist (List.Sublist.append_left (List.sublist_cons_self _ _) _)),
            List.filterMap_cons_none (by rw [hentry]; rfl)]
      | some e =>
          have hnew : m.1 ∉ before.map (·.1) := by
            intro hmem
            exact (List.nodup_append.mp h).2.2 m.1 hmem m.1 List.mem_cons_self rfl
          have hsources : m.1 ∉ (before.map fun r => (r.1, r.2.record r.1)).map (·.1) := by
            simpa using hnew
          have hstamps : m.1 ∉ (before.map fun r => (r.1, r.2.stamp)).map (·.1) := by
            simpa using hnew
          have htaken : (ofEntries file before).addEntry m.1 m.2 =
              ofEntries file (before ++ [(m.1, e)]) := by
            simp only [addEntry, hentry, ofEntries, Table.put,
              Table.insertRow_of_not_mem _ hsources, Table.insertRow_of_not_mem _ hstamps,
              List.map_append, List.map_singleton]
          rw [htaken, ih (by simpa using h), List.filterMap_cons_some (by rw [hentry]; rfl),
            List.append_assoc, List.singleton_append]

/-- What is taken in from an object are the entries of the members that it is written with. -/
theorem addEntries_of_ofMembers (file : Text) {written members : List (Text × Json)}
    (h : ofMembers written = .obj members) :
    (empty file).addEntries members = ofEntries file (entriesOf written) := by
  obtain ⟨hkeys, hnodup, hvalues⟩ := members_of_ofMembers h
  have hentries : (members.filterMap fun m => (Entry.ofJson? m.2).map fun e => (m.1, e)) =
      entriesOf written := by
    rw [entriesOf, ← hkeys, filterMap_of_nodup hnodup
      fun key v => (Entry.ofJson? v).map fun e => (key, e)]
    refine List.filterMap_congr fun key _ => ?_
    rw [hvalues, Option.map_bind]
    rfl
  have hempty : empty file = ofEntries file [] := rfl
  rw [hempty, addEntries_ofEntries file (by exact hnodup), List.nil_append, hentries]

/-- The value of a cache file whose bytes are a text. -/
theorem readValue_of_text {t : Tree} {file : Text} {bytes : List UInt8} {cs : List Char}
    (hbytes : t.bytesOf file = .ok bytes) (hdecode : Text.decodeUtf8 bytes = .ok cs) :
    readValue t file = (readChars depthLimit (Text.unifyNewlines cs)).mapError .malformed := by
  have htext : t.textOf file = .ok (.ofList (Text.unifyNewlines cs)) := by
    simp only [Tree.textOf, hbytes, hdecode]
  simp only [readValue, htext, Json.read, String.toList_ofList]

/-- Whatever bytes a cache file has, loading ends with a cache.  It is empty if the bytes are no
text, if the text is no value, and if the value is no object.  Of an object it has the entries of
the members that the object is written with: both tables have the same keys, in the order of
their first places, and exactly those whose last value describes an entry, with the record and
the time of that entry.  A key whose last value describes none might as well not be there. -/
theorem loaded_of_bytes {t : Tree} {file : Text} {bytes : List UInt8}
    (hbytes : t.bytesOf file = .ok bytes) :
    (∀ f, Text.decodeUtf8 bytes = .error f → (load t file).outcome = empty file) ∧
    ∀ cs, Text.decodeUtf8 bytes = .ok cs →
      (∀ f, readChars depthLimit (Text.unifyNewlines cs) = .error f →
        (load t file).outcome = empty file) ∧
      (∀ v, readChars depthLimit (Text.unifyNewlines cs) = .ok v → (∀ members, v ≠ .obj members) →
        (load t file).outcome = empty file) ∧
      ∀ members, readChars depthLimit (Text.unifyNewlines cs) = .ok (.obj members) →
        ∃ written, ObjectText depthLimit (Text.unifyNewlines cs) written ∧
          (load t file).outcome = ofEntries file (entriesOf written) ∧
          ((entriesOf written).map (·.1)).Sublist (keysOf written).eraseDups ∧
          (∀ key e, (key, e) ∈ entriesOf written ↔
            ∃ v, lastValue? written key = some v ∧ IsEntry v e) ∧
          ∀ key, (∀ v e, lastValue? written key = some v → ¬ IsEntry v e) →
            entriesOf (written.filter fun m => m.1 ≠ key) = entriesOf written := by
  have hseen : t.canBeSeen file = true := Tree.canBeSeen_of_bytesOf hbytes
  have hnone : (∀ members, readValue t file ≠ .ok (.obj members)) →
      (load t file).outcome = empty file := by
    intro hne
    rcases load_cases t file with h | ⟨members, -, hvalue, -⟩
    · exact h
    · exact absurd hvalue (hne members)
  refine ⟨fun f hdecode => hnone fun members hvalue => ?_, fun cs hdecode => ?_⟩
  · simp only [readValue, Tree.textOf, hbytes, hdecode] at hvalue
    cases hvalue
  · have hread := readValue_of_text hbytes hdecode
    refine ⟨fun f hf => hnone fun members hvalue => ?_,
      fun v hv hne => hnone fun members hvalue => ?_, fun members hmembers => ?_⟩
    · rw [hread, hf] at hvalue
      cases hvalue
    · rw [hread, hv] at hvalue
      cases hvalue
      exact hne members rfl
    · obtain ⟨written, hwritten, hobject⟩ := objectText_of_readChars hmembers
      rw [hmembers] at hread
      refine ⟨written, hwritten, ?_, keys_entriesOf_sublist written, fun _ _ => mem_entriesOf_iff,
        fun _ => entriesOf_of_malformed⟩
      rw [← addEntries_of_ofMembers file hobject]
      unfold load
      rw [hseen, hread]
      rfl

/-- A text for an object with a valid entry under one key, and two other values under another. -/
def mixedText : String :=
  "\x7b\"a\":1,\"b\":\x7b\"provides\":[],\"requires\":[],\"modifiedDates\":NaN\x7d,\"a\":true\x7d"

/-- A folder with a cache file. -/
def treeOf (bytes : List UInt8) : Tree :=
  { attributes := ⟨0o755, 0⟩
    root := .file "c.json" ⟨0o644, 0⟩ bytes .empty
    working := []
    clock := 0
    umask := 0o022 }

/-- A byte that is no text makes an empty cache.  Of the other file the valid entry is there, and
what stands around it under the other key leaves no trace. -/
theorem loaded_of_bytes_sample :
    (load (treeOf [0xFF]) "c.json").outcome = empty "c.json" ∧
      (load (treeOf (Text.encodeUtf8 mixedText)) "c.json").outcome =
        ofEntries "c.json" [("b", ⟨[], [], false, .real .notANumber⟩)] ∧
      ∃ written, ObjectText depthLimit mixedText.toList written ∧
        (load (treeOf (Text.encodeUtf8 mixedText)) "c.json").outcome =
          ofEntries "c.json" (entriesOf written) := by
  have hbytes : ∀ bytes, (treeOf bytes).bytesOf "c.json" = .ok bytes := fun _ => rfl
  have hbroken : (load (treeOf [0xFF]) "c.json").outcome = empty "c.json" :=
    (loaded_of_bytes (hbytes [0xFF])).1 _ rfl
  have hdecode : Text.decodeUtf8 (Text.encodeUtf8 mixedText) = .ok mixedText.toList := by decide
  have hunify : Text.unifyNewlines mixedText.toList = mixedText.toList := by decide
  obtain ⟨-, htext⟩ := loaded_of_bytes (hbytes (Text.encodeUtf8 mixedText))
  obtain ⟨-, -, hobject⟩ := htext _ hdecode
  rw [hunify] at hobject
  obtain ⟨written, hwritten, hloaded, -⟩ := hobject _ rfl
  exact ⟨hbroken, rfl, written, hwritten, hloaded⟩

end SourceCache

end GoogIndex.Cache
