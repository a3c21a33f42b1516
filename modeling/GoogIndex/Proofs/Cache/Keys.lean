/-
  Proofs/Cache/Keys.lean --- every path stands in a table once.

  The rows of a table are a list, and saving goes through the list.  That no path comes
  twice is an invariant of all uses of a cache; so looking a path up and finding its row
  are the same, and a file holds each path as one member.
-/
import GoogIndex.Proofs.Cache.History

set_option autoImplicit false

namespace GoogIndex.Cache

open GoogIndex.Storage

/-! ## Rows -/

namespace Table

variable {α : Type}

/-- A path that is not there goes to the end. -/
theorem insertRow_of_not_mem {path : Text} (value : α) {rows : List (Text × α)}
    (h : path ∉ rows.map (·.1)) : insertRow path value rows = rows ++ [(path, value)] := by
  induction rows with
  | nil => rfl
  | cons r rest ih =>
      rw [List.map_cons, List.mem_cons, not_or] at h
      rw [insertRow, if_neg (Ne.symm h.1), ih h.2]
      rfl

/-- A path that is there keeps its place. -/
theorem keys_insertRow_of_mem {path : Text} (value : α) {rows : List (Text × α)}
    (h : path ∈ rows.map (·.1)) : (insertRow path value rows).map (·.1) = rows.map (·.1) := by
  induction rows with
  | nil => cases h
  | cons r rest ih =>
      by_cases hr : r.1 = path
      · simp [insertRow, hr]
      · have hrest : path ∈ rest.map (·.1) := by
          rw [List.map_cons, List.mem_cons] at h
          exact h.resolve_left (Ne.symm hr)
        simp only [insertRow, hr, if_false, List.map_cons, ih hrest]

theorem mem_of_mem_insertRow {path : Text} {value : α} {rows : List (Text × α)}
    {row : Text × α} (h : row ∈ insertRow path value rows) :
    row = (path, value) ∨ row ∈ rows := by
  induction rows with
  | nil => exact .inl (List.mem_singleton.mp h)
  | cons r rest ih =>
      unfold insertRow at h
      split at h
      · rename_i hr
        rcases List.mem_cons.mp h with rfl | hrest
        · exact .inl (by rw [hr])
        · exact .inr (List.mem_cons_of_mem _ hrest)
      · rcases List.mem_cons.mp h with rfl | hrest
        · exact .inr List.mem_cons_self
        · exact (ih hrest).imp_right (List.mem_cons_of_mem _)

theorem nodup_keys_insertRow (path : Text) (value : α) {rows : List (Text × α)}
    (h : (rows.map (·.1)).Nodup) : ((insertRow path value rows).map (·.1)).Nodup := by
  by_cases hmem : path ∈ rows.map (·.1)
  · rwa [keys_insertRow_of_mem value hmem]
  · rw [insertRow_of_not_mem value hmem, List.map_append, List.nodup_append]
    refine ⟨h, by simp, ?_⟩
    intro a ha b hb
    rw [List.map_singleton, List.mem_singleton] at hb
    intro hab
    rw [hab, hb] at ha
    exact hmem ha

theorem nodup_keys_put {t : Table α} (h : t.keys.Nodup) (path : Text) (value : α) :
    (t.put path value).keys.Nodup := nodup_keys_insertRow path value h

theorem nodup_keys_erase {t : Table α} (h : t.keys.Nodup) (path : Text) :
    (t.erase path).keys.Nodup := h.sublist (List.filter_sublist.map _)

/-- With distinct paths, looking a path up is finding its row. -/
theorem find_eq_some_iff {rows : List (Text × α)} (h : (rows.map (·.1)).Nodup) {path : Text}
    {value : α} : find path rows = some value ↔ (path, value) ∈ rows := by
  induction rows with
  | nil => simp [find]
  | cons r rest ih =>
      obtain ⟨key, v⟩ := r
      rw [List.map_cons, List.nodup_cons] at h
      by_cases hr : key = path
      · subst hr
        simp only [find, if_true, Option.some.injEq, List.mem_cons, Prod.mk.injEq, true_and]
        constructor
        · intro hv
          exact .inl hv.symm
        · rintro (hv | hmem)
          · exact hv.symm
          · exact absurd (List.mem_map_of_mem hmem) h.1
      · simp only [find, hr, if_false, ih h.2, List.mem_cons, Prod.mk.injEq, Ne.symm hr,
          false_and, false_or]

end Table

/-! ## Caches -/

namespace SourceCache

/-- Each path has one record at most. -/
def Keyed (c : SourceCache) : Prop := c.sources.keys.Nodup

theorem keyed_empty (file : Text) : (empty file).Keyed := List.nodup_nil

theorem keyed_addEntry {c : SourceCache} (h : c.Keyed) (path : Text) (value : Json) :
    (c.addEntry path value).Keyed := by
  unfold addEntry
  cases Entry.ofJson? value with
  | none => exact h
  | some e => exact Table.nodup_keys_put h path (e.record path)

theorem keyed_addEntries {c : SourceCache} (h : c.Keyed) (members : List (Text × Json)) :
    (c.addEntries members).Keyed := by
  unfold addEntries
  induction members generalizing c with
  | nil => exact h
  | cons m rest ih => exact ih (keyed_addEntry h m.1 m.2)

theorem keyed_load (t : Tree) (file : Text) : (load t file).outcome.Keyed := by
  rcases load_cases t file with h | ⟨members, _, _, h⟩
  · rw [h]
    exact keyed_empty file
  · rw [h]
    exact keyed_addEntries (keyed_empty file) members

theorem keyed_after {c : SourceCache} (h : c.Keyed) (use : Use) : (c.after use).Keyed := by
  cases use with
  | lookup path modified =>
      rcases get_cases c path modified with
        ⟨_, hg⟩ | ⟨_, _, _, _, hg⟩ | ⟨_, _, _, _, _, hg⟩ | ⟨_, _, _, _, _, hg⟩
      · simpa [after, hg] using h
      · simpa [after, hg] using h
      · simpa [after, hg] using h
      · have hremoved : (c.remove path).Keyed := Table.nodup_keys_erase h path
        simpa [after, hg] using hremoved
  | store path r => exact Table.nodup_keys_put h path r
  | forget path => exact Table.nodup_keys_erase h path
  | save => exact h

/-- What every use keeps, every list of calls keeps. -/
theorem afterAll_of_after {P : SourceCache → Prop} (h : ∀ c use, P c → P (c.after use))
    {c : SourceCache} (hc : P c) (calls : List Call) : P (c.afterAll calls) := by
  rw [afterAll_eq_foldl]
  generalize c.usesOf calls = uses
  induction uses generalizing c with
  | nil => exact hc
  | cons use rest ih => exact ih (h c use hc)

/-- Every cache that calls can lead to has distinct paths. -/
theorem keyed_afterAll (t : Tree) (file : Text) (calls : List Call) :
    ((load t file).outcome.afterAll calls).Keyed :=
  afterAll_of_after (P := Keyed) (fun _ use h => keyed_after h use) (keyed_load t file) calls

/-- Every cache that calls can lead to has a record for each time. -/
theorem paired_afterAll (t : Tree) (file : Text) (calls : List Call) :
    ((load t file).outcome.afterAll calls).Paired :=
  afterAll_of_after (P := Paired) (fun _ use h => paired_after h use) (paired_load t file) calls

/-! ### The paths of loaded records -/

/-- A loaded record has the path that it stands under. -/
theorem path_of_load {t : Tree} {file path : Text} {r : Record}
    (h : (load t file).outcome.sources.get? path = some r) : r.path = path := by
  have hentry : ∀ (c : SourceCache) (key : Text) (value : Json),
      (∀ p r, c.sources.get? p = some r → r.path = p) →
      ∀ p r, (c.addEntry key value).sources.get? p = some r → r.path = p := by
    intro c key value hc p r hr
    unfold addEntry at hr
    cases he : Entry.ofJson? value with
    | none =>
        rw [he] at hr
        exact hc p r hr
    | some e =>
        simp only [he] at hr
        by_cases hp : p = key
        · subst hp
          rw [Table.get?_put_self] at hr
          cases hr
          rfl
        · rw [Table.get?_put_of_ne _ _ hp] at hr
          exact hc p r hr
  have hentries : ∀ (members : List (Text × Json)) (c : SourceCache),
      (∀ p r, c.sources.get? p = some r → r.path = p) →
      ∀ p r, (c.addEntries members).sources.get? p = some r → r.path = p := by
    intro members
    induction members with
    | nil => exact fun _ hc => hc
    | cons m rest ih => exact fun c hc => ih _ (hentry c m.1 m.2 hc)
  have hempty : ∀ p r, (empty file).sources.get? p = some r → r.path = p := by
    intro p r hr
    cases hr
  rcases load_cases t file with hload | ⟨members, _, _, hload⟩
  · rw [hload] at h
    exact hempty path r h
  · rw [hload] at h
    exact hentries members _ hempty path r h

/-! ### The file behind a cache -/

@[simp] theorem file_addEntries (c : SourceCache) (members : List (Text × Json)) :
    (c.addEntries members).file = c.file := by
  unfold addEntries
  induction members generalizing c with
  | nil => rfl
  | cons m rest ih =>
      rw [List.foldl_cons, ih, addEntry]
      split <;> rfl

theorem file_load (t : Tree) (file : Text) : (load t file).outcome.file = file := by
  rcases load_cases t file with h | ⟨members, _, _, h⟩
  · rw [h]
    rfl
  · rw [h, file_addEntries]
    rfl

theorem file_after (c : SourceCache) (use : Use) : (c.after use).file = c.file := by
  cases use with
  | lookup path modified =>
      rcases get_cases c path modified with
        ⟨_, hg⟩ | ⟨_, _, _, _, hg⟩ | ⟨_, _, _, _, _, hg⟩ | ⟨_, _, _, _, _, hg⟩ <;>
        simp [after, hg, remove]
  | store path r => rfl
  | forget path => rfl
  | save => rfl

/-- No call changes which file is behind a cache. -/
theorem file_afterAll (t : Tree) (file : Text) (calls : List Call) :
    ((load t file).outcome.afterAll calls).file = file :=
  afterAll_of_after (P := fun c => c.file = file) (fun c use h => (file_after c use).trans h)
    (file_load t file) calls

end SourceCache

end GoogIndex.Cache
