/-
  Proofs/Cache/Legible.lean --- records that are read as they were written.

  Normative source: SPEC_FULL §4.2 and §6.

  A name in a record is restored by writing and reading unless two halves of a surrogate
  pair stand side by side in it.  Nothing that comes into a cache by itself is of that kind:
  neither what a cache file holds, since the reader joins such halves, nor what a source
  declares, since its text has no halves at all.  Only a record that is stored from outside
  can be.
-/
import GoogIndex.Proofs.Cache.Loading
import GoogIndex.Proofs.Json.Halves

set_option autoImplicit false

namespace GoogIndex

open GoogIndex.Storage GoogIndex.Cache

/-- The names in a record are read as they were written. -/
structure Record.Legible (r : Record) : Prop where
  provides : ∀ s ∈ r.provides, Json.Unsplit s
  requires : ∀ s ∈ r.requires, Json.Unsplit s

instance (r : Record) : Decidable r.Legible :=
  decidable_of_iff ((∀ s ∈ r.provides, Json.Unsplit s) ∧ ∀ s ∈ r.requires, Json.Unsplit s)
    ⟨fun h => ⟨h.1, h.2⟩, fun h => ⟨h.provides, h.requires⟩⟩

/-- What a source declares is made of its characters. -/
theorem legible_record (d : Declarations) (path : Text) : (d.record path).Legible := by
  have hstrings : ∀ names : List String, ∀ s ∈ names.map Text.ofString, Json.Unsplit s := by
    intro names s hs
    obtain ⟨name, _, rfl⟩ := List.mem_map.mp hs
    exact Json.unsplit_ofString name
  exact ⟨hstrings d.provides, hstrings d.requires⟩

/-- An extracted record is legible. -/
theorem legible_of_extractFile {t : Tree} {path : Text} {keepTree : Bool} {e : Extraction}
    (h : (extractFile t path keepTree).outcome = .ok e) : e.record.Legible := by
  unfold extractFile at h
  split at h
  · cases h
  · cases h
  · rename_i source _
    simp only [extractSource] at h
    cases hscript : readScript source keepTree with
    | error f =>
        rw [hscript] at h
        cases h
    | ok found =>
        rw [hscript] at h
        cases h
        exact legible_record _ path

namespace Cache

/-! ## What a cache file holds -/

theorem unsplit_of_member? {members : List (Text × Json)} {key : Text} {texts : List Text}
    (hmembers : (Json.obj members).Whole)
    (h : Json.member? members key = some (.texts texts)) : ∀ s ∈ texts, Json.Unsplit s := by
  have hvalue := (Json.wholeMembers_iff.mp hmembers _ (Json.mem_of_member? h)).2
  exact fun s hs => Json.wholeItems_iff.mp hvalue _ (List.mem_map_of_mem hs)

/-- The record of an entry that was read is legible. -/
theorem legible_of_isEntry {value : Json} {e : Entry} (hvalue : value.Whole)
    (h : IsEntry value e) (path : Text) : (e.record path).Legible := by
  obtain ⟨members, rfl, hprovides, hrequires, _⟩ := h
  exact ⟨unsplit_of_member? hvalue hprovides, unsplit_of_member? hvalue hrequires⟩

namespace SourceCache

/-- All records of a cache are legible. -/
def Legible (c : SourceCache) : Prop := ∀ row ∈ c.sources.rows, row.2.Legible

theorem legible_set {c : SourceCache} (hc : c.Legible) {r : Record} (hr : r.Legible)
    (path : Text) : ∀ row ∈ (c.sources.put path r).rows, row.2.Legible := by
  intro row hrow
  rcases Table.mem_of_mem_insertRow hrow with rfl | hold
  · exact hr
  · exact hc row hold

theorem legible_remove {c : SourceCache} (hc : c.Legible) (path : Text) :
    (c.remove path).Legible := fun row hrow => hc row (List.mem_of_mem_filter hrow)

theorem legible_addEntry {c : SourceCache} (hc : c.Legible) (path : Text) {value : Json}
    (hvalue : value.Whole) : (c.addEntry path value).Legible := by
  unfold addEntry
  cases he : Entry.ofJson? value with
  | none => exact hc
  | some e =>
    have he := legible_of_isEntry hvalue (ofJson?_eq_some_entry.mp he) path
    exact legible_set hc he path

theorem legible_addEntries {c : SourceCache} (hc : c.Legible) {members : List (Text × Json)}
    (hmembers : ∀ m ∈ members, m.2.Whole) : (c.addEntries members).Legible := by
  unfold addEntries
  induction members generalizing c with
  | nil => exact hc
  | cons m rest ih =>
      exact ih (legible_addEntry hc m.1 (hmembers m List.mem_cons_self))
        fun m' hm' => hmembers m' (List.mem_cons_of_mem m hm')

theorem whole_of_readValue {t : Tree} {file : Text} {v : Json} (h : readValue t file = .ok v) :
    v.Whole := by
  unfold readValue at h
  split at h
  · cases h
  · rename_i text _
    cases hread : Json.read depthLimit text with
    | error f =>
        rw [hread] at h
        cases h
    | ok w =>
        rw [hread] at h
        cases h
        exact Json.whole_of_readChars hread

/-- A loaded cache is legible, whatever its file holds. -/
theorem legible_load (t : Tree) (file : Text) : (load t file).outcome.Legible := by
  have hempty : (empty file).Legible := nofun
  rcases load_cases t file with h | ⟨members, _, hvalue, h⟩
  · rw [h]
    exact hempty
  · have hmembers := Json.wholeMembers_iff.mp (whole_of_readValue hvalue)
    rw [h]
    exact legible_addEntries hempty fun m hm => (hmembers m hm).2

/-! ## Uses of a cache -/

/-- A use keeps a cache legible if the record that it stores, if any, is legible. -/
theorem legible_after {c : SourceCache} (hc : c.Legible) {use : Use}
    (huse : ∀ path r, use = .store path r → r.Legible) : (c.after use).Legible := by
  cases use with
  | lookup path modified =>
      rcases get_cases c path modified with
        ⟨_, hg⟩ | ⟨_, _, _, _, hg⟩ | ⟨_, _, _, _, _, hg⟩ | ⟨_, _, _, _, _, hg⟩
      · simpa [after, hg] using hc
      · simpa [after, hg] using hc
      · simpa [after, hg] using hc
      · simpa [after, hg] using legible_remove hc path
  | store path r => exact legible_set hc (huse path r rfl) path
  | forget path => exact legible_remove hc path
  | save => exact hc

theorem legible_foldl_after {c : SourceCache} (hc : c.Legible) {uses : List Use}
    (huses : ∀ path r, .store path r ∈ uses → r.Legible) : (uses.foldl after c).Legible := by
  induction uses generalizing c with
  | nil => exact hc
  | cons use rest ih =>
      refine ih (legible_after hc ?_) fun path r hr => huses path r (List.mem_cons_of_mem use hr)
      rintro path r rfl
      exact huses path r List.mem_cons_self

end SourceCache

end Cache

namespace Scan

/-! ## Batches -/

/-- A batch only stores what was extracted. -/
theorem Progress.legible_of_mem_batchUses {skipErrors : Bool} {p : Progress}
    {sources : List (Text × Sight)}
    (hsources : ∀ source ∈ sources, ∀ e, (source.2.extract source.1).outcome = .ok e →
      e.record.Legible) {path : Text} {r : Record}
    (h : .store path r ∈ batchUses skipErrors p sources) : r.Legible := by
  induction sources generalizing p with
  | nil => cases h
  | cons source rest ih =>
      obtain ⟨name, sight⟩ := source
      rw [batchUses, List.mem_append] at h
      rcases h with hvisit | hrest
      · unfold visitUses at hvisit
        rcases List.mem_cons.mp hvisit with heq | hvisit
        · cases heq
        · split at hvisit
          · split at hvisit
            · cases List.mem_singleton.mp hvisit
            · cases hvisit
          · cases hvisit
          · split at hvisit
            · rename_i e hextract
              cases List.mem_singleton.mp hvisit
              exact hsources _ List.mem_cons_self e hextract
            · cases hvisit
      · split at hrest
        · cases hrest
        · exact ih (fun source hsource => hsources source (List.mem_cons_of_mem _ hsource)) hrest

/-- A batch over sources that are extracted from storage leaves its cache legible. -/
theorem legible_scanSeen {skipErrors : Bool} {c : SourceCache} {sources : List (Text × Sight)}
    (hc : c.Legible)
    (hsources : ∀ source ∈ sources, ∀ e, (source.2.extract source.1).outcome = .ok e →
      e.record.Legible) : (scanSeen skipErrors c sources).cache.Legible := by
  rw [cache_scanSeen]
  exact SourceCache.legible_foldl_after hc fun _ _ hstore =>
    Progress.legible_of_mem_batchUses hsources hstore

theorem legible_scanSources {t : Tree} {keepTree skipErrors : Bool} {c : SourceCache}
    (hc : c.Legible) (paths : List Text) :
    (scanSources t keepTree skipErrors c paths).cache.Legible := by
  refine legible_scanSeen hc fun source hsource e he => ?_
  obtain ⟨path, _, rfl⟩ := List.mem_map.mp hsource
  exact legible_of_extractFile he

end Scan

end GoogIndex
