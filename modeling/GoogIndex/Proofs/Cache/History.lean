/-
  Proofs/Cache/History.lean --- histories of calls on one cache object.

  Normative source: SPEC_FULL §4.2, the uses of a cache object.

  A history is a list of calls: single uses and batches.  A batch sees each source at
  a moment of its own, and storage may tell anything at each lookup, so the files are
  free to change between any two steps.  The uses that a batch makes are listed, and
  replaying them gives the cache that the batch leaves; so the invariants of
  `Proofs.Cache.Lifecycle` hold at every moment of a history.
-/
import GoogIndex.Proofs.Cache.Lifecycle
import GoogIndex.Scan.Batch

set_option autoImplicit false

namespace GoogIndex.Scan

open GoogIndex.Cache GoogIndex.Storage

namespace Progress

/-! ## The uses that a batch makes of its cache -/

/-- The uses made for one source: a lookup, and then a removal if the file is gone, or
the storing of what was extracted if nothing fresh was found. -/
def visitUses (p : Progress) (sight : Sight) (path : Text) : List Use :=
  .lookup path (sight.modified path) ::
    match p.cache.get path (sight.modified path) with
    | .error f => if isGone f then [.forget path] else []
    | .ok (some _, _) => []
    | .ok (none, _) =>
        match (sight.extract path).outcome with
        | .ok e => [.store path e.record]
        | .error _ => []

/-- The uses made for a list of sources, until one ends the batch. -/
def batchUses (skipErrors : Bool) : Progress → List (Text × Sight) → List Use
  | _, [] => []
  | p, (path, sight) :: rest =>
      p.visitUses sight path ++
        match (p.visit skipErrors sight path).fault with
        | some _ => []
        | none => batchUses skipErrors (p.visit skipErrors sight path) rest

@[simp] theorem cache_hit (p : Progress) (r : Record) : (p.hit r).cache = p.cache := rfl

@[simp] theorem cache_finish (p : Progress) : p.finish.cache = p.cache := by
  unfold finish
  split <;> rfl

@[simp] theorem result_finish (p : Progress) : p.finish.result = p.result := by
  unfold finish
  split <;> rfl

@[simp] theorem fault_finish (p : Progress) : p.finish.fault = p.fault := by
  unfold finish
  cases hfault : p.fault with
  | none => rfl
  | some f => exact hfault

/-- An extraction touches the cache only to store its record. -/
theorem cache_extract (skipErrors : Bool) (p : Progress) (path : Text)
    (extracted : Reported (Except ExtractionFault Extraction)) :
    (p.extract skipErrors path extracted).cache =
      match extracted.outcome with
      | .ok e => p.cache.set path e.record
      | .error _ => p.cache := by
  unfold extract
  rcases extracted with ⟨outcome, events⟩
  cases outcome with
  | ok e => rfl
  | error f =>
      cases f with
      | failed g => cases skipErrors <;> rfl
      | broken b => rfl

/-- Replaying the uses made for one source gives the cache after it. -/
theorem cache_visit (skipErrors : Bool) (p : Progress) (sight : Sight) (path : Text) :
    (p.visit skipErrors sight path).cache =
      (p.visitUses sight path).foldl SourceCache.after p.cache := by
  unfold visit visitUses
  cases hg : p.cache.get path (sight.modified path) with
  | error f =>
      by_cases hgone : isGone f = true
      · simp [hgone, hg, miss, SourceCache.after]
      · simp [hgone, hg, SourceCache.after]
  | ok found =>
      obtain ⟨r?, c⟩ := found
      cases r? with
      | some r => simp [hg, SourceCache.after]
      | none =>
          simp only [cache_extract]
          cases (sight.extract path).outcome <;> simp [hg, SourceCache.after]

theorem cache_visitAll (skipErrors : Bool) (p : Progress) (sources : List (Text × Sight)) :
    (p.visitAll skipErrors sources).cache =
      (batchUses skipErrors p sources).foldl SourceCache.after p.cache := by
  induction sources generalizing p with
  | nil => rfl
  | cons source rest ih =>
      obtain ⟨path, sight⟩ := source
      rw [visitAll, batchUses, List.foldl_append, ← cache_visit skipErrors]
      cases (p.visit skipErrors sight path).fault with
      | some f => rfl
      | none => exact ih (p.visit skipErrors sight path)

end Progress

/-- Replaying the uses of a batch gives the cache that it leaves. -/
theorem cache_scanSeen (skipErrors : Bool) (c : SourceCache) (sources : List (Text × Sight)) :
    (scanSeen skipErrors c sources).cache =
      (Progress.batchUses skipErrors (.start c) sources).foldl SourceCache.after c := by
  rw [scanSeen, Progress.cache_finish, Progress.cache_visitAll]
  rfl

end GoogIndex.Scan

namespace GoogIndex.Cache

open GoogIndex.Storage GoogIndex.Scan

/-! ## Histories -/

/-- A call on a cache object: a single use, or a batch whose sources are each seen at a
moment of their own. -/
inductive Call where
  | use (u : Use)
  | batch (skipErrors : Bool) (sources : List (Text × Sight))
  deriving Inhabited

/-- The cache after a call. -/
def Call.after (c : SourceCache) : Call → SourceCache
  | .use u => c.after u
  | .batch skipErrors sources => (scanSeen skipErrors c sources).cache

/-- The uses that a call makes. -/
def Call.uses (c : SourceCache) : Call → List Use
  | .use u => [u]
  | .batch skipErrors sources => Progress.batchUses skipErrors (.start c) sources

namespace SourceCache

/-- The cache after a list of calls. -/
def afterAll (c : SourceCache) (calls : List Call) : SourceCache := calls.foldl Call.after c

/-- All uses that a list of calls makes, in order. -/
def usesOf : SourceCache → List Call → List Use
  | _, [] => []
  | c, call :: rest => call.uses c ++ usesOf (call.after c) rest

theorem after_eq_foldl_uses (c : SourceCache) (call : Call) :
    call.after c = (call.uses c).foldl after c := by
  cases call with
  | use u => rfl
  | batch skipErrors sources => exact cache_scanSeen skipErrors c sources

/-- A history is the replay of its uses. -/
theorem afterAll_eq_foldl (c : SourceCache) (calls : List Call) :
    c.afterAll calls = (c.usesOf calls).foldl after c := by
  induction calls generalizing c with
  | nil => rfl
  | cons call rest ih =>
      rw [usesOf, List.foldl_append, ← after_eq_foldl_uses]
      exact ih (call.after c)

/-- The life of a cache object.  Take any cache file, any calls on the cache loaded from
it, and any moment between two of the uses that these calls make.  No time stands
without a record; every time is the loaded one; a path that was not loaded, that was
forgotten or that was looked up in vain is not answered with a record by any later
lookup; a lookup that fails changes neither table. -/
theorem lifecycle_of_calls (t : Tree) (file : Text) (calls : List Call) (moment : Nat) :
    let loaded := (load t file).outcome
    let uses := loaded.usesOf calls
    let done := uses.take moment
    let coming := uses.drop moment
    let c := done.foldl after loaded
    loaded.afterAll calls = coming.foldl after c ∧
    (∀ path, c.stamps.has path = true → c.sources.has path = true) ∧
    (∀ path s, c.stamps.get? path = some s → loaded.stamps.get? path = some s) ∧
    (∀ path, loaded.sources.get? path = none ∨ Use.forget path ∈ done ∨
        (path, .ok none) ∈ loaded.answers done →
      ∀ r, (path, .ok (some r)) ∉ c.answers coming) ∧
    (∀ path modified f, c.get path modified = .error f →
      c.after (.lookup path modified) = c) := by
  intro loaded uses done coming c
  have hloaded : loaded.Paired := paired_load t file
  have hc : c.Paired := paired_foldl hloaded done
  refine ⟨?_, ?_, ?_, ?_, ?_⟩
  · rw [afterAll_eq_foldl, ← List.foldl_append, List.take_append_drop]
  · intro path hs
    obtain ⟨s, hs⟩ := Option.isSome_iff_exists.mp hs
    obtain ⟨r, hr⟩ := hc path s hs
    simp [Table.has, hr]
  · intro path s hs
    exact get?_stamps_of_foldl hs
  · intro path hspent r
    refine not_mem_answers_of_no_stamp ?_ coming r
    rcases hspent with hnone | hspent
    · refine get?_stamps_foldl_eq_none ?_ done
      rw [Option.eq_none_iff_forall_ne_some]
      intro s hs
      obtain ⟨r', hr'⟩ := hloaded path s hs
      rw [hnone] at hr'
      exact absurd hr' (by simp)
    · exact no_stamp_of_spent hloaded done hspent
  · intro path modified f hg
    simp [after, hg]

end SourceCache

end GoogIndex.Cache
