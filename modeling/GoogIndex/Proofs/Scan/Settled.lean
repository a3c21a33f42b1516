/-
  Proofs/Scan/Settled.lean --- what a batch leaves for its paths, whatever its cache holds.

  After its visit a path is settled: its record is fresh, or it is what extraction gives,
  or there is none and extraction fails.  A later visit of a settled path finds the same,
  so the cache at the end of a batch tells the result of the batch.  And a batch through a
  cache in which every path is fresh or fails is determined by that cache.
-/
import GoogIndex.Proofs.Scan.Batch
import Mathlib.Data.List.Basic

set_option autoImplicit false

namespace GoogIndex.Scan

open GoogIndex.Cache GoogIndex.Storage

/-! ## Settled paths -/

/-- What the cache holds for a path is what a visit would report. -/
inductive Settled (t : Tree) (skipErrors : Bool) (c : SourceCache) (path : Text) : Prop where
  | fresh (r : Record) (time : Int) (held : c.sources.get? path = some r)
      (present : t.modifiedMillis path = .ok time) (valid : c.isFresh path time = true)
  | extracted (r : Record) (held : c.sources.get? path = some r) (given : recordOf t path = some r)
  | failing (f : ExtractionFailure) (held : c.sources.get? path = none)
      (fails : (extractFile t path false).outcome = .error (.failed f))
      (skips : skipErrors = true)

/-- What a visit makes of a batch for a path that is not gone. -/
structure Visited (t : Tree) (skipErrors : Bool) (path : Text) (p q : Progress) : Prop where
  settled : Settled t skipErrors q.cache path
  records : q.result.records =
    p.result.records ++ ((q.cache.sources.get? path).map fun r => ⟨r, none⟩).toList
  failed : q.result.failed =
    p.result.failed ++ if (q.cache.sources.get? path).isNone then [path] else []
  lasting : Settled t skipErrors p.cache path →
    q.cache.sources.get? path = p.cache.sources.get? path

section visit

variable {t : Tree} {skipErrors : Bool} {path : Text}

theorem Settled.congr {c c' : SourceCache} (h : Settled t skipErrors c path)
    (hsame : SameFor c c' path) : Settled t skipErrors c' path := by
  cases h with
  | fresh r time held present valid =>
      refine .fresh r time (hsame.1.trans held) present ?_
      rwa [SourceCache.isFresh, hsame.2]
  | extracted r held given => exact .extracted r (hsame.1.trans held) given
  | failing f held fails skips => exact .failing f (hsame.1.trans held) fails skips

/-- An extraction that does not end the batch settles the path, for which there was nothing
before it that would last. -/
theorem visited_of_extract {p p' : Progress} (hnone : p'.cache.sources.get? path = none)
    (hresult : p'.result = p.result)
    (hbefore : Settled t skipErrors p.cache path →
      p.cache.sources.get? path = recordOf t path)
    (h : (p'.extract skipErrors path (extractFile t path false)).fault = none) :
    Visited t skipErrors path p (p'.extract skipErrors path (extractFile t path false)) := by
  unfold Progress.extract at h ⊢
  cases he : (extractFile t path false).outcome with
  | ok e =>
      have htree := tree_of_extractFile he
      obtain ⟨r, tree⟩ := e
      subst htree
      have hrecord := recordOf_eq_some_iff.mpr he
      have hheld := SourceCache.get?_sources_set_self p'.cache path r
      refine ⟨.extracted r hheld hrecord, ?_, ?_, fun hsettled => ?_⟩
      · simp only [Progress.store, hheld, hresult]
        rfl
      · simp [Progress.store, hheld, hresult]
      · rw [hbefore hsettled, hrecord]
        exact hheld
  | error f =>
      have hrecord := recordOf_eq_none_iff.mpr ⟨f, he⟩
      cases f with
      | broken b =>
          simp only [he] at h
          cases h
      | failed f =>
          simp only [he] at h ⊢
          cases skipErrors with
          | false => cases h
          | true =>
              refine ⟨.failing f hnone he rfl, ?_, ?_, fun hsettled => ?_⟩
              · simp [Progress.leaveOut, hnone, hresult]
              · simp [Progress.leaveOut, hnone, hresult]
              · rw [hbefore hsettled, hrecord]
                exact hnone

/-- A visit that does not end the batch settles the path, unless the path is gone. -/
theorem visited_of_visit {p : Progress}
    (h : (p.visit skipErrors (Sight.ofTree t false) path).fault = none)
    (hmissing : (p.visit skipErrors (Sight.ofTree t false) path).result.missing =
      p.result.missing) :
    Visited t skipErrors path p (p.visit skipErrors (Sight.ofTree t false) path) := by
  rcases p.visit_cases skipErrors (Sight.ofTree t false) path with
    ⟨hr, hq⟩ | ⟨r, f, _, _, _, hq⟩ | ⟨r, f, _, _, _, hq⟩ | ⟨r, time, hr, hm, hfresh, hq⟩ |
    ⟨r, time, hr, hm, hstale, hq⟩ <;> rw [hq] at h hmissing ⊢
  · refine visited_of_extract (p := p) hr rfl (fun hsettled => ?_) h
    cases hsettled with
    | fresh _ _ held _ _ => simp [hr] at held
    | extracted _ held _ => simp [hr] at held
    | failing f _ fails _ => rw [hr, recordOf_eq_none_iff.mpr ⟨_, fails⟩]
  · simp [Progress.miss] at hmissing
  · cases h
  · refine ⟨.fresh r time hr hm hfresh, ?_, ?_, fun _ => rfl⟩
    · simp [Progress.hit, hr]
    · simp [Progress.hit, hr]
  · refine visited_of_extract (p := p)
      (SourceCache.get?_sources_remove_self p.cache path) rfl (fun hsettled => ?_) h
    cases hsettled with
    | fresh _ time' _ present valid =>
        cases hm.symm.trans present
        rw [hstale] at valid
        cases valid
    | extracted _ held given => rw [held, given]
    | failing _ held _ _ => simp [hr] at held

/-- An extraction leaves its record in the cache, or none. -/
theorem kept_extract {p : Progress} (t : Tree) (hnone : p.cache.sources.get? path = none) :
    (p.extract skipErrors path (extractFile t path false)).cache.sources.get? path =
      recordOf t path := by
  rw [Progress.cache_extract, recordOf]
  cases (extractFile t path false).outcome with
  | ok extraction => exact SourceCache.get?_sources_set_self p.cache path extraction.record
  | error f => exact hnone

/-- The record of a path after a visit was there before, or extraction gives it. -/
theorem record_of_visit {p : Progress} {r : Record}
    (h : (p.visit skipErrors (Sight.ofTree t false) path).cache.sources.get? path = some r) :
    p.cache.sources.get? path = some r ∨ recordOf t path = some r := by
  rcases p.visit_cases skipErrors (Sight.ofTree t false) path with
    ⟨hr, hq⟩ | ⟨_, _, _, _, _, hq⟩ | ⟨_, _, _, _, _, hq⟩ | ⟨_, _, _, _, _, hq⟩ |
    ⟨_, _, _, _, _, hq⟩ <;> rw [hq] at h
  · exact .inr ((kept_extract t hr).symm.trans h)
  · simp [Progress.miss] at h
  · exact .inl h
  · exact .inl h
  · exact .inr ((kept_extract t (SourceCache.get?_sources_remove_self p.cache path)).symm.trans h)

theorem missing_extract (skipErrors : Bool) (p : Progress) (path : Text)
    (extracted : Reported (Except ExtractionFault Extraction)) :
    (p.extract skipErrors path extracted).result.missing = p.result.missing := by
  unfold Progress.extract
  rcases extracted with ⟨outcome, events⟩
  cases outcome with
  | ok e => rfl
  | error f =>
      cases f with
      | failed g => cases skipErrors <;> rfl
      | broken b => rfl

/-- No visit takes a path from the missing ones. -/
theorem missing_visit (skipErrors : Bool) (p : Progress) (sight : Sight) (path : Text) :
    p.result.missing <+: (p.visit skipErrors sight path).result.missing := by
  unfold Progress.visit
  split
  · split
    · exact List.prefix_append _ _
    · exact List.prefix_refl _
  · exact List.prefix_refl _
  · exact (missing_extract skipErrors _ path _).symm ▸ List.prefix_refl _

end visit

/-! ## Settled batches -/

/-- Some paths, all seen in one tree. -/
def seenIn (t : Tree) (paths : List Text) : List (Text × Sight) :=
  paths.map fun path => (path, Sight.ofTree t false)

/-- What a batch makes of its paths if none is gone. -/
structure Ended (t : Tree) (skipErrors : Bool) (paths : List Text) (p q : Progress) : Prop where
  settled : ∀ path ∈ paths, Settled t skipErrors q.cache path
  records : q.result.records =
    p.result.records ++ (paths.filterMap q.cache.sources.get?).map fun r => ⟨r, none⟩
  failed : q.result.failed =
    p.result.failed ++ paths.filter fun path => (q.cache.sources.get? path).isNone
  lasting : ∀ path, Settled t skipErrors p.cache path →
    q.cache.sources.get? path = p.cache.sources.get? path ∧ Settled t skipErrors q.cache path

section run

variable {t : Tree} {skipErrors : Bool} {path : Text} {paths : List Text}

theorem missing_visitAll (skipErrors : Bool) (p : Progress) (sources : List (Text × Sight)) :
    p.result.missing <+: (p.visitAll skipErrors sources).result.missing := by
  induction sources generalizing p with
  | nil => exact List.prefix_refl _
  | cons source rest ih =>
      obtain ⟨path, sight⟩ := source
      have hfirst := missing_visit skipErrors p sight path
      rw [Progress.visitAll]
      split
      · exact hfirst
      · exact hfirst.trans (ih _)

theorem Ended.cons {p q r : Progress} (hvisit : Visited t skipErrors path p q)
    (hsame : ∀ other, other ≠ path → SameFor p.cache q.cache other)
    (hrest : Ended t skipErrors paths q r) : Ended t skipErrors (path :: paths) p r := by
  obtain ⟨hpath, hsettled⟩ := hrest.lasting path hvisit.settled
  refine ⟨?_, ?_, ?_, ?_⟩
  · intro other hother
    rcases List.mem_cons.mp hother with rfl | hother
    · exact hsettled
    · exact hrest.settled other hother
  · rw [hrest.records, hvisit.records, ← hpath, List.append_assoc]
    cases hr : r.cache.sources.get? path with
    | none => simp [hr]
    | some record => simp [hr]
  · rw [hrest.failed, hvisit.failed, ← hpath, List.append_assoc]
    cases hr : r.cache.sources.get? path with
    | none => simp [hr]
    | some record => simp [hr]
  · intro other hother
    by_cases ho : other = path
    · subst ho
      exact ⟨hpath.trans (hvisit.lasting hother), hsettled⟩
    · have hq := hsame other ho
      obtain ⟨hr, hlast⟩ := hrest.lasting other (hother.congr hq)
      exact ⟨hr.trans hq.1, hlast⟩

/-- A batch that comes to its end without a path that is gone settles its paths. -/
theorem ended_of_visitAll {p : Progress}
    (h : (p.visitAll skipErrors (seenIn t paths)).fault = none)
    (hmissing : (p.visitAll skipErrors (seenIn t paths)).result.missing = p.result.missing) :
    Ended t skipErrors paths p (p.visitAll skipErrors (seenIn t paths)) := by
  induction paths generalizing p with
  | nil => exact ⟨by simp, by simp [seenIn, Progress.visitAll], by simp [seenIn, Progress.visitAll],
      fun _ hsettled => ⟨rfl, hsettled⟩⟩
  | cons path rest ih =>
      rw [seenIn, List.map_cons, Progress.visitAll] at h hmissing ⊢
      cases hfault : (p.visit skipErrors (Sight.ofTree t false) path).fault with
      | some f =>
          simp only [hfault] at h
          cases h
      | none =>
          simp only [hfault] at h hmissing ⊢
          have hfirst := missing_visit skipErrors p (Sight.ofTree t false) path
          have hlater := missing_visitAll skipErrors
            (p.visit skipErrors (Sight.ofTree t false) path) (seenIn t rest)
          -- nothing was missing at any time in between
          have hnone : (p.visit skipErrors (Sight.ofTree t false) path).result.missing =
              p.result.missing := by
            rw [seenIn, hmissing] at hlater
            exact (hfirst.eq_of_length_le hlater.length_le).symm
          rw [← hnone] at hmissing
          exact .cons (visited_of_visit hfault hnone)
            (fun other ho => sameFor_visit skipErrors p _ ho) (ih h hmissing)

/-- What a batch reports if none of its paths is missing. -/
theorem ended_of_scanSources {c : SourceCache}
    (h : (scanSources t false skipErrors c paths).fault = none)
    (hmissing : (scanSources t false skipErrors c paths).result.missing = []) :
    Ended t skipErrors paths (.start c) (scanSources t false skipErrors c paths) := by
  unfold scanSources scanSeen at h hmissing ⊢
  rw [Progress.fault_finish] at h
  rw [Progress.result_finish] at hmissing
  obtain ⟨hsettled, hrecords, hfailed, hlasting⟩ := ended_of_visitAll h hmissing
  refine ⟨?_, ?_, ?_, ?_⟩
  · rwa [Progress.cache_finish]
  · rwa [Progress.cache_finish, Progress.result_finish]
  · rwa [Progress.cache_finish, Progress.result_finish]
  · rwa [Progress.cache_finish]

/-- The record of a path after a batch was there before, or extraction gives it. -/
theorem record_of_visitAll {p : Progress} {r : Record}
    (h : (p.visitAll skipErrors (seenIn t paths)).cache.sources.get? path = some r) :
    p.cache.sources.get? path = some r ∨ recordOf t path = some r := by
  induction paths generalizing p with
  | nil => exact .inl h
  | cons first rest ih =>
      have hvisit : ∀ r, (p.visit skipErrors (Sight.ofTree t false) first).cache.sources.get? path =
          some r → p.cache.sources.get? path = some r ∨ recordOf t path = some r := by
        intro r hr
        by_cases hfirst : path = first
        · subst hfirst
          exact record_of_visit hr
        · rw [(sameFor_visit skipErrors p (Sight.ofTree t false) hfirst).1] at hr
          exact .inl hr
      rw [seenIn, List.map_cons, Progress.visitAll] at h
      split at h
      · exact hvisit r h
      · rcases ih h with hr | hr
        · exact hvisit r hr
        · exact .inr hr

theorem record_of_scanSources {c : SourceCache} {r : Record}
    (h : (scanSources t false skipErrors c paths).cache.sources.get? path = some r) :
    c.sources.get? path = some r ∨ recordOf t path = some r := by
  unfold scanSources scanSeen at h
  rw [Progress.cache_finish] at h
  exact record_of_visitAll h

end run

/-! ## Batches that only look up -/

/-- A visit of the path would be answered from the cache, or would fail again. -/
def Served (t : Tree) (skipErrors : Bool) (c : SourceCache) (path : Text) : Prop :=
  (∃ r time, c.sources.get? path = some r ∧ t.modifiedMillis path = .ok time ∧
      c.isFresh path time = true) ∨
    ∃ f, c.sources.get? path = none ∧ (extractFile t path false).outcome = .error (.failed f) ∧
      skipErrors = true

/-- What a batch makes of paths that are all served: hits for the records that are there, and
one failure for each path without. -/
structure Lookups (paths : List Text) (p q : Progress) : Prop where
  cache : q.cache = p.cache
  noFault : q.fault = p.fault
  records : q.result.records =
    p.result.records ++ (paths.filterMap p.cache.sources.get?).map fun r => ⟨r, none⟩
  hits : q.result.hits = p.result.hits + (paths.filterMap p.cache.sources.get?).length
  misses : q.result.misses =
    p.result.misses + (paths.filter fun path => (p.cache.sources.get? path).isNone).length
  missing : q.result.missing = p.result.missing
  failed : q.result.failed =
    p.result.failed ++ paths.filter fun path => (p.cache.sources.get? path).isNone

section served

variable {t : Tree} {skipErrors : Bool} {path : Text} {paths : List Text}

theorem lookups_of_visit {p : Progress} (h : Served t skipErrors p.cache path) :
    Lookups [path] p (p.visit skipErrors (Sight.ofTree t false) path) := by
  rcases h with ⟨r, time, hr, htime, hfresh⟩ | ⟨f, hr, hf, rfl⟩
  · have hget : p.cache.get path (t.modifiedMillis path) = .ok (some r, p.cache) := by
      simp only [SourceCache.get, hr, htime, hfresh, if_true]
    simp only [Progress.visit, Sight.ofTree, hget]
    exact ⟨rfl, rfl, by simp [Progress.hit, hr], by simp [Progress.hit, hr],
      by simp [Progress.hit, hr], rfl, by simp [Progress.hit, hr]⟩
  · have hget : p.cache.get path (t.modifiedMillis path) = .ok (none, p.cache) := by
      simp only [SourceCache.get, hr]
    simp only [Progress.visit, Sight.ofTree, hget, Progress.extract, hf, if_true]
    exact ⟨rfl, rfl, by simp [Progress.leaveOut, hr], by simp [Progress.leaveOut, hr],
      by simp [Progress.leaveOut, hr], rfl, by simp [Progress.leaveOut, hr]⟩

theorem Lookups.cons {p q r : Progress} (hvisit : Lookups [path] p q) (hrest : Lookups paths q r) :
    Lookups (path :: paths) p r := by
  obtain ⟨hcache, hfault, hrecords, hhits, hmisses, hmissing, hfailed⟩ := hrest
  rw [hvisit.cache] at hrecords hhits hmisses hfailed
  refine ⟨hcache.trans hvisit.cache, hfault.trans hvisit.noFault, ?_, ?_, ?_,
    hmissing.trans hvisit.missing, ?_⟩
  · rw [hrecords, hvisit.records, List.append_assoc, ← List.map_append, ← List.filterMap_append]
    rfl
  · rw [hhits, hvisit.hits, Nat.add_assoc, ← List.length_append, ← List.filterMap_append]
    rfl
  · rw [hmisses, hvisit.misses, Nat.add_assoc, ← List.length_append, ← List.filter_append]
    rfl
  · rw [hfailed, hvisit.failed, List.append_assoc, ← List.filter_append]
    rfl

/-- A batch of paths that are all served only looks up. -/
theorem lookups_of_visitAll {p : Progress} (hfault : p.fault = none)
    (h : ∀ path ∈ paths, Served t skipErrors p.cache path) :
    Lookups paths p (p.visitAll skipErrors (seenIn t paths)) := by
  induction paths generalizing p with
  | nil =>
      exact ⟨rfl, rfl, by simp [seenIn, Progress.visitAll], by simp [seenIn, Progress.visitAll],
        by simp [seenIn, Progress.visitAll], rfl, by simp [seenIn, Progress.visitAll]⟩
  | cons path rest ih =>
      have hvisit := lookups_of_visit (h path List.mem_cons_self)
      have hnone := hvisit.noFault.trans hfault
      rw [seenIn, List.map_cons, Progress.visitAll, hnone]
      refine .cons hvisit (ih hnone fun other hother => ?_)
      rw [hvisit.cache]
      exact h other (List.mem_cons_of_mem path hother)

theorem lookups_of_scanSources {c : SourceCache}
    (h : ∀ path ∈ paths, Served t skipErrors c path) :
    Lookups paths (.start c) (scanSources t false skipErrors c paths) := by
  have hall := lookups_of_visitAll (p := .start c) rfl h
  unfold scanSources scanSeen
  refine ⟨?_, ?_, ?_, ?_, ?_, ?_, ?_⟩
  · rw [Progress.cache_finish]
    exact hall.cache
  · rw [Progress.fault_finish]
    exact hall.noFault
  all_goals rw [Progress.result_finish]
  · exact hall.records
  · exact hall.hits
  · exact hall.misses
  · exact hall.missing
  · exact hall.failed

/-- A batch that only looks up what another batch left reports what that one did. -/
theorem result_of_lookups {t' : Tree} {skipErrors' : Bool} {c again : SourceCache}
    {p q : Progress} (hended : Ended t' skipErrors' paths (.start c) p)
    (hlooks : Lookups paths (.start again) q)
    (hsame : ∀ path ∈ paths, again.sources.get? path = p.cache.sources.get? path) :
    q.result = ⟨p.result.records, p.result.records.length, p.result.failed.length, [],
      p.result.failed⟩ := by
  have hrecords : paths.filterMap again.sources.get? = paths.filterMap p.cache.sources.get? :=
    List.filterMap_congr hsame
  have hfailed : (paths.filter fun path => (again.sources.get? path).isNone) =
      paths.filter fun path => (p.cache.sources.get? path).isNone :=
    List.filter_congr fun path hpath => by rw [hsame path hpath]
  have h₁ := hended.records
  have h₂ := hended.failed
  simp only [Progress.start, Result.start, List.nil_append] at h₁ h₂
  obtain ⟨_, _, hr, hh, hm, hmissing, hf⟩ := hlooks
  simp only [Progress.start, Result.start, List.nil_append, Nat.zero_add] at hr hh hm hmissing hf
  rw [hrecords] at hr hh
  rw [hfailed] at hm hf
  generalize q.result = result at hr hh hm hmissing hf
  obtain ⟨records, hits, misses, missing, failed⟩ := result
  simp only at hr hh hm hmissing hf
  rw [h₁, h₂, hr, hh, hm, hmissing, hf, List.length_map]

end served

end GoogIndex.Scan
