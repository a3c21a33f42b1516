/-
  Proofs/Scan/Batch.lean --- what a batch through an accurate cache gives.

  Normative source: SPEC_FULL §4.4, `scan_sources`.

  A cache is accurate for a path if a record that would be taken for fresh is the one
  that extraction gives.  A batch over one tree keeps that, and for every source it has
  the same outcome as if there were no cache: the record that extraction gives, or none.
  Afterwards the cache holds for the sources of the batch what extraction gives, and for
  other paths what it held before.
-/
import GoogIndex.Proofs.Cache.History
import GoogIndex.Proofs.Storage.Route
import GoogIndex.Scan.Batch

set_option autoImplicit false

namespace GoogIndex.Scan

open GoogIndex.Cache GoogIndex.Storage

/-! ## What extraction gives -/

/-- The record that extraction gives for a path, if it gives one. -/
def recordOf (t : Tree) (path : Text) : Option Record :=
  (extractFile t path false).outcome.toOption.map Extraction.record

/-- Extraction for a record keeps no tree. -/
theorem tree_of_extractFile {t : Tree} {path : Text} {e : Extraction}
    (h : (extractFile t path false).outcome = .ok e) : e.tree = none := by
  unfold extractFile at h
  split at h
  · cases h
  · cases h
  · rename_i source _
    simp only [extractSource, readScript] at h
    cases htokens : (Script.tokenize source).mapError ExtractionCause.script with
    | error f =>
        simp only [htokens, Bool.false_eq_true, if_false] at h
        cases h
    | ok tokens =>
        simp only [htokens, Bool.false_eq_true, if_false] at h
        cases h
        rfl

/-- The record that extraction gives is kept under the path. -/
theorem path_of_extractFile {t : Tree} {path : Text} {e : Extraction}
    (h : (extractFile t path false).outcome = .ok e) : e.record.path = path := by
  unfold extractFile at h
  split at h
  · cases h
  · cases h
  · rename_i source _
    simp only [extractSource] at h
    cases hread : readScript source false with
    | error f =>
        rw [hread] at h
        cases h
    | ok found =>
        rw [hread] at h
        cases h
        rfl

theorem recordOf_eq_some_iff {t : Tree} {path : Text} {r : Record} :
    recordOf t path = some r ↔ (extractFile t path false).outcome = .ok ⟨r, none⟩ := by
  unfold recordOf
  cases h : (extractFile t path false).outcome with
  | error f => simp [Except.toOption]
  | ok e =>
      have htree := tree_of_extractFile h
      obtain ⟨record, tree⟩ := e
      subst htree
      simp [Except.toOption]

theorem path_of_recordOf {t : Tree} {path : Text} {r : Record} (h : recordOf t path = some r) :
    r.path = path := path_of_extractFile (recordOf_eq_some_iff.mp h)

theorem recordOf_eq_none_iff {t : Tree} {path : Text} :
    recordOf t path = none ↔ ∃ f, (extractFile t path false).outcome = .error f := by
  unfold recordOf
  cases h : (extractFile t path false).outcome with
  | error f => simp [Except.toOption]
  | ok e => simp [Except.toOption]

/-- Only a file has a record. -/
theorem exists_bytesOf_of_recordOf {t : Tree} {path : Text} {r : Record}
    (h : recordOf t path = some r) :
    ∃ bytes, t.bytesOf (PathName.ofText path).toText = .ok bytes := by
  have he := recordOf_eq_some_iff.mp h
  unfold extractFile Tree.textOf at he
  cases hb : t.bytesOf (PathName.ofText path).toText with
  | error g =>
      rw [hb] at he
      cases g <;> cases he
  | ok bytes => exact ⟨bytes, rfl⟩

/-- A path that leads nowhere has no record, if it is in normal form. -/
theorem recordOf_of_modifiedMillis_error {t : Tree} {path : Text}
    (hnormal : (PathName.ofText path).toText = path) {f : Fault}
    (h : t.modifiedMillis path = .error f) : recordOf t path = none := by
  cases hr : recordOf t path with
  | none => rfl
  | some r =>
      -- what can be read has a modification time
      obtain ⟨bytes, hb⟩ := exists_bytesOf_of_recordOf hr
      rw [hnormal] at hb
      obtain ⟨stop, a, hlookup⟩ := Tree.bytesOf_eq_ok_iff.mp hb
      simp only [Tree.modifiedMillis, Tree.attributesOf, Storage.Tree.node, hlookup] at h
      cases h

/-! ## One visit -/

/-- A record that would be taken for fresh is the one that extraction gives. -/
def Accurate (t : Tree) (c : SourceCache) (path : Text) : Prop :=
  ∀ r time, c.sources.get? path = some r → t.modifiedMillis path = .ok time →
    c.isFresh path time = true → recordOf t path = some r

/-- Two caches hold the same for a path. -/
def SameFor (c c' : SourceCache) (path : Text) : Prop :=
  c'.sources.get? path = c.sources.get? path ∧ c'.stamps.get? path = c.stamps.get? path

theorem SameFor.trans {c c' c'' : SourceCache} {path : Text} (h : SameFor c c' path)
    (h' : SameFor c' c'' path) : SameFor c c'' path := ⟨h'.1.trans h.1, h'.2.trans h.2⟩

theorem SameFor.accurate {t : Tree} {c c' : SourceCache} {path : Text} (h : SameFor c c' path)
    (hc : Accurate t c path) : Accurate t c' path := by
  intro r time hr htime hfresh
  rw [h.1] at hr
  refine hc r time hr htime ?_
  rw [SourceCache.isFresh, h.2] at hfresh
  exact hfresh

/-- The answer to a lookup depends on what the cache holds for the path. -/
theorem SameFor.answer {c c' : SourceCache} {path : Text} (h : SameFor c c' path)
    (modified : Except Fault Int) :
    (c'.get path modified).map (·.1) = (c.get path modified).map (·.1) := by
  have hfresh : ∀ time, c'.isFresh path time = c.isFresh path time := by
    intro time
    rw [SourceCache.isFresh, SourceCache.isFresh, h.2]
  unfold SourceCache.get
  rw [h.1]
  cases c.sources.get? path with
  | none => rfl
  | some r =>
      cases modified with
      | error f => rfl
      | ok time =>
          simp only [hfresh]
          cases c.isFresh path time <;> rfl

/-- A cache that holds what extraction gives is accurate, whatever its times are. -/
theorem accurate_of_recordOf {t : Tree} {c : SourceCache} {path : Text}
    (h : c.sources.get? path = none ∨ c.sources.get? path = recordOf t path) :
    Accurate t c path := by
  intro r time hr _ _
  rcases h with h | h
  · rw [h] at hr
    cases hr
  · rw [← h, hr]

/-- Everything a visit can do: extract a path of which nothing is held; miss a path that is gone;
end the batch, as storage refuses to tell the time; hit; extract a path whose record is out of
date, which is forgotten. -/
theorem Progress.visit_cases (skipErrors : Bool) (p : Progress) (sight : Sight) (path : Text) :
    (p.cache.sources.get? path = none ∧
      p.visit skipErrors sight path = p.extract skipErrors path (sight.extract path)) ∨
    (∃ r f, p.cache.sources.get? path = some r ∧ sight.modified path = .error f ∧
      Progress.isGone f = true ∧ p.visit skipErrors sight path = p.miss path) ∨
    (∃ r f, p.cache.sources.get? path = some r ∧ sight.modified path = .error f ∧
      Progress.isGone f = false ∧
      p.visit skipErrors sight path = { p with fault := some (.storage f) }) ∨
    (∃ r time, p.cache.sources.get? path = some r ∧ sight.modified path = .ok time ∧
      p.cache.isFresh path time = true ∧ p.visit skipErrors sight path = p.hit r) ∨
    (∃ r time, p.cache.sources.get? path = some r ∧ sight.modified path = .ok time ∧
      p.cache.isFresh path time = false ∧
      p.visit skipErrors sight path =
        { p with cache := p.cache.remove path }.extract skipErrors path (sight.extract path)) := by
  unfold Progress.visit
  rcases p.cache.get_cases path (sight.modified path) with
    ⟨hr, hg⟩ | ⟨r, f, hr, hm, hg⟩ | ⟨r, time, hr, hm, hfresh, hg⟩ | ⟨r, time, hr, hm, hstale, hg⟩
  · exact .inl ⟨hr, by rw [hg]⟩
  · cases hgone : Progress.isGone f with
    | true => exact .inr (.inl ⟨r, f, hr, hm, hgone, by simp [hg, hgone]⟩)
    | false => exact .inr (.inr (.inl ⟨r, f, hr, hm, hgone, by simp [hg, hgone]⟩))
  · exact .inr (.inr (.inr (.inl ⟨r, time, hr, hm, hfresh, by rw [hg]⟩)))
  · exact .inr (.inr (.inr (.inr ⟨r, time, hr, hm, hstale, by rw [hg]⟩)))

/-- What one visit makes of a batch, if there is a record for the path in the end, if there
is none, and if the path is gone. -/
inductive Visit (t : Tree) (path : Text) (before : Result) (q : Progress) : Prop where
  | found (r : Record) (record : recordOf t path = some r)
      (records : q.result.records = before.records ++ [⟨r, none⟩])
      (missing : q.result.missing = before.missing)
      (failed : q.result.failed = before.failed)
      (kept : q.cache.sources.get? path = some r)
  | failed (record : recordOf t path = none)
      (records : q.result.records = before.records)
      (missing : q.result.missing = before.missing)
      (failed : q.result.failed = before.failed ++ [path])
      (forgotten : q.cache.sources.get? path = none)
  | gone (f : Fault) (time : t.modifiedMillis path = .error f)
      (records : q.result.records = before.records)
      (missing : q.result.missing = before.missing ++ [path])
      (failed : q.result.failed = before.failed)
      (forgotten : q.cache.sources.get? path = none)

/-- An extraction that does not end the batch finds a record or leaves the path out. -/
theorem visit_of_extract {t : Tree} {path : Text} {p : Progress}
    (hnone : p.cache.sources.get? path = none)
    (h : (p.extract true path (extractFile t path false)).fault = none) :
    Visit t path p.result (p.extract true path (extractFile t path false)) := by
  unfold Progress.extract at h ⊢
  cases he : (extractFile t path false).outcome with
  | ok e =>
      have htree := tree_of_extractFile he
      obtain ⟨r, tree⟩ := e
      subst htree
      exact .found r (recordOf_eq_some_iff.mpr he) rfl rfl rfl
        (SourceCache.get?_sources_set_self p.cache path r)
  | error f =>
      cases f with
      | failed f => exact .failed (recordOf_eq_none_iff.mpr ⟨_, he⟩) rfl rfl rfl hnone
      | broken b =>
          simp only [he] at h
          cases h

/-- A visit that does not end the batch is one of the three, if the cache is accurate for
the path. -/
theorem visit_of_visit {t : Tree} {path : Text} {p : Progress} (hacc : Accurate t p.cache path)
    (h : (p.visit true (Sight.ofTree t false) path).fault = none) :
    Visit t path p.result (p.visit true (Sight.ofTree t false) path) := by
  rcases p.visit_cases true (Sight.ofTree t false) path with
    ⟨hr, hq⟩ | ⟨r, f, _, hm, _, hq⟩ | ⟨r, f, _, _, _, hq⟩ | ⟨r, time, hr, hm, hfresh, hq⟩ |
    ⟨r, time, _, _, _, hq⟩ <;> rw [hq] at h ⊢
  · exact visit_of_extract hr h
  · exact .gone f hm rfl rfl rfl (SourceCache.get?_sources_remove_self p.cache path)
  · cases h
  · exact .found r (hacc r time hr hm hfresh) rfl rfl rfl hr
  · exact visit_of_extract (SourceCache.get?_sources_remove_self p.cache path) h

/-- A visit changes nothing in the cache for other paths. -/
theorem sameFor_visit (skipErrors : Bool) (p : Progress) (sight : Sight) {path other : Text}
    (h : other ≠ path) : SameFor p.cache (p.visit skipErrors sight path).cache other := by
  have hremove : SameFor p.cache (p.cache.remove path) other :=
    ⟨SourceCache.get?_sources_remove_of_ne p.cache h,
      SourceCache.get?_stamps_remove_of_ne p.cache h⟩
  -- an extraction stores a record for the path, or leaves the cache alone
  have hextract : ∀ p' : Progress, SameFor p.cache p'.cache other →
      SameFor p.cache (p'.extract skipErrors path (sight.extract path)).cache other := by
    intro p' hp'
    unfold Progress.extract
    split
    · exact ⟨(SourceCache.get?_sources_set_of_ne p'.cache _ h).trans hp'.1, hp'.2⟩
    · split
      · exact hp'
      · exact hp'
    · exact hp'
  rcases p.visit_cases skipErrors sight path with
    ⟨_, hq⟩ | ⟨_, _, _, _, _, hq⟩ | ⟨_, _, _, _, _, hq⟩ | ⟨_, _, _, _, _, hq⟩ |
    ⟨_, _, _, _, _, hq⟩ <;> rw [hq]
  · exact hextract _ ⟨rfl, rfl⟩
  · exact hremove
  · exact ⟨rfl, rfl⟩
  · exact ⟨rfl, rfl⟩
  · exact hextract _ hremove

/-- A batch changes nothing in the cache for paths that are none of its own. -/
theorem sameFor_visitAll (skipErrors : Bool) (p : Progress) (sources : List (Text × Sight))
    {other : Text} (h : other ∉ sources.map (·.1)) :
    SameFor p.cache (p.visitAll skipErrors sources).cache other := by
  induction sources generalizing p with
  | nil => exact ⟨rfl, rfl⟩
  | cons source rest ih =>
      obtain ⟨path, sight⟩ := source
      rw [List.map_cons, List.mem_cons, not_or] at h
      have hfirst := sameFor_visit skipErrors p sight h.1
      rw [Progress.visitAll]
      cases (p.visit skipErrors sight path).fault with
      | some f => exact hfirst
      | none =>
          have hrest := ih (p.visit skipErrors sight path) h.2
          exact hfirst.trans hrest

theorem sameFor_scanSources (t : Tree) (skipErrors : Bool) (c : SourceCache)
    {paths : List Text} {other : Text} (h : other ∉ paths) :
    SameFor c (scanSources t false skipErrors c paths).cache other := by
  unfold scanSources scanSeen
  rw [Progress.cache_finish]
  refine sameFor_visitAll skipErrors (.start c) _ ?_
  rw [List.map_map]
  simpa using h

/-! ## All visits -/

/-- What the visits of some paths make of a batch, as far as it is sound: each record is
what extraction gives, and the cache holds that for the paths and what it held before
for all others. -/
structure Sound (t : Tree) (paths : List Text) (p q : Progress) : Prop where
  records : ∀ e ∈ q.result.records, e ∈ p.result.records ∨
    ∃ path ∈ paths, recordOf t path = some e.record ∧ e.tree = none
  seen : ∀ path ∈ paths, q.cache.sources.get? path = none ∨
    q.cache.sources.get? path = recordOf t path
  others : ∀ path, path ∉ paths → SameFor p.cache q.cache path

/-- What they make of it if paths that lead nowhere have no record: exactly the records that
extraction gives are there, and exactly the paths without one are missing or failed. -/
structure Complete (t : Tree) (paths : List Text) (p q : Progress) : Prop where
  records : q.result.records =
    p.result.records ++ (paths.filterMap (recordOf t)).map fun r => ⟨r, none⟩
  absent : ∀ path, (path ∈ q.result.missing ∨ path ∈ q.result.failed) ↔
    (path ∈ p.result.missing ∨ path ∈ p.result.failed) ∨
      (path ∈ paths ∧ recordOf t path = none)
  seen : ∀ path ∈ paths, q.cache.sources.get? path = recordOf t path

section visits

variable {t : Tree} {path : Text} {paths : List Text} {p q r : Progress}

/-- The cache after a visit holds nothing for the path, or what extraction gives. -/
theorem Visit.seen {before : Result} (h : Visit t path before q) :
    q.cache.sources.get? path = none ∨ q.cache.sources.get? path = recordOf t path := by
  cases h with
  | found record hrecord _ _ _ kept => exact .inr (kept.trans hrecord.symm)
  | failed _ _ _ _ forgotten => exact .inl forgotten
  | gone _ _ _ _ _ forgotten => exact .inl forgotten

/-- What later visits leave of the cache for the path of a visit. -/
theorem seen_after (hrest : Sound t paths q r) {P : Option Record → Prop}
    (hq : P (q.cache.sources.get? path)) (hr : path ∈ paths → P (r.cache.sources.get? path)) :
    P (r.cache.sources.get? path) := by
  by_cases hmem : path ∈ paths
  · exact hr hmem
  · rwa [(hrest.others path hmem).1]

theorem Sound.nil (t : Tree) (p : Progress) : Sound t [] p p :=
  ⟨fun _ he => .inl he, by simp, fun _ _ => ⟨rfl, rfl⟩⟩

theorem Sound.cons (hvisit : Visit t path p.result q)
    (hsame : ∀ other, other ≠ path → SameFor p.cache q.cache other) (hrest : Sound t paths q r) :
    Sound t (path :: paths) p r := by
  refine ⟨?_, ?_, ?_⟩
  · intro e he
    rcases hrest.records e he with he | ⟨other, hother, hrecord⟩
    · cases hvisit with
      | found record hrecord hrecords _ _ _ =>
          rw [hrecords, List.mem_append, List.mem_singleton] at he
          rcases he with he | rfl
          · exact .inl he
          · exact .inr ⟨path, List.mem_cons_self, hrecord, rfl⟩
      | failed _ hrecords _ _ _ => exact .inl (hrecords ▸ he)
      | gone _ _ hrecords _ _ _ => exact .inl (hrecords ▸ he)
    · exact .inr ⟨other, List.mem_cons_of_mem path hother, hrecord⟩
  · intro other hother
    rcases List.mem_cons.mp hother with rfl | hother
    · exact seen_after (P := fun o => o = none ∨ o = recordOf t other) hrest hvisit.seen
        (hrest.seen other)
    · exact hrest.seen other hother
  · intro other hother
    rw [List.mem_cons, not_or] at hother
    have hfirst := hsame other hother.1
    have hlater := hrest.others other hother.2
    exact hfirst.trans hlater

theorem Complete.nil (t : Tree) (p : Progress) : Complete t [] p p :=
  ⟨by simp, by simp, by simp⟩

theorem Complete.cons (hvisit : Visit t path p.result q)
    (hgone : ∀ f, t.modifiedMillis path = .error f → recordOf t path = none)
    (hsound : Sound t paths q r) (hrest : Complete t paths q r) :
    Complete t (path :: paths) p r := by
  have hseen : ∀ record, recordOf t path = record → q.cache.sources.get? path = record →
      ∀ other ∈ path :: paths, r.cache.sources.get? other = recordOf t other := by
    intro record hrecord hkept other hother
    rcases List.mem_cons.mp hother with rfl | hother
    · exact seen_after (P := (· = recordOf t other)) hsound (hkept.trans hrecord.symm)
        (hrest.seen other)
    · exact hrest.seen other hother
  cases hvisit with
  | found record hrecord hrecords hmissing hfailed hkept =>
      refine ⟨?_, ?_, hseen _ hrecord hkept⟩
      · rw [hrest.records, hrecords, List.filterMap_cons_some hrecord, List.append_assoc,
          List.map_cons, List.singleton_append]
      · intro other
        rw [hrest.absent, hmissing, hfailed]
        grind
  | failed hrecord hrecords hmissing hfailed hforgotten =>
      refine ⟨?_, ?_, hseen _ hrecord hforgotten⟩
      · rw [hrest.records, hrecords, List.filterMap_cons_none hrecord]
      · intro other
        rw [hrest.absent, hmissing, hfailed]
        grind
  | gone f htime hrecords hmissing hfailed hforgotten =>
      have hrecord := hgone f htime
      refine ⟨?_, ?_, hseen _ hrecord hforgotten⟩
      · rw [hrest.records, hrecords, List.filterMap_cons_none hrecord]
      · intro other
        rw [hrest.absent, hmissing, hfailed]
        grind

/-- The records of a whole batch. -/
theorem Complete.records_start {c : SourceCache} (h : Complete t paths (.start c) q) :
    q.result.records = (paths.filterMap (recordOf t)).map fun r => ⟨r, none⟩ := h.records

/-- A record of a whole batch is one that extraction gives. -/
theorem Complete.mem_records {c : SourceCache} (h : Complete t paths (.start c) q)
    {e : Extraction} (he : e ∈ q.result.records) :
    e.record.path ∈ paths ∧ recordOf t e.record.path = some e.record ∧ e.tree = none := by
  rw [h.records_start] at he
  obtain ⟨r, hr, rfl⟩ := List.mem_map.mp he
  obtain ⟨path, hpath, hrecord⟩ := List.mem_filterMap.mp hr
  cases path_of_recordOf hrecord
  exact ⟨hpath, hrecord, rfl⟩

/-- The paths that a whole batch leaves out are those without a record. -/
theorem Complete.absent_start {c : SourceCache} (h : Complete t paths (.start c) q)
    (path : Text) :
    (path ∈ q.result.missing ∨ path ∈ q.result.failed) ↔
      path ∈ paths ∧ path ∉ q.result.records.map fun e => e.record.path := by
  have hstart : ¬ (path ∈ (Progress.start c).result.missing ∨
      path ∈ (Progress.start c).result.failed) := by
    rintro (hmem | hmem) <;> cases hmem
  rw [h.absent, or_iff_right hstart]
  refine and_congr_right fun hpath => ?_
  constructor
  · intro hnone hmem
    obtain ⟨e, he, rfl⟩ := List.mem_map.mp hmem
    rw [(h.mem_records he).2.1] at hnone
    cases hnone
  · intro hout
    cases hr : recordOf t path with
    | none => rfl
    | some r =>
        have hmem : (⟨r, none⟩ : Extraction) ∈ q.result.records := by
          rw [h.records_start]
          exact List.mem_map_of_mem (List.mem_filterMap.mpr ⟨path, hpath, hr⟩)
        exact absurd (List.mem_map.mpr ⟨_, hmem, path_of_recordOf hr⟩) hout

end visits

/-- The visits of a batch that comes to its end. -/
theorem sound_of_visitAll {t : Tree} {paths : List Text} {p : Progress}
    (hacc : ∀ path ∈ paths, Accurate t p.cache path)
    (h : (p.visitAll true (paths.map fun path => (path, Sight.ofTree t false))).fault = none) :
    Sound t paths p (p.visitAll true (paths.map fun path => (path, Sight.ofTree t false))) ∧
      ((∀ path ∈ paths, ∀ f, t.modifiedMillis path = .error f → recordOf t path = none) →
        Complete t paths p
          (p.visitAll true (paths.map fun path => (path, Sight.ofTree t false)))) := by
  induction paths generalizing p with
  | nil => exact ⟨.nil t p, fun _ => .nil t p⟩
  | cons path rest ih =>
      rw [List.map_cons, Progress.visitAll] at h ⊢
      cases hfault : (p.visit true (Sight.ofTree t false) path).fault with
      | some f =>
          simp only [hfault] at h
          cases h
      | none =>
          simp only [hfault] at h ⊢
          have hvisit := visit_of_visit (hacc path List.mem_cons_self) hfault
          have hsame : ∀ other, other ≠ path →
              SameFor p.cache (p.visit true (Sight.ofTree t false) path).cache other :=
            fun other ho => sameFor_visit true p _ ho
          have haccrest : ∀ other ∈ rest,
              Accurate t (p.visit true (Sight.ofTree t false) path).cache other := by
            intro other hother
            by_cases ho : other = path
            · subst ho
              exact accurate_of_recordOf hvisit.seen
            · exact (hsame other ho).accurate (hacc other (List.mem_cons_of_mem path hother))
          obtain ⟨hsound, hcomplete⟩ := ih haccrest h
          refine ⟨.cons hvisit hsame hsound, fun hgone => ?_⟩
          exact .cons hvisit (hgone path List.mem_cons_self) hsound
            (hcomplete fun other hother => hgone other (List.mem_cons_of_mem path hother))

/-- A batch over one tree through a cache that is accurate for its paths is sound, and it
is complete if paths that lead nowhere have no record. -/
theorem sound_of_scanSources {t : Tree} {paths : List Text} {c : SourceCache}
    (hacc : ∀ path ∈ paths, Accurate t c path)
    (h : (scanSources t false true c paths).fault = none) :
    Sound t paths (.start c) (scanSources t false true c paths) ∧
      ((∀ path ∈ paths, ∀ f, t.modifiedMillis path = .error f → recordOf t path = none) →
        Complete t paths (.start c) (scanSources t false true c paths)) := by
  unfold scanSources scanSeen Progress.finish at h ⊢
  cases hfault : ((Progress.start c).visitAll true
      (paths.map fun path => (path, Sight.ofTree t false))).fault with
  | some f =>
      simp only [hfault] at h
      cases h
  | none =>
      -- the report at the end changes neither the result nor the cache
      obtain ⟨hsound, hcomplete⟩ := sound_of_visitAll hacc hfault
      simp only
      refine ⟨⟨hsound.records, hsound.seen, hsound.others⟩, fun hgone => ?_⟩
      have hall := hcomplete hgone
      exact ⟨hall.records, hall.absent, hall.seen⟩

/-! ## Fresh records -/

/-- A visit keeps the records that are there. -/
theorem mem_records_visit (skipErrors : Bool) (p : Progress) (sight : Sight) (path : Text)
    {e : Extraction} (he : e ∈ p.result.records) :
    e ∈ (p.visit skipErrors sight path).result.records := by
  have hextract : ∀ p' : Progress, e ∈ p'.result.records →
      e ∈ (p'.extract skipErrors path (sight.extract path)).result.records := by
    intro p' hp'
    unfold Progress.extract
    split
    · exact List.mem_append_left _ hp'
    · split
      · exact hp'
      · exact hp'
    · exact hp'
  unfold Progress.visit
  split
  · split
    · exact he
    · exact he
  · exact List.mem_append_left _ he
  · exact hextract _ he

theorem mem_records_visitAll (skipErrors : Bool) {p : Progress} (sources : List (Text × Sight))
    {e : Extraction} (he : e ∈ p.result.records) :
    e ∈ (p.visitAll skipErrors sources).result.records := by
  induction sources generalizing p with
  | nil => exact he
  | cons source rest ih =>
      obtain ⟨path, sight⟩ := source
      have hvisit := mem_records_visit skipErrors p sight path he
      rw [Progress.visitAll]
      cases (p.visit skipErrors sight path).fault with
      | some f => exact hvisit
      | none => exact ih hvisit

theorem mem_records_visitAll_of_fresh {t : Tree} {skipErrors : Bool} {p : Progress}
    {paths : List Text} {path : Text} {r : Record} {time : Int} (hpath : path ∈ paths)
    (hr : p.cache.sources.get? path = some r) (htime : t.modifiedMillis path = .ok time)
    (hfresh : p.cache.isFresh path time = true)
    (h :
      (p.visitAll skipErrors (paths.map fun path => (path, Sight.ofTree t false))).fault = none) :
    ⟨r, none⟩ ∈ (p.visitAll skipErrors
      (paths.map fun path => (path, Sight.ofTree t false))).result.records := by
  induction paths generalizing p with
  | nil => cases hpath
  | cons first rest ih =>
      rw [List.map_cons, Progress.visitAll] at h ⊢
      cases hvisited : (p.visit skipErrors (Sight.ofTree t false) first).fault with
      | some f =>
          simp only [hvisited] at h
          cases h
      | none =>
          simp only [hvisited] at h ⊢
          by_cases hfirst : path = first
          · subst hfirst
            refine mem_records_visitAll skipErrors _ ?_
            have hget : p.cache.get path (t.modifiedMillis path) = .ok (some r, p.cache) := by
              simp only [SourceCache.get, hr, htime, hfresh, if_true]
            simp only [Progress.visit, Sight.ofTree, hget]
            exact List.mem_append_right _ List.mem_cons_self
          · -- the path is still fresh after another one
            have hsame := sameFor_visit skipErrors p (Sight.ofTree t false) hfirst
            have hrest : path ∈ rest := (List.mem_cons.mp hpath).resolve_left hfirst
            refine ih hrest (hsame.1.trans hr) ?_ h
            rw [SourceCache.isFresh, hsame.2]
            exact hfresh

/-- A batch that comes to its end reports every record that is fresh at its start, whether
or not the record is right. -/
theorem mem_records_of_fresh {t : Tree} {skipErrors : Bool} {c : SourceCache}
    {paths : List Text} {path : Text} {r : Record} {time : Int} (hpath : path ∈ paths)
    (hr : c.sources.get? path = some r) (htime : t.modifiedMillis path = .ok time)
    (hfresh : c.isFresh path time = true)
    (h : (scanSources t false skipErrors c paths).fault = none) :
    ⟨r, none⟩ ∈ (scanSources t false skipErrors c paths).result.records := by
  unfold scanSources scanSeen Progress.finish at h ⊢
  cases hfault : ((Progress.start c).visitAll skipErrors
      (paths.map fun path => (path, Sight.ofTree t false))).fault with
  | some f =>
      simp only [hfault] at h
      cases h
  | none => exact mem_records_visitAll_of_fresh hpath hr htime hfresh hfault

end GoogIndex.Scan
