/-
  Proofs/Scan/Accounting.lean --- how a batch ends for every occurrence of a path.

  Normative source: SPEC_FULL §4.4, `scan_sources` and `ScanResult`.

  A batch may come by a path more than once, and storage may change in between.  Each time
  it ends in one of four ways: there is a fresh record, the record is extracted, the file is
  missing, or its extraction fails.  The result lists the occurrences of each kind in their
  order, and its counters count them.

  What the cache holds for a path in the end is decided by the path's last occurrence.  A
  record that is fresh then was there from the start, because no step gives a path a time:
  once a record is extracted for a path, no later occurrence of it is a hit.
-/
import GoogIndex.Proofs.Cache.Keys
import GoogIndex.Proofs.Scan.Batch

set_option autoImplicit false

namespace GoogIndex.Scan

open GoogIndex.Cache GoogIndex.Storage

/-! ## Endings -/

/-- How a batch ends for one occurrence of a path. -/
inductive Ending where
  /-- there is a fresh record -/
  | hit (r : Record)
  /-- nothing is fresh, and the record is extracted -/
  | extracted (e : Extraction)
  /-- there is a record, but the file is gone -/
  | missing
  /-- nothing is fresh, and extraction fails -/
  | failed
  deriving DecidableEq, Repr, Inhabited

/-- The result with one more occurrence of a path. -/
def Result.close (r : Result) (path : Text) : Ending → Result
  | .hit record => { r with records := r.records ++ [⟨record, none⟩], hits := r.hits + 1 }
  | .extracted e => { r with records := r.records ++ [e], misses := r.misses + 1 }
  | .missing => { r with missing := r.missing ++ [path] }
  | .failed => { r with misses := r.misses + 1, failed := r.failed ++ [path] }

namespace Ending

/-- The record that goes into the result. -/
def record? : Ending → Option Extraction
  | .hit r => some ⟨r, none⟩
  | .extracted e => some e
  | .missing => none
  | .failed => none

/-- Whether there is a fresh record. -/
def isHit : Ending → Bool
  | .hit _ => true
  | _ => false

/-- Whether the path is one of the missing ones. -/
def isMissing : Ending → Bool
  | .missing => true
  | _ => false

/-- Whether the path is one of the failed ones. -/
def isFailed : Ending → Bool
  | .failed => true
  | _ => false

/-- The ending that an extraction leads to, unless it ends the batch. -/
def ofExtraction? (skipErrors : Bool) : Except ExtractionFault Extraction → Option Ending
  | .ok e => some (.extracted e)
  | .error (.failed _) => if skipErrors then some .failed else none
  | .error (.broken _) => none

/-- How a batch with this cache ends for a path, unless the path ends the batch. -/
def of? (skipErrors : Bool) (c : SourceCache) (sight : Sight) (path : Text) : Option Ending :=
  match (c.get path (sight.modified path)).map (·.1) with
  | .error f => if Progress.isGone f then some .missing else none
  | .ok (some r) => some (.hit r)
  | .ok none => ofExtraction? skipErrors (sight.extract path).outcome

section lookups

variable {skipErrors : Bool} {c : SourceCache} {sight : Sight} {path : Text} {r : Record}

theorem of?_of_absent (hr : c.sources.get? path = none) :
    of? skipErrors c sight path = ofExtraction? skipErrors (sight.extract path).outcome := by
  simp [of?, SourceCache.get, hr, Except.map]

theorem of?_of_error (hr : c.sources.get? path = some r) {f : Fault}
    (hm : sight.modified path = .error f) :
    of? skipErrors c sight path = if Progress.isGone f then some .missing else none := by
  simp [of?, SourceCache.get, hr, hm, Except.map]

theorem of?_of_fresh (hr : c.sources.get? path = some r) {time : Int}
    (hm : sight.modified path = .ok time) (hfresh : c.isFresh path time = true) :
    of? skipErrors c sight path = some (.hit r) := by
  simp [of?, SourceCache.get, hr, hm, hfresh, Except.map]

theorem of?_of_stale (hr : c.sources.get? path = some r) {time : Int}
    (hm : sight.modified path = .ok time) (hstale : c.isFresh path time = false) :
    of? skipErrors c sight path = ofExtraction? skipErrors (sight.extract path).outcome := by
  simp [of?, SourceCache.get, hr, hm, hstale, Except.map]

end lookups

/-- What storage and the cache say about a path that ends this way. -/
def Told (skipErrors : Bool) (c : SourceCache) (sight : Sight) (path : Text) : Ending → Prop
  | .hit r => c.sources.get? path = some r ∧
      ∃ time, sight.modified path = .ok time ∧ c.isFresh path time = true
  | .extracted e => (sight.extract path).outcome = .ok e
  | .missing => ∃ f, sight.modified path = .error f ∧ Progress.isGone f = true
  | .failed => skipErrors = true ∧ ∃ f, (sight.extract path).outcome = .error (.failed f)

/-- What the cache `c'` holds for a path after an ending, if the batch started with `c`: a
hit keeps the record and its time, an extracted record has no time, and otherwise there is
nothing. -/
def Left (c c' : SourceCache) (path : Text) : Ending → Prop
  | .hit r => c'.sources.get? path = some r ∧ c'.stamps.has path = true ∧ SameFor c c' path
  | .extracted e => c'.sources.get? path = some e.record ∧ c'.stamps.get? path = none
  | .missing => c'.sources.get? path = none ∧ c'.stamps.get? path = none
  | .failed => c'.sources.get? path = none ∧ c'.stamps.get? path = none

section endings

variable {skipErrors : Bool} {c c' d d' : SourceCache} {sight : Sight} {path : Text} {e : Ending}

/-- An ending depends on what the cache holds for the path. -/
theorem of?_congr (h : SameFor c c' path) :
    of? skipErrors c' sight path = of? skipErrors c sight path := by
  unfold of?
  rw [h.answer]

/-- What the cache says about a path counts only for a hit, where the path has a time. -/
theorem Told.of_stamp (h : e.Told skipErrors c sight path)
    (hsame : c.stamps.has path = true → SameFor d c path) : e.Told skipErrors d sight path := by
  cases e with
  | hit r =>
      obtain ⟨hr, time, htime, hfresh⟩ := h
      obtain ⟨s, hs, _⟩ := SourceCache.isFresh_iff.mp hfresh
      have hkept := hsame (by simp [Table.has, hs])
      refine ⟨hkept.1.symm.trans hr, time, htime, ?_⟩
      rwa [SourceCache.isFresh, ← hkept.2]
  | extracted e => exact h
  | missing => exact h
  | failed => exact h

/-- What is left for a path stays if nothing later touches it. -/
theorem Left.congr (h : e.Left c c' path) (hsame : SameFor c' d' path) : e.Left c d' path := by
  cases e with
  | hit r =>
      obtain ⟨hr, hs, hkept⟩ := h
      refine ⟨hsame.1.trans hr, ?_, hsame.1.trans hkept.1, hsame.2.trans hkept.2⟩
      rwa [Table.has, hsame.2]
  | extracted e => exact ⟨hsame.1.trans h.1, hsame.2.trans h.2⟩
  | missing => exact ⟨hsame.1.trans h.1, hsame.2.trans h.2⟩
  | failed => exact ⟨hsame.1.trans h.1, hsame.2.trans h.2⟩

/-- A path that has a time afterwards was hit, so nothing has changed for it. -/
theorem Left.sameFor (h : e.Left c c' path) (hs : c'.stamps.has path = true) :
    SameFor c c' path := by
  cases e with
  | hit r => exact h.2.2
  | extracted e => simp [Table.has, h.2] at hs
  | missing => simp [Table.has, h.2] at hs
  | failed => simp [Table.has, h.2] at hs

/-- The start of the batch counts only for a hit, where the path has a time. -/
theorem Left.of_stamp (h : e.Left c c' path)
    (hsame : c'.stamps.has path = true → SameFor d c' path) : e.Left d c' path := by
  cases e with
  | hit r => exact ⟨h.1, h.2.1, hsame h.2.1⟩
  | extracted e => exact h
  | missing => exact h
  | failed => exact h

/-- The same ending leaves the same for the path. -/
theorem Left.unique (h : e.Left c c' path) (h' : e.Left c d' path) : SameFor c' d' path := by
  cases e with
  | hit r => exact ⟨h'.1.trans h.1.symm, h'.2.2.2.trans h.2.2.2.symm⟩
  | extracted e => exact ⟨h'.1.trans h.1.symm, h'.2.trans h.2.symm⟩
  | missing => exact ⟨h'.1.trans h.1.symm, h'.2.trans h.2.symm⟩
  | failed => exact ⟨h'.1.trans h.1.symm, h'.2.trans h.2.symm⟩

end endings

end Ending

/-! ## One visit -/

section visit

variable {skipErrors : Bool} {p : Progress} {sight : Sight} {path : Text} {e : Ending}

/-- What a visit makes of a batch, if it ends this way for the path. -/
structure Closes (skipErrors : Bool) (sight : Sight) (path : Text) (p q : Progress)
    (e : Ending) : Prop where
  fault : q.fault = p.fault
  result : q.result = p.result.close path e
  told : e.Told skipErrors p.cache sight path
  left : e.Left p.cache q.cache path

theorem paired_visit (hc : p.cache.Paired) (skipErrors : Bool) (sight : Sight) (path : Text) :
    (p.visit skipErrors sight path).cache.Paired := by
  rw [Progress.cache_visit]
  exact SourceCache.paired_foldl hc _

/-- An extraction for a path of which nothing is held. -/
theorem closes_of_extract {p' : Progress} (hfault : p'.fault = p.fault)
    (hresult : p'.result = p.result) (hrecord : p'.cache.sources.get? path = none)
    (hstamp : p'.cache.stamps.get? path = none)
    (h : Ending.ofExtraction? skipErrors (sight.extract path).outcome = some e) :
    Closes skipErrors sight path p (p'.extract skipErrors path (sight.extract path)) e := by
  unfold Progress.extract
  cases he : (sight.extract path).outcome with
  | ok extraction =>
      rw [he] at h
      cases h
      exact ⟨hfault, by simp [Progress.store, Result.close, hresult], he,
        SourceCache.get?_sources_set_self p'.cache path extraction.record, hstamp⟩
  | error f =>
      rw [he] at h
      cases f with
      | broken b => cases h
      | failed failure =>
          cases skipErrors with
          | false => cases h
          | true =>
              cases h
              exact ⟨hfault, by simp [Progress.leaveOut, Result.close, hresult],
                ⟨rfl, failure, he⟩, hrecord, hstamp⟩

/-- A visit does for a path what its ending says. -/
theorem closes_of_visit (hc : p.cache.Paired)
    (h : Ending.of? skipErrors p.cache sight path = some e) :
    Closes skipErrors sight path p (p.visit skipErrors sight path) e := by
  have hremoved := SourceCache.get?_sources_remove_self p.cache path
  have hunstamped := SourceCache.get?_stamps_remove_self p.cache path
  rcases p.visit_cases skipErrors sight path with
    ⟨hr, hq⟩ | ⟨r, f, hr, hm, hgone, hq⟩ | ⟨r, f, hr, hm, hgone, hq⟩ |
    ⟨r, time, hr, hm, hfresh, hq⟩ | ⟨r, time, hr, hm, hstale, hq⟩ <;> rw [hq]
  · rw [Ending.of?_of_absent hr] at h
    exact closes_of_extract rfl rfl hr (hc.stamp_eq_none hr) h
  · rw [Ending.of?_of_error hr hm, if_pos hgone] at h
    cases h
    exact ⟨rfl, rfl, ⟨f, hm, hgone⟩, hremoved, hunstamped⟩
  · rw [Ending.of?_of_error hr hm, if_neg (by simp [hgone])] at h
    cases h
  · rw [Ending.of?_of_fresh hr hm hfresh] at h
    cases h
    obtain ⟨s, hs, _⟩ := SourceCache.isFresh_iff.mp hfresh
    exact ⟨rfl, rfl, ⟨hr, time, hm, hfresh⟩, hr, by simp [Progress.hit, Table.has, hs], rfl, rfl⟩
  · rw [Ending.of?_of_stale hr hm hstale] at h
    exact closes_of_extract rfl rfl hremoved hunstamped h

/-- A visit after which the path, or any other, has a time changes nothing for it. -/
theorem sameFor_visit_of_stamp (hc : p.cache.Paired)
    (h : Ending.of? skipErrors p.cache sight path = some e) {other : Text}
    (hs : (p.visit skipErrors sight path).cache.stamps.has other = true) :
    SameFor p.cache (p.visit skipErrors sight path).cache other := by
  by_cases hother : other = path
  · subst hother
    exact (closes_of_visit hc h).left.sameFor hs
  · exact sameFor_visit skipErrors p sight hother

theorem fault_of_extract {p' : Progress}
    (h : Ending.ofExtraction? skipErrors (sight.extract path).outcome = none) :
    (p'.extract skipErrors path (sight.extract path)).fault ≠ none := by
  unfold Progress.extract
  cases he : (sight.extract path).outcome with
  | ok extraction =>
      rw [he] at h
      cases h
  | error f =>
      rw [he] at h
      cases f with
      | broken b => simp
      | failed failure =>
          cases skipErrors with
          | false => simp
          | true => cases h

/-- A visit without an ending ends the batch. -/
theorem fault_of_visit (h : Ending.of? skipErrors p.cache sight path = none) :
    (p.visit skipErrors sight path).fault ≠ none := by
  rcases p.visit_cases skipErrors sight path with
    ⟨hr, hq⟩ | ⟨r, f, hr, hm, hgone, hq⟩ | ⟨r, f, hr, hm, hgone, hq⟩ |
    ⟨r, time, hr, hm, hfresh, hq⟩ | ⟨r, time, hr, hm, hstale, hq⟩ <;> rw [hq]
  · rw [Ending.of?_of_absent hr] at h
    exact fault_of_extract h
  · rw [Ending.of?_of_error hr hm, if_pos hgone] at h
    cases h
  · exact Option.some_ne_none _
  · rw [Ending.of?_of_fresh hr hm hfresh] at h
    cases h
  · rw [Ending.of?_of_stale hr hm hstale] at h
    exact fault_of_extract h

end visit

/-! ## The course of a batch -/

/-- One occurrence of a path in a batch: what it sees, and how it ends. -/
structure Occurrence where
  path : Text
  sight : Sight
  ending : Ending

/-- The source that the batch was given. -/
def Occurrence.source (o : Occurrence) : Text × Sight := (o.path, o.sight)

/-- The paths with the sight that they all have. -/
def seenBy (sight : Sight) (paths : List Text) : List (Text × Sight) :=
  paths.map fun path => (path, sight)

theorem paths_of_seenBy {course : List Occurrence} {sight : Sight} {paths : List Text}
    (h : course.map Occurrence.source = seenBy sight paths) :
    course.map Occurrence.path = paths ∧ ∀ o ∈ course, o.sight = sight := by
  constructor
  · have hfirst := congrArg (List.map Prod.fst) h
    simpa [seenBy, Occurrence.source, Function.comp_def] using hfirst
  · intro o ho
    have hmem : o.source ∈ seenBy sight paths := h ▸ List.mem_map_of_mem ho
    obtain ⟨path, -, hsource⟩ := List.mem_map.mp hmem
    exact (congrArg Prod.snd hsource).symm

/-- The result after the occurrences of a course. -/
def Result.closeAll (r : Result) (course : List Occurrence) : Result :=
  course.foldl (fun r o => r.close o.path o.ending) r

/-- The occurrences that lead a batch from one state to another, in their order.  None of them
ends it. -/
inductive Course (skipErrors : Bool) : Progress → List Occurrence → Progress → Prop where
  | done (p : Progress) : Course skipErrors p [] p
  | step {p q : Progress} {o : Occurrence} {rest : List Occurrence}
      (first : Ending.of? skipErrors p.cache o.sight o.path = some o.ending)
      (more : Course skipErrors (p.visit skipErrors o.sight o.path) rest q) :
      Course skipErrors p (o :: rest) q

section course

variable {skipErrors : Bool} {p q : Progress} {course : List Occurrence}

/-- A batch that comes to its end takes a course through all of its sources. -/
theorem exists_course {sources : List (Text × Sight)} (hc : p.cache.Paired)
    (h : (p.visitAll skipErrors sources).fault = none) :
    ∃ course, course.map Occurrence.source = sources ∧
      Course skipErrors p course (p.visitAll skipErrors sources) := by
  induction sources generalizing p with
  | nil => exact ⟨[], rfl, .done p⟩
  | cons source rest ih =>
      obtain ⟨path, sight⟩ := source
      rw [Progress.visitAll] at h ⊢
      cases he : Ending.of? skipErrors p.cache sight path with
      | none =>
          obtain ⟨f, hf⟩ := Option.ne_none_iff_exists'.mp (fault_of_visit he)
          simp [hf] at h
      | some e =>
          cases hfault : (p.visit skipErrors sight path).fault with
          | some f => simp [hfault] at h
          | none =>
              simp only [hfault] at h ⊢
              obtain ⟨course, hsources, hcourse⟩ := ih (paired_visit hc skipErrors sight path) h
              exact ⟨⟨path, sight, e⟩ :: course, by simp [Occurrence.source, hsources],
                .step he hcourse⟩

/-- A course counts its occurrences one by one. -/
theorem Course.result (h : Course skipErrors p course q) (hc : p.cache.Paired) :
    q.result = p.result.closeAll course := by
  induction h with
  | done p => rfl
  | @step p q o rest first more ih =>
      rw [Result.closeAll, List.foldl_cons, ← (closes_of_visit hc first).result]
      exact ih (paired_visit hc skipErrors o.sight o.path)

/-- A course leaves the cache alone for paths that do not occur in it. -/
theorem Course.others (h : Course skipErrors p course q) {path : Text}
    (hpath : path ∉ course.map Occurrence.path) : SameFor p.cache q.cache path := by
  induction h with
  | done p => exact ⟨rfl, rfl⟩
  | @step p q o rest first more ih =>
      rw [List.map_cons, List.mem_cons, not_or] at hpath
      exact (sameFor_visit skipErrors p o.sight hpath.1).trans (ih hpath.2)

/-- A path that has a time at the end of a course was hit at each of its occurrences. -/
theorem Course.sameFor_of_stamp (h : Course skipErrors p course q) (hc : p.cache.Paired)
    {path : Text} (hs : q.cache.stamps.has path = true) : SameFor p.cache q.cache path := by
  induction h with
  | done p => exact ⟨rfl, rfl⟩
  | @step p q o rest first more ih =>
      have hrest := ih (paired_visit hc skipErrors o.sight o.path) hs
      refine (sameFor_visit_of_stamp hc first ?_).trans hrest
      rwa [Table.has, ← hrest.2]

/-- What storage and the cache say at each occurrence.  The record of a hit is the one at the
start of the course. -/
theorem Course.told (h : Course skipErrors p course q) (hc : p.cache.Paired) {o : Occurrence}
    (ho : o ∈ course) : o.ending.Told skipErrors p.cache o.sight o.path := by
  induction h with
  | done p => cases ho
  | @step p q first rest hfirst more ih =>
      rcases List.mem_cons.mp ho with rfl | ho
      · exact (closes_of_visit hc hfirst).told
      · exact (ih (paired_visit hc skipErrors first.sight first.path) ho).of_stamp
          (sameFor_visit_of_stamp hc hfirst)

/-- The last occurrence of a path decides what the cache holds for it. -/
theorem Course.left (h : Course skipErrors p course q) (hc : p.cache.Paired)
    {before after : List Occurrence} {o : Occurrence} (hsplit : course = before ++ o :: after)
    (hlast : o.path ∉ after.map Occurrence.path) : o.ending.Left p.cache q.cache o.path := by
  induction h generalizing before with
  | done p => simp at hsplit
  | @step p q first rest hfirst more ih =>
      cases before with
      | nil =>
          cases hsplit
          exact (closes_of_visit hc hfirst).left.congr (more.others hlast)
      | cons b before =>
          obtain ⟨rfl, hrest⟩ := List.cons.inj hsplit
          exact (ih (paired_visit hc skipErrors first.sight first.path) hrest).of_stamp
            ((Course.step hfirst more).sameFor_of_stamp hc)

end course

/-! ## What the result of a course is -/

section counts

variable (r : Result) (course : List Occurrence)

/-- Each list of a result has the occurrences of its kind, in their order. -/
theorem Result.lists_closeAll :
    (r.closeAll course).records = r.records ++ course.filterMap (fun o => o.ending.record?) ∧
    (r.closeAll course).missing =
      r.missing ++ (course.filter fun o => o.ending.isMissing).map Occurrence.path ∧
    (r.closeAll course).failed =
      r.failed ++ (course.filter fun o => o.ending.isFailed).map Occurrence.path := by
  induction course generalizing r with
  | nil => simp [Result.closeAll]
  | cons o rest ih =>
      obtain ⟨hrecords, hmissing, hfailed⟩ := ih (r.close o.path o.ending)
      rw [Result.closeAll, List.foldl_cons, ← Result.closeAll, hrecords, hmissing, hfailed]
      cases he : o.ending <;>
        simp [Result.close, he, Ending.record?, Ending.isMissing, Ending.isFailed]

/-- The counters of a result count the occurrences. -/
theorem Result.counts_closeAll :
    (r.closeAll course).hits = r.hits + course.countP (fun o => o.ending.isHit) ∧
    (r.closeAll course).hits + (r.closeAll course).misses + (r.closeAll course).missing.length =
      r.hits + r.misses + r.missing.length + course.length ∧
    (r.closeAll course).records.length + (r.closeAll course).failed.length + (r.hits + r.misses) =
      (r.closeAll course).hits + (r.closeAll course).misses +
        (r.records.length + r.failed.length) := by
  induction course generalizing r with
  | nil => simp [Result.closeAll, Nat.add_comm]
  | cons o rest ih =>
      obtain ⟨hhits, hall, hrecords⟩ := ih (r.close o.path o.ending)
      rw [Result.closeAll, List.foldl_cons, ← Result.closeAll]
      cases he : o.ending <;>
        simp [Result.close, he, Ending.isHit] at hhits hall hrecords ⊢ <;> omega

end counts

/-! ## The account of a batch -/

/-- A whole batch that comes to its end takes a course from its cache. -/
theorem exists_course_of_scanSeen {skipErrors : Bool} {c : SourceCache}
    {sources : List (Text × Sight)} (hc : c.Paired)
    (h : (scanSeen skipErrors c sources).fault = none) :
    ∃ course q, course.map Occurrence.source = sources ∧ Course skipErrors (.start c) course q ∧
      (scanSeen skipErrors c sources).cache = q.cache ∧
      (scanSeen skipErrors c sources).result = Result.start.closeAll course := by
  rw [scanSeen, Progress.fault_finish] at h
  obtain ⟨course, hsources, hcourse⟩ := exists_course (p := .start c) hc h
  exact ⟨course, _, hsources, hcourse, Progress.cache_finish _,
    (Progress.result_finish _).trans (hcourse.result hc)⟩

/-- A batch that comes to its end accounts for every occurrence of every path.  Take any cache
that calls lead to, any sources, each seen at a moment of its own, and any extractions.  Each
occurrence ends in one way, for the reason that storage and the cache give: the records, the
missing paths and the failed ones are the occurrences of their kind, in the order in which they
were given, and the counters add up.  Afterwards the last occurrence of a path decides what the
cache holds for it, and for all other paths it holds what it held before. -/
theorem accounts_of_scanSeen (start : Tree) (file : Text) (calls : List Call)
    (skipErrors : Bool) (sources : List (Text × Sight)) :
    let c := (SourceCache.load start file).outcome.afterAll calls
    let p := scanSeen skipErrors c sources
    p.fault = none →
    ∃ course : List Occurrence,
      course.map Occurrence.source = sources ∧
      (∀ o ∈ course, o.ending.Told skipErrors c o.sight o.path) ∧
      p.result.records = course.filterMap (fun o => o.ending.record?) ∧
      p.result.missing = (course.filter fun o => o.ending.isMissing).map Occurrence.path ∧
      p.result.failed = (course.filter fun o => o.ending.isFailed).map Occurrence.path ∧
      p.result.hits = course.countP (fun o => o.ending.isHit) ∧
      p.result.hits + p.result.misses + p.result.missing.length = sources.length ∧
      p.result.records.length + p.result.failed.length = p.result.hits + p.result.misses ∧
      (∀ before o after, course = before ++ o :: after →
        o.path ∉ after.map Occurrence.path → o.ending.Left c p.cache o.path) ∧
      ∀ path, path ∉ sources.map (·.1) → SameFor c p.cache path := by
  intro c p hfault
  have hc : c.Paired := SourceCache.paired_afterAll start file calls
  obtain ⟨course, q, hsources, hcourse, hcache, hresult⟩ := exists_course_of_scanSeen hc hfault
  have hlists := Result.lists_closeAll .start course
  have hcounts := Result.counts_closeAll .start course
  have hlength : course.length = sources.length := by rw [← hsources, List.length_map]
  have hpaths : sources.map (·.1) = course.map Occurrence.path := by
    rw [← hsources, List.map_map]
    rfl
  rw [← hresult] at hlists hcounts
  simp only [Result.start, List.nil_append, List.length_nil, Nat.zero_add, Nat.add_zero]
    at hlists hcounts
  rw [show p.cache = q.cache from hcache, hpaths, ← hlength]
  refine ⟨course, hsources, fun o ho => hcourse.told hc ho, hlists.1, hlists.2.1, hlists.2.2,
    hcounts.1, hcounts.2.1, hcounts.2.2, ?_, fun path hpath => hcourse.others hpath⟩
  exact fun before o after hsplit hlast => hcourse.left hc hsplit hlast

/-- A cache file with an entry for one path. -/
def countedTree : Tree :=
  let entry := "\x7b\"modifiedDates\": 5, \"provides\": [], \"requires\": []\x7d"
  ⟨⟨0o755, 0⟩,
    .file "c.json" ⟨0o644, 0⟩ ("\x7b\"a\": " ++ entry ++ "\x7d").toUTF8.toList .empty,
    [], 0, 0o022⟩

/-- A source at a moment: its time, and what extraction gives. -/
def glimpse (modified : Except Fault Int) (outcome : Except ExtractionFault Extraction) : Sight :=
  ⟨fun _ => modified, fun _ => ⟨outcome, []⟩⟩

/-- The path with the entry is hit once, then extracted since it has another time, and gone at
its last occurrence; the other path is extracted, and fails at its last occurrence. -/
def countedSources : List (Text × Sight) :=
  let a : Extraction := ⟨⟨"a", ["a"], [], false⟩, none⟩
  let b : Extraction := ⟨⟨"b", ["b"], [], true⟩, none⟩
  let folder : Fault := .refused ⟨.isFolder, ["b"]⟩
  [("a", glimpse (.ok 5) (.ok a)), ("b", glimpse (.ok 1) (.ok b)), ("a", glimpse (.ok 6) (.ok a)),
    ("b", glimpse (.ok 1) (.error (.failed ⟨"b", .unreadable (.access folder)⟩))),
    ("a", glimpse (refuse .missing "a") (.ok a))]

theorem accounts_of_scanSeen_sample :
    let c := (SourceCache.load countedTree "c.json").outcome.afterAll []
    let p := scanSeen true c countedSources
    p.fault = none ∧ p.result.missing = [("a" : Text)] ∧ p.result.failed = [("b" : Text)] ∧
    ∃ course : List Occurrence,
      course.map Occurrence.source = countedSources ∧
      p.result.records = course.filterMap (fun o => o.ending.record?) ∧
      (∀ before o after, course = before ++ o :: after →
        o.path ∉ after.map Occurrence.path → o.ending.Left c p.cache o.path) := by
  intro c p
  have hfault : p.fault = none := by with_unfolding_all rfl
  obtain ⟨course, hsources, _, hrecords, _, _, _, _, _, hleft, _⟩ :=
    accounts_of_scanSeen countedTree "c.json" [] true countedSources hfault
  exact ⟨hfault, by with_unfolding_all rfl, by with_unfolding_all rfl, course, hsources, hrecords,
    hleft⟩

end GoogIndex.Scan
