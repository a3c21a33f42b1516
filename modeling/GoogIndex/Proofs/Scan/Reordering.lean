/-
  Proofs/Scan/Reordering.lean --- the order of different paths does not matter.

  Normative source: SPEC_FULL §4.4, `scan_sources`.

  A visit touches nothing that the cache holds for other paths.  So if no path comes twice and
  all are seen in one way, each path has the ending that it would have alone, with the cache at
  the start of the batch.  What a batch makes of its paths is then a function of their set, but
  for the order of the lists in its result, which is the order of the paths.
-/
import GoogIndex.Proofs.Scan.Accounting

set_option autoImplicit false

namespace GoogIndex.Scan

open GoogIndex.Cache GoogIndex.Storage

/-! ## Different paths -/

section different

variable {skipErrors : Bool} {p q : Progress}

/-- In a course that has no path twice, each path ends as it would at the start. -/
theorem Course.of?_eq {course : List Occurrence} (h : Course skipErrors p course q)
    (hdistinct : (course.map Occurrence.path).Nodup) {o : Occurrence} (ho : o ∈ course) :
    Ending.of? skipErrors p.cache o.sight o.path = some o.ending := by
  induction h with
  | done p => cases ho
  | @step p q first rest hfirst more ih =>
      rw [List.map_cons, List.nodup_cons] at hdistinct
      rcases List.mem_cons.mp ho with rfl | ho
      · exact hfirst
      · have hother : o.path ≠ first.path :=
          fun heq => hdistinct.1 (heq ▸ List.mem_map_of_mem ho)
        rw [← ih hdistinct.2 ho]
        exact (Ending.of?_congr (sameFor_visit skipErrors p first.sight hother)).symm

/-- A batch that has no path twice comes to its end if each path has an ending at the start. -/
theorem fault_visitAll_of_endings {sources : List (Text × Sight)} (hc : p.cache.Paired)
    (hp : p.fault = none) (hdistinct : (sources.map (·.1)).Nodup)
    (h : ∀ source ∈ sources, Ending.of? skipErrors p.cache source.2 source.1 ≠ none) :
    (p.visitAll skipErrors sources).fault = none := by
  induction sources generalizing p with
  | nil => exact hp
  | cons source rest ih =>
      obtain ⟨path, sight⟩ := source
      rw [List.map_cons, List.nodup_cons] at hdistinct
      rw [List.forall_mem_cons] at h
      obtain ⟨e, he⟩ := Option.ne_none_iff_exists'.mp h.1
      have hfault := (closes_of_visit hc he).fault.trans hp
      rw [Progress.visitAll, hfault]
      refine ih (paired_visit hc skipErrors sight path) hfault hdistinct.2 fun source hmem => ?_
      have hother : source.1 ≠ path :=
        fun heq => hdistinct.1 (List.mem_map.mpr ⟨source, hmem, heq⟩)
      rw [Ending.of?_congr (sameFor_visit skipErrors p sight hother)]
      exact h.2 source hmem

end different

/-! ## One sight for all paths -/

/-- What a batch makes of its paths if each of them has the ending that is given for it. -/
structure Follows (ending : Text → Ending) (c : SourceCache) (paths : List Text)
    (p : Progress) : Prop where
  records : p.result.records = paths.filterMap fun path => (ending path).record?
  missing : p.result.missing = paths.filter fun path => (ending path).isMissing
  failed : p.result.failed = paths.filter fun path => (ending path).isFailed
  hits : p.result.hits = paths.countP fun path => (ending path).isHit
  lookups : p.result.hits + p.result.misses + p.result.missing.length = paths.length
  left : ∀ path ∈ paths, (ending path).Left c p.cache path
  others : ∀ path, path ∉ paths → SameFor c p.cache path

section steady

variable {skipErrors : Bool} {c : SourceCache} {sight : Sight} {paths paths' : List Text}
  {p q : Progress} {ending : Text → Ending}

/-- The ending that a path has at the start of a batch. -/
def endingAtStart (skipErrors : Bool) (c : SourceCache) (sight : Sight) (path : Text) : Ending :=
  (Ending.of? skipErrors c sight path).getD .failed

/-- In a course over different paths that are seen in one way, each has its ending at the start. -/
theorem Course.of?_seenBy {course : List Occurrence} (h : Course skipErrors p course q)
    (hsources : course.map Occurrence.source = seenBy sight paths) (hdistinct : paths.Nodup)
    {o : Occurrence} (ho : o ∈ course) :
    Ending.of? skipErrors p.cache sight o.path = some o.ending := by
  obtain ⟨hpaths, hsights⟩ := paths_of_seenBy hsources
  rw [← hsights o ho]
  exact h.of?_eq (hpaths.symm ▸ hdistinct) ho

/-- A batch over different paths that are seen in one way comes to its end exactly if each path
has an ending at the start. -/
theorem fault_scanSeen_iff (hc : c.Paired) (hdistinct : paths.Nodup) :
    (scanSeen skipErrors c (seenBy sight paths)).fault = none ↔
      ∀ path ∈ paths, Ending.of? skipErrors c sight path ≠ none := by
  have hpaths : (seenBy sight paths).map (·.1) = paths := by
    simp [seenBy, Function.comp_def]
  rw [scanSeen, Progress.fault_finish]
  constructor
  · intro h path hpath
    obtain ⟨course, hsources, hcourse⟩ := exists_course (p := .start c) hc h
    obtain ⟨o, ho, rfl⟩ := List.mem_map.mp ((paths_of_seenBy hsources).1.symm ▸ hpath)
    exact Option.ne_none_iff_exists'.mpr ⟨o.ending, hcourse.of?_seenBy hsources hdistinct ho⟩
  · intro h
    refine fault_visitAll_of_endings (p := .start c) hc rfl (hpaths.symm ▸ hdistinct) ?_
    intro source hsource
    obtain ⟨path, hpath, rfl⟩ := List.mem_map.mp hsource
    exact h path hpath

/-- A batch over different paths that comes to its end does for each path what its ending at the
start says. -/
theorem follows_of_scanSeen (hc : c.Paired) (hdistinct : paths.Nodup)
    (h : (scanSeen skipErrors c (seenBy sight paths)).fault = none) :
    Follows (endingAtStart skipErrors c sight) c paths
      (scanSeen skipErrors c (seenBy sight paths)) := by
  obtain ⟨course, q, hsources, hcourse, hcache, hresult⟩ := exists_course_of_scanSeen hc h
  obtain ⟨hpaths, hsights⟩ := paths_of_seenBy hsources
  have hends : ∀ o ∈ course, endingAtStart skipErrors c sight o.path = o.ending := by
    intro o ho
    have hend : Ending.of? skipErrors c sight o.path = some o.ending :=
      hcourse.of?_seenBy hsources hdistinct ho
    rw [endingAtStart, hend, Option.getD_some]
  have hshape : course =
      paths.map fun path => ⟨path, sight, endingAtStart skipErrors c sight path⟩ := by
    rw [← hpaths, List.map_map]
    refine (List.map_id course).symm.trans (List.map_congr_left fun o ho => ?_)
    rw [Function.comp_apply, hends o ho, ← hsights o ho, id]
  have hlists := Result.lists_closeAll .start course
  have hcounts := Result.counts_closeAll .start course
  rw [← hresult, hshape] at hlists hcounts
  simp only [Result.start, List.nil_append, List.filterMap_map, List.filter_map, List.map_map,
    List.countP_map, List.length_map, Function.comp_def, List.map_id'] at hlists hcounts
  refine ⟨hlists.1, hlists.2.1, hlists.2.2, by simpa using hcounts.1, by simpa using hcounts.2.1,
    ?_, ?_⟩
  · intro path hpath
    rw [hcache]
    obtain ⟨before, after, rfl⟩ := List.append_of_mem hpath
    rw [List.map_append, List.map_cons] at hshape
    refine hcourse.left hc hshape ?_
    rw [List.map_map]
    have hrest := (List.nodup_append.mp hdistinct).2.1
    simpa [Function.comp_def] using (List.nodup_cons.mp hrest).1
  · intro path hpath
    rw [hcache]
    exact hcourse.others (hpaths.symm ▸ hpath)

/-- Two orders of the same paths with the same endings have the same counters. -/
theorem Follows.counts_eq (h : Follows ending c paths p) (h' : Follows ending c paths' q)
    (hperm : paths.Perm paths') :
    q.result.hits = p.result.hits ∧ q.result.misses = p.result.misses := by
  have hhits : q.result.hits = p.result.hits := by
    rw [h.hits, h'.hits, hperm.countP_eq]
  have hmissing : q.result.missing.length = p.result.missing.length := by
    rw [h.missing, h'.missing, (hperm.filter _).length_eq]
  have hlookups := h.lookups
  have hlookups' := h'.lookups
  have hlength := hperm.length_eq
  exact ⟨hhits, by omega⟩

/-- Two orders of the same paths with the same endings leave the same in the cache. -/
theorem Follows.sameFor (h : Follows ending c paths p) (h' : Follows ending c paths' q)
    (hperm : paths.Perm paths') (path : Text) : SameFor p.cache q.cache path := by
  by_cases hpath : path ∈ paths
  · exact (h.left path hpath).unique (h'.left path (hperm.mem_iff.mp hpath))
  · have hbefore := h.others path hpath
    have hafter := h'.others path fun hmem => hpath (hperm.mem_iff.mpr hmem)
    exact ⟨hafter.1.trans hbefore.1.symm, hafter.2.trans hbefore.2.symm⟩

end steady

/-! ## The law -/

/-- The order of different paths does not matter while storage stays as it is.  Take any cache
that calls lead to, paths of which none comes twice, and another order of them.  The batch comes
to its end in one order exactly if it does in the other.  Then each path has the same ending in
both, with the same record, and every list follows its own order; the counters are equal; and
the caches hold the same for every path. -/
theorem agrees_of_perm (start : Tree) (file : Text) (calls : List Call) (skipErrors : Bool)
    (sight : Sight) (paths paths' : List Text) (hdistinct : paths.Nodup)
    (hperm : paths.Perm paths') :
    let c := (SourceCache.load start file).outcome.afterAll calls
    let p := scanSeen skipErrors c (seenBy sight paths)
    let q := scanSeen skipErrors c (seenBy sight paths')
    (p.fault = none ↔ q.fault = none) ∧
    (p.fault = none →
      (∃ ending, Follows ending c paths p ∧ Follows ending c paths' q) ∧
      q.result.hits = p.result.hits ∧ q.result.misses = p.result.misses ∧
      ∀ path, SameFor p.cache q.cache path) := by
  intro c p q
  have hc : c.Paired := SourceCache.paired_afterAll start file calls
  have hdistinct' : paths'.Nodup := hperm.nodup_iff.mp hdistinct
  have hiff : p.fault = none ↔ q.fault = none := by
    rw [fault_scanSeen_iff hc hdistinct, fault_scanSeen_iff hc hdistinct']
    exact forall_congr' fun path => imp_congr hperm.mem_iff Iff.rfl
  refine ⟨hiff, fun hfault => ?_⟩
  have hfollows := follows_of_scanSeen hc hdistinct hfault
  have hfollows' := follows_of_scanSeen hc hdistinct' (hiff.mp hfault)
  have hcounts := hfollows.counts_eq hfollows' hperm
  exact ⟨⟨_, hfollows, hfollows'⟩, hcounts.1, hcounts.2, hfollows.sameFor hfollows' hperm⟩

/-- A path with an entry is hit and one without fails, in either order. -/
theorem agrees_of_perm_sample :
    let c := (SourceCache.load countedTree "c.json").outcome.afterAll []
    let sight := glimpse (.ok 5)
      (.error (.failed ⟨"b", .unreadable (.access (.refused ⟨.isFolder, ["b"]⟩))⟩))
    let p := scanSeen true c (seenBy sight ["a", "b"])
    let q := scanSeen true c (seenBy sight ["b", "a"])
    p.fault = none ∧ (p.result.hits, p.result.misses, p.result.failed) = (1, 1, [("b" : Text)]) ∧
    (∃ ending, Follows ending c ["a", "b"] p ∧ Follows ending c ["b", "a"] q) ∧
    q.result.hits = p.result.hits ∧ q.result.misses = p.result.misses ∧
    ∀ path, SameFor p.cache q.cache path := by
  intro c sight p q
  have hfault : p.fault = none := by with_unfolding_all rfl
  have hagrees := agrees_of_perm countedTree "c.json" [] true sight ["a", "b"] ["b", "a"]
    (by decide) (.swap _ _ [])
  exact ⟨hfault, by with_unfolding_all rfl, hagrees.2 hfault⟩

end GoogIndex.Scan
