/-
  Proofs/Scan/Skipping.lean --- how far a batch gets that skips failures.

  Normative source: SPEC_FULL §4.4, `scan_sources` with `skip_errors`; §7.

  A failed extraction is skipped, but a batch has two faults that no flag turns into a
  skipped path: a text that is no path breaks the extraction itself, and a record of a path
  whose time storage refuses to tell cannot be checked.  The first path at which such a fault comes
  up ends the batch, and the paths behind it are not looked at.
-/
import GoogIndex.Proofs.Scan.Accounting
import GoogIndex.Proofs.Scan.Ending

set_option autoImplicit false

namespace GoogIndex.Scan

open GoogIndex.Cache GoogIndex.Storage

/-- The fault is the one that a path ends a skipping batch with: extraction breaks on a text
that is no path, or storage refuses to tell its time without saying that it is gone. -/
def StopsAt (t : Tree) (path : Text) : BatchFault → Prop
  | .extraction f => ∃ b, f = .broken b ∧ breach? (PathName.ofText path).toText = some b
  | .storage f => t.modifiedMillis path = .error f ∧ Progress.isGone f = false

/-! ## The path that ends a batch -/

/-- A batch that a source ends has gone through the sources before it and stops there. -/
theorem exists_stop_of_visitAll {skipErrors : Bool} {p : Progress} (hp : p.fault = none)
    {sources : List (Text × Sight)} (h : (p.visitAll skipErrors sources).fault ≠ none) :
    ∃ before path sight after, sources = before ++ (path, sight) :: after ∧
      (p.visitAll skipErrors before).fault = none ∧
      p.visitAll skipErrors sources =
        (p.visitAll skipErrors before).visit skipErrors sight path := by
  induction sources generalizing p with
  | nil => exact absurd hp h
  | cons source rest ih =>
      obtain ⟨path, sight⟩ := source
      rw [Progress.visitAll] at h ⊢
      cases hfault : (p.visit skipErrors sight path).fault with
      | some f => exact ⟨[], path, sight, rest, rfl, hp, rfl⟩
      | none =>
          simp only [hfault] at h ⊢
          obtain ⟨before, other, seen, after, hsplit, hbefore, hstop⟩ := ih hfault h
          refine ⟨(path, sight) :: before, other, seen, after, by rw [hsplit, List.cons_append],
            ?_, ?_⟩
          · simp only [Progress.visitAll, hfault, hbefore]
          · simp only [Progress.visitAll, hfault, hstop]

section stops

variable {t : Tree} {path : Text} {paths : List Text} {f : BatchFault}

theorem stopsAt_of_extract {p : Progress} (hp : p.fault = none)
    (h : (p.extract true path (extractFile t path false)).fault = some f) :
    StopsAt t path f ∧ (p.extract true path (extractFile t path false)).cache = p.cache := by
  have hbroken := @extractFile_eq_broken_iff t path false
  unfold Progress.extract at h ⊢
  cases he : (extractFile t path false).outcome with
  | ok e => simp [he, Progress.store, hp] at h
  | error g =>
      cases g with
      | failed g => simp [he, Progress.leaveOut, hp] at h
      | broken b =>
          simp only [he, and_true] at h ⊢
          cases h
          exact ⟨b, rfl, hbroken.mp he⟩

/-- A path ends a skipping batch with a fault of its own, and leaves the cache as it was. -/
theorem stopsAt_of_visit {p : Progress} (hp : p.fault = none)
    (h : (p.visit true (Sight.ofTree t false) path).fault = some f) :
    StopsAt t path f ∧ (p.visit true (Sight.ofTree t false) path).cache = p.cache := by
  rcases p.visit_cases true (Sight.ofTree t false) path with
    ⟨_, hq⟩ | ⟨_, _, _, _, _, hq⟩ | ⟨r, g, _, hm, hgone, hq⟩ | ⟨_, _, _, _, _, hq⟩ |
    ⟨r, time, _, hm, _, hq⟩ <;> rw [hq] at h ⊢
  · exact stopsAt_of_extract hp h
  · simp [Progress.miss, hp] at h
  · cases h
    exact ⟨⟨hm, hgone⟩, rfl⟩
  · simp [Progress.hit, hp] at h
  · -- what has a time is a path, so its extraction does not break
    obtain ⟨hstop, -⟩ := stopsAt_of_extract (p := { p with cache := p.cache.remove path }) hp h
    cases f with
    | storage g => cases hm.symm.trans hstop.1
    | extraction g =>
        obtain ⟨b, -, hbreach⟩ := hstop
        rw [breach?_toText_eq_none_iff.mpr (Tree.sound_of_modifiedMillis hm)] at hbreach
        cases hbreach

/-- Whether a batch goes on at a path behind others depends on the cache at its start. -/
theorem passes_visitAll_iff {p : Progress} (hp : p.fault = none) {before : List Text}
    (h : (p.visitAll true (seenIn t before)).fault = none) :
    Passes t (p.visitAll true (seenIn t before)).cache [] path ↔ Passes t p.cache before path := by
  induction before generalizing p with
  | nil => rfl
  | cons first rest ih =>
      rw [seenIn, List.map_cons, Progress.visitAll] at h ⊢
      cases hfault : (p.visit true (Sight.ofTree t false) first).fault with
      | some f => simp [hfault] at h
      | none =>
          simp only [hfault] at h ⊢
          exact (ih hfault h).trans (passes_visit_iff hp hfault rest)

/-- A whole batch that ends early has gone through the paths before one at which it does not
pass, and has the cache that they leave. -/
theorem exists_stop_of_scanSources {c : SourceCache}
    (h : (scanSources t false true c paths).fault = some f) :
    ∃ before path after, paths = before ++ path :: after ∧
      (scanSources t false true c before).fault = none ∧ ¬ Passes t c before path ∧
      StopsAt t path f ∧
      (scanSources t false true c paths).cache = (scanSources t false true c before).cache := by
  unfold scanSources scanSeen at h ⊢
  simp only [Progress.fault_finish, Progress.cache_finish] at h ⊢
  obtain ⟨sources, path, sight, later, hsplit, hbefore, hstop⟩ :=
    exists_stop_of_visitAll (p := .start c) rfl (by rw [h]; exact Option.some_ne_none f)
  obtain ⟨before, tail, rfl, rfl, htail⟩ := List.map_eq_append_iff.mp hsplit
  obtain ⟨path, after, rfl, hpath, rfl⟩ := List.map_eq_cons_iff.mp htail
  cases hpath
  rw [hstop] at h ⊢
  have hstops := stopsAt_of_visit hbefore h
  refine ⟨before, path, after, rfl, hbefore, ?_, hstops.1, hstops.2⟩
  intro hpass
  rw [(fault_visit_iff hbefore).mpr _] at h
  · cases h
  · exact ((passes_visitAll_iff (p := .start c) rfl hbefore).mpr hpass).imp_right
      fun hcheck hheld => hcheck (.inl hheld)

end stops

/-! ## The law -/

/-- How far a batch gets that skips failures, with any cache that calls lead to and any paths.
It comes to its end exactly if it passes at each path, and then it accounts for each
occurrence: what has no record is missing or failed.  Otherwise the first path at which it
does not pass ends it with a fault of its own, and nothing behind it has an effect. -/
theorem ends_skipping_iff (start : Tree) (file : Text) (calls : List Call) (t : Tree)
    (paths : List Text) :
    let c := (SourceCache.load start file).outcome.afterAll calls
    let p := scanSources t false true c paths
    (p.fault = none ↔
      ∀ before path after, paths = before ++ path :: after → Passes t c before path) ∧
    (p.fault = none → ∃ course : List Occurrence,
      course.map Occurrence.path = paths ∧
      (∀ o ∈ course, o.ending.Told true c (Sight.ofTree t false) o.path) ∧
      p.result.records = course.filterMap (fun o => o.ending.record?) ∧
      p.result.missing = (course.filter fun o => o.ending.isMissing).map Occurrence.path ∧
      p.result.failed = (course.filter fun o => o.ending.isFailed).map Occurrence.path) ∧
    ∀ f, p.fault = some f → ∃ before path after, paths = before ++ path :: after ∧
      (scanSources t false true c before).fault = none ∧ ¬ Passes t c before path ∧
      StopsAt t path f ∧ p.cache = (scanSources t false true c before).cache := by
  intro c p
  refine ⟨fault_scanSources_iff, fun hfault => ?_,
    fun f hfault => exists_stop_of_scanSources hfault⟩
  have hc : c.Paired := SourceCache.paired_afterAll start file calls
  obtain ⟨course, q, hsources, hcourse, -, hresult⟩ := exists_course_of_scanSeen hc hfault
  obtain ⟨hpaths, hsight⟩ := paths_of_seenBy hsources
  have hlists := Result.lists_closeAll .start course
  rw [← hresult] at hlists
  simp only [Result.start, List.nil_append] at hlists
  exact ⟨course, hpaths, fun o ho => hsight o ho ▸ hcourse.told hc ho, hlists⟩

/-- An empty source, a link that leads to itself, and a cache file with an entry for the link. -/
def loopTree : Tree :=
  let entry := "\x7b\"modifiedDates\": 5, \"provides\": [], \"requires\": []\x7d"
  ⟨⟨0o755, 0⟩,
    .file "a.js" ⟨0o644, 0⟩ [] <|
    .file "c.json" ⟨0o644, 0⟩ ("\x7b\"l.js\": " ++ entry ++ "\x7d").toUTF8.toList <|
    .link "l.js" "l.js" .empty, [], 0, 0o022⟩

/-- A path with a NUL ends a skipping batch, so that the source behind it has no record.  So does
a link that leads to itself, if the cache has a record for it; with another cache it is one of
the failed paths. -/
theorem ended_by_nul_or_loop :
    let c := (SourceCache.load loopTree "c.json").outcome
    let bare := (SourceCache.load loopTree "none.json").outcome
    let nul := scanSources loopTree false true c ["x\x00y", "a.js"]
    let loop := scanSources loopTree false true c ["l.js", "a.js"]
    let uncached := scanSources loopTree false true bare ["l.js", "a.js"]
    (nul.fault, nul.result.records) = (some (.extraction (.broken .nullByte)), []) ∧
    (loop.fault, loop.result.records) =
      (some (.storage (.refused ⟨.tooManyLinks, ["l.js"]⟩)), []) ∧
    (uncached.fault, uncached.result.records, uncached.result.failed) =
      (none, [⟨⟨"a.js", [], [], false⟩, none⟩], [("l.js" : Text)]) :=
  ⟨by with_unfolding_all rfl, by with_unfolding_all rfl, by with_unfolding_all rfl⟩

end GoogIndex.Scan
