/-
  Proofs/Scan/Ending.lean --- which batches come to their end.

  Normative source: SPEC_FULL §7, failures of extraction and of the freshness check.

  On a batch that skips failures only two things are no failures of single files: a text
  that is no path, and a path in the cache whose time storage refuses to tell although it does
  not say that the file is gone.  A visit brings such a path into the cache only if it can
  be read all the same, because reading goes by the path name and asking for the time by
  the path itself.  So whether the batch comes to its end is decided by its paths and the
  cache at its start.
-/
import GoogIndex.Proofs.Scan.Settled
import GoogIndex.Proofs.Storage.Unbroken

set_option autoImplicit false

namespace GoogIndex.Scan

open GoogIndex.Cache GoogIndex.Storage

/-- Extraction breaks on a text that is no path only. -/
theorem extractFile_eq_broken_iff (t : Tree) (path : Text) (keepTree : Bool) {b : Breach} :
    (extractFile t path keepTree).outcome = .error (.broken b) ↔
      breach? (PathName.ofText path).toText = some b := by
  rw [← Tree.textOf_eq_broken_iff t]
  have hmapped : ∀ x : Except ExtractionFailure Extraction,
      x.mapError ExtractionFault.failed ≠ .error (.broken b) := by
    intro x h
    cases x <;> cases h
  unfold extractFile
  split
  · rename_i c htext
    rw [htext]
    simp
  · rename_i f hother htext
    refine iff_of_false (fun h => by cases h) fun h => ?_
    cases htext.symm.trans h
    exact hother b rfl
  · rename_i source htext
    exact iff_of_false (hmapped _) fun h => by cases htext.symm.trans h

/-- Whether a record of the path could be checked: its time can be told, or it is gone. -/
def Checkable (t : Tree) (path : Text) : Prop :=
  ∀ f, t.modifiedMillis path = .error f → Progress.isGone f = true

/-- What can be read can be checked. -/
theorem checkable_of_recordOf {t : Tree} {path : Text} {r : Record}
    (hnormal : (PathName.ofText path).toText = path) (h : recordOf t path = some r) :
    Checkable t path := by
  intro f hf
  rw [recordOf_of_modifiedMillis_error hnormal hf] at h
  cases h

section ends

variable {t : Tree} {path : Text} {paths : List Text}

/-- An extraction on which failures are skipped goes on at a path. -/
theorem fault_extract_iff {p : Progress} (hp : p.fault = none) :
    (p.extract true path (extractFile t path false)).fault = none ↔ breach? path = none := by
  have hbroken := @extractFile_eq_broken_iff t path false
  rw [← breach?_toText_eq_none_iff]
  unfold Progress.extract
  cases he : (extractFile t path false).outcome with
  | ok e =>
      rw [he] at hbroken
      have hsound : breach? (PathName.ofText path).toText = none :=
        Option.eq_none_iff_forall_ne_some.mpr fun b hb => by cases hbroken.mpr hb
      simpa [Progress.store, hp] using hsound
  | error f =>
      rw [he] at hbroken
      cases f with
      | failed f =>
          have hsound : breach? (PathName.ofText path).toText = none :=
            Option.eq_none_iff_forall_ne_some.mpr fun b hb => by cases hbroken.mpr hb
          simpa [Progress.leaveOut, hp] using hsound
      | broken b =>
          have hbreach : breach? (PathName.ofText path).toText = some b := hbroken.mp rfl
          simp [hbreach]

/-- A visit on which failures are skipped goes on unless the text is no path or has a record that
cannot be checked. -/
theorem fault_visit_iff {p : Progress} (hp : p.fault = none) :
    (p.visit true (Sight.ofTree t false) path).fault = none ↔
      breach? path = none ∧ (p.cache.sources.get? path ≠ none → Checkable t path) := by
  have hlegal : ∀ x, t.modifiedMillis path = x → (∀ b, x ≠ .error (.broken b)) →
      breach? path = none := by
    rintro x rfl hx
    rw [Option.eq_none_iff_forall_ne_some]
    exact fun b hb => hx b ((Tree.modifiedMillis_eq_broken_iff t path).mpr hb)
  rcases p.visit_cases true (Sight.ofTree t false) path with
    ⟨hr, hq⟩ | ⟨r, f, _, hm, hgone, hq⟩ | ⟨r, f, hr, hm, hgone, hq⟩ | ⟨r, time, _, hm, _, hq⟩ |
    ⟨r, time, _, hm, _, hq⟩ <;> rw [hq]
  · simpa [hr, Sight.ofTree] using fault_extract_iff hp
  · have hsound : breach? path = none := by
      refine hlegal _ hm ?_
      rintro b h
      cases h
      cases hgone
    have hcheck : Checkable t path := fun g hg => by
      cases hm.symm.trans hg
      exact hgone
    simp [hsound, hcheck, Progress.miss, hp]
  · have hcheck : ¬ Checkable t path := fun h => by simp [h f hm] at hgone
    simp [hr, hcheck]
  · have hcheck : Checkable t path := fun f hf => by cases hm.symm.trans hf
    simp [Progress.hit, hp, hcheck, hlegal _ hm (by simp)]
  · have hcheck : Checkable t path := fun f hf => by cases hm.symm.trans hf
    simpa [hcheck, Sight.ofTree] using
      fault_extract_iff (p := { p with cache := p.cache.remove path }) hp

/-- A batch with this cache, which has come by some paths before, goes on at a text: it is a
path, and if there is a record for it, from the start or from an earlier extraction, then that
can be checked. -/
def Passes (t : Tree) (c : SourceCache) (before : List Text) (path : Text) : Prop :=
  breach? path = none ∧
    (c.sources.get? path ≠ none ∨ path ∈ before ∧ recordOf t path ≠ none → Checkable t path)

/-- A visit that goes on leaves for a path that cannot be checked what extraction gives, as
there was nothing before. -/
theorem held_of_visit {p : Progress} (hp : p.fault = none) (hcheck : ¬ Checkable t path)
    (h : (p.visit true (Sight.ofTree t false) path).fault = none) :
    p.cache.sources.get? path = none ∧
      (p.visit true (Sight.ofTree t false) path).cache.sources.get? path = recordOf t path := by
  have hnone : p.cache.sources.get? path = none := by
    have hpass := ((fault_visit_iff hp).mp h).2
    exact Classical.byContradiction fun hsome => hcheck (hpass hsome)
  refine ⟨hnone, ?_⟩
  have hg : p.cache.get path (t.modifiedMillis path) = .ok (none, p.cache) := by
    simp only [SourceCache.get, hnone]
  simp only [Progress.visit, Sight.ofTree, hg]
  exact kept_extract t hnone

/-- After a visit that goes on, the batch passes at a path as it did before the visit. -/
theorem passes_visit_iff {p : Progress} (hp : p.fault = none) {first : Text}
    (h : (p.visit true (Sight.ofTree t false) first).fault = none) (before : List Text) :
    Passes t (p.visit true (Sight.ofTree t false) first).cache before path ↔
      Passes t p.cache (first :: before) path := by
  refine and_congr_right fun _ => ?_
  by_cases hpath : path = first
  · subst hpath
    by_cases hcheck : Checkable t path
    · simp [hcheck]
    · obtain ⟨hnone, hheld⟩ := held_of_visit hp hcheck h
      simp only [hnone, hheld, hcheck, List.mem_cons_self, ne_eq, not_true_eq_false, true_and,
        false_or]
      exact not_congr ⟨fun h => h.elim id And.right, .inl⟩
  · rw [(sameFor_visit true p (Sight.ofTree t false) hpath).1, List.mem_cons, or_iff_right hpath]

/-- What holds at each place of a list, with what stands before it. -/
theorem forall_split_cons {α : Type} {P : List α → α → Prop} {first : α} {rest : List α} :
    (∀ before a after, first :: rest = before ++ a :: after → P before a) ↔
      P [] first ∧ ∀ before a after, rest = before ++ a :: after → P (first :: before) a := by
  constructor
  · exact fun h => ⟨h [] first rest rfl,
      fun before a after hrest => h (first :: before) a after (by rw [hrest, List.cons_append])⟩
  · rintro ⟨hfirst, hrest⟩ before a after hsplit
    cases before with
    | nil =>
        cases hsplit
        exact hfirst
    | cons b before =>
        rw [List.cons_append] at hsplit
        obtain ⟨rfl, htail⟩ := List.cons.inj hsplit
        exact hrest before a after htail

/-- A batch on which failures are skipped comes to its end exactly if it passes at each of its
paths. -/
theorem fault_visitAll_iff {p : Progress} (hp : p.fault = none) :
    (p.visitAll true (seenIn t paths)).fault = none ↔
      ∀ before path after, paths = before ++ path :: after → Passes t p.cache before path := by
  induction paths generalizing p with
  | nil => simpa [seenIn, Progress.visitAll] using hp
  | cons first rest ih =>
      have hvisit : Passes t p.cache [] first ↔
          (p.visit true (Sight.ofTree t false) first).fault = none := by
        rw [fault_visit_iff hp]
        simp [Passes]
      rw [seenIn, List.map_cons, Progress.visitAll, forall_split_cons, hvisit]
      cases hfault : (p.visit true (Sight.ofTree t false) first).fault with
      | some f => simp [hfault]
      | none =>
          simp only [true_and]
          rw [← seenIn, ih hfault]
          exact forall₃_congr fun before path after => imp_congr_right fun _ =>
            passes_visit_iff hp hfault before

theorem fault_scanSources_iff {c : SourceCache} :
    (scanSources t false true c paths).fault = none ↔
      ∀ before path after, paths = before ++ path :: after → Passes t c before path := by
  unfold scanSources scanSeen
  rw [Progress.fault_finish]
  exact fault_visitAll_iff (p := .start c) rfl

/-- With paths in normal form only the cache at the start matters, as what can be read can be
checked. -/
theorem fault_scanSources_iff_of_normal {c : SourceCache}
    (hnormal : ∀ path ∈ paths, (PathName.ofText path).toText = path) :
    (scanSources t false true c paths).fault = none ↔
      ∀ path ∈ paths, breach? path = none ∧
        (c.sources.get? path ≠ none → Checkable t path) := by
  rw [fault_scanSources_iff]
  constructor
  · intro h path hpath
    obtain ⟨before, after, rfl⟩ := List.append_of_mem hpath
    obtain ⟨hsound, hcheck⟩ := h before path after rfl
    exact ⟨hsound, fun hheld => hcheck (.inl hheld)⟩
  · rintro h before path after rfl
    have hmem : path ∈ before ++ path :: after := List.mem_append_cons_self
    refine ⟨(h path hmem).1, ?_⟩
    rintro (hheld | ⟨_, hgiven⟩)
    · exact (h path hmem).2 hheld
    · obtain ⟨r, hr⟩ := Option.ne_none_iff_exists'.mp hgiven
      exact checkable_of_recordOf (hnormal path hmem) hr

end ends

end GoogIndex.Scan
