/-
  Proofs/Storage/RealPath.lean --- what real paths depend on, and their names.

  A real path is found by looking at links only, so two trees with the same links have
  the same real paths.  Its names come from steps and from the working folder, and those
  are proper names.
-/
import GoogIndex.Proofs.Storage.Removal

set_option autoImplicit false

namespace GoogIndex.Storage.Tree

/-! ## The same links -/

section links

variable {t t' : Tree}

theorem realSteps_congr
    (hlinks : ∀ location target, t'.at? location = some (.link target) ↔
      t.at? location = some (.link target))
    (resolve : List Location → Location → List Step → Real) (met : List Location)
    (here : Location) (todo : List Step) :
    t'.realSteps resolve met here todo = t.realSteps resolve met here todo := by
  induction todo generalizing here with
  | nil => rfl
  | cons step rest ih =>
      cases step with
      | stay => exact ih here
      | up => exact ih here.dropLast
      | down name =>
          by_cases hlink : ∃ target, t.at? (here ++ [name]) = some (.link target)
          · obtain ⟨target, htarget⟩ := hlink
            simp only [realSteps, htarget, (hlinks _ target).mpr htarget, ih]
          · -- neither tree has a link here
            have hdirect : ∀ s : Tree, (∀ target, s.at? (here ++ [name]) ≠ some (.link target)) →
                s.realSteps resolve met here (.down name :: rest) =
                  s.realSteps resolve met (here ++ [name]) rest := by
              intro s hs
              rw [realSteps]
              split
              · rename_i target htarget
                exact absurd htarget (hs target)
              · rfl
            rw [not_exists] at hlink
            rw [hdirect t hlink, hdirect t' fun target h => hlink target ((hlinks _ target).mp h),
              ih]

/-- Trees with the same links and the same working folder have the same real paths. -/
theorem realPath_congr (hworking : t'.working = t.working)
    (hcount : t'.root.linkCount = t.root.linkCount)
    (hlinks : ∀ location target, t'.at? location = some (.link target) ↔
      t.at? location = some (.link target)) (path : Text) :
    t'.realPath path = t.realPath path := by
  have hfrom : ∀ depth met here todo,
      t'.realFrom depth met here todo = t.realFrom depth met here todo := by
    intro depth
    induction depth with
    | zero => exact fun _ _ _ => rfl
    | succ depth ih =>
        intro met here todo
        have hresolve : t'.realFrom depth = t.realFrom depth :=
          funext fun met => funext fun here => funext fun todo => ih met here todo
        rw [realFrom, realFrom, hresolve, realSteps_congr hlinks]
  rw [realPath, realPath, hfrom, hcount, start_of_working hworking]

end links

theorem Lacks.realPath_eq {t bare : Tree} {place : Location} (h : Lacks t bare place)
    (path : Text) : bare.realPath path = t.realPath path := by
  refine realPath_congr h.working h.pruned.linkCount_eq (fun location target => ?_) path
  rw [← shapeAt_eq_link_iff, ← shapeAt_eq_link_iff]
  constructor
  · exact h.shapeAt_of_bare
  · intro hl
    have hne : location ≠ place := by
      rintro rfl
      obtain ⟨a, content, hfile⟩ := h.file
      rw [hfile] at hl
      cases hl
    rw [h.others location hne, hl]

/-! ## Proper names -/

/-- All names of a location are proper. -/
def Proper (location : Location) : Prop := ∀ n ∈ location, IsName n

/-- All names among some steps are proper. -/
def ProperSteps (todo : List Step) : Prop := ∀ n, .down n ∈ todo → IsName n

theorem proper_concat {here : Location} {name : Text} (h : Proper here) (hname : IsName name) :
    Proper (here ++ [name]) := by
  intro n hn
  rcases List.mem_append.mp hn with hn | hn
  · exact h n hn
  · exact List.mem_singleton.mp hn ▸ hname

theorem proper_dropLast {here : Location} (h : Proper here) : Proper here.dropLast :=
  fun n hn => h n (List.dropLast_subset here hn)

theorem ProperSteps.tail {step : Step} {rest : List Step} (h : ProperSteps (step :: rest)) :
    ProperSteps rest := fun n hn => h n (List.mem_cons_of_mem step hn)

/-- The names among the steps of a path stand between its slashes. -/
theorem properSteps_steps (path : Text) : ProperSteps (steps path) := by
  intro name hname
  have hfound : Step.down name ∈
      (((splitAtSlashes path.toList).map Text.ofList).filter
        (· != ("" : Text))).map Step.ofName := by
    unfold steps at hname
    simp only at hname
    split at hname
    · rcases List.mem_append.mp hname with h | h
      · exact h
      · cases List.mem_singleton.mp h
    · exact hname
  obtain ⟨n, hn, hstep⟩ := List.mem_map.mp hfound
  obtain ⟨hpiece, hempty⟩ := List.mem_filter.mp hn
  obtain ⟨piece, hmem, rfl⟩ := List.mem_map.mp hpiece
  unfold Step.ofName at hstep
  split at hstep
  · cases hstep
  rename_i hpoint
  split at hstep
  · cases hstep
  cases hstep
  refine ⟨by simpa using hempty, hpoint, ?_⟩
  rw [Text.toList_ofList]
  exact slash_not_mem_of_mem_splitAtSlashes hmem

theorem proper_byName {here : Location} {todo : List Step} (h : Proper here)
    (htodo : ProperSteps todo) : Proper (byName here todo) := by
  induction todo generalizing here with
  | nil => exact h
  | cons step rest ih =>
      cases step with
      | stay => exact ih h htodo.tail
      | up => exact ih (proper_dropLast h) htodo.tail
      | down name => exact ih (proper_concat h (htodo name List.mem_cons_self)) htodo.tail

theorem proper_realSteps {t : Tree} {resolve : List Location → Location → List Step → Real}
    (hresolve : ∀ met here todo, Proper here → ProperSteps todo →
      Proper (resolve met here todo).location)
    {met : List Location} {here : Location} {todo : List Step} (h : Proper here)
    (htodo : ProperSteps todo) : Proper (t.realSteps resolve met here todo).location := by
  induction todo generalizing here with
  | nil => exact h
  | cons step rest ih =>
      cases step with
      | stay => exact ih h htodo.tail
      | up => exact ih (proper_dropLast h) htodo.tail
      | down name =>
          have hthere := proper_concat h (htodo name List.mem_cons_self)
          rw [realSteps]
          split
          · rename_i target _
            split
            · exact proper_byName hthere htodo.tail
            · have hbase : Proper (if startsAtRoot target then [] else here) := by
                split
                · exact fun n hn => by cases hn
                · exact h
              have hstop := hresolve ((here ++ [name]) :: met) _ _ hbase (properSteps_steps target)
              simp only
              cases hstopped : resolve ((here ++ [name]) :: met)
                  (if startsAtRoot target then [] else here) (steps target) with
              | looping stop =>
                  rw [hstopped] at hstop
                  exact proper_byName hstop htodo.tail
              | resolved stop =>
                  rw [hstopped] at hstop
                  exact ih hstop htodo.tail
          · exact ih hthere htodo.tail

/-- The names of a real path are proper, if those of the working folder are. -/
theorem proper_realPath {t : Tree} (h : Proper t.working) (path : Text) :
    Proper (t.realPath path).location := by
  have hfrom : ∀ depth met here todo, Proper here → ProperSteps todo →
      Proper (t.realFrom depth met here todo).location := by
    intro depth
    induction depth with
    | zero => exact fun _ _ _ => proper_byName
    | succ depth ih => exact fun _ _ _ => proper_realSteps ih
  refine hfrom _ _ _ _ ?_ (properSteps_steps path)
  rw [start]
  split
  · exact fun n hn => by cases hn
  · exact h

end GoogIndex.Storage.Tree
