/-
  Proofs/Ignore/Matching.lean --- what a match says about a path.

  Whatever the items of a pattern take, the items after them match some rest of the path,
  and literal items take exactly their own characters.  What a single pattern says is
  whether it matches at all: in which way it does weighs against other patterns only.
-/
import GoogIndex.Ignore.Pattern

set_option autoImplicit false

namespace GoogIndex.Ignore

/-! ## Runs of characters -/

section runs

variable {p : Point → Bool} {next : List Point → Option Hit} {cs : List Point} {hit : Hit}

/-- What matches after a run matches at the rest that the run leaves. -/
theorem exists_rest_of_longestFirst (h : longestFirst p next cs = some hit) :
    ∃ front rest, cs = front ++ rest ∧ (∀ c ∈ front, p c = true) ∧ next rest = some hit := by
  induction cs with
  | nil => exact ⟨[], [], rfl, by simp, h⟩
  | cons c more ih =>
      have hstop : next (c :: more) = some hit → ∃ front rest, c :: more = front ++ rest ∧
          (∀ c ∈ front, p c = true) ∧ next rest = some hit :=
        fun hnext => ⟨[], c :: more, rfl, by simp, hnext⟩
      rw [longestFirst] at h
      split at h
      · rename_i hc
        split at h
        · rename_i found hfound
          cases h
          obtain ⟨front, rest, rfl, hfront, hnext⟩ := ih hfound
          exact ⟨c :: front, rest, rfl, List.forall_mem_cons.mpr ⟨hc, hfront⟩, hnext⟩
        · exact hstop h
      · exact hstop h

theorem exists_rest_of_longestNonempty (h : longestNonempty p next cs = some hit) :
    ∃ first front rest, cs = first :: front ++ rest ∧ (∀ c ∈ first :: front, p c = true) ∧
      next rest = some hit := by
  cases cs with
  | nil => cases h
  | cons c more =>
      rw [longestNonempty] at h
      split at h
      · rename_i hc
        obtain ⟨front, rest, rfl, hfront, hnext⟩ := exists_rest_of_longestFirst h
        exact ⟨c, front, rest, rfl, List.forall_mem_cons.mpr ⟨hc, hfront⟩, hnext⟩
      · cases h

/-- A run can go on as far as its characters do. -/
theorem longestFirst_isSome (h : (next (cs.dropWhile p)).isSome) :
    (longestFirst p next cs).isSome := by
  induction cs with
  | nil => exact h
  | cons c more ih =>
      rw [longestFirst]
      by_cases hc : p c = true
      · rw [List.dropWhile_cons_of_pos hc] at h
        rw [if_pos hc]
        obtain ⟨hit, hhit⟩ := Option.isSome_iff_exists.mp (ih h)
        rw [hhit]
        rfl
      · rw [List.dropWhile_cons_of_neg hc] at h
        rwa [if_neg hc]

theorem oneChar_eq_some_iff :
    oneChar p next cs = some hit ↔
      ∃ c rest, cs = c :: rest ∧ p c = true ∧ next rest = some hit := by
  cases cs with
  | nil => simp [oneChar]
  | cons c rest =>
      rw [oneChar]
      constructor
      · intro h
        split at h
        · rename_i hc
          exact ⟨c, rest, rfl, hc, h⟩
        · cases h
      · rintro ⟨_, _, hcs, hc, hnext⟩
        cases hcs
        rwa [if_pos hc]

end runs

/-! ## Items -/

section items

variable {next : List Point → Option Hit} {cs : List Point} {hit : Hit}

/-- What follows an item matches some rest of the path. -/
theorem exists_rest_of_step {a : Atom} (h : a.step next cs = some hit) :
    ∃ rest, rest <:+ cs ∧ next rest = some hit := by
  have hone : ∀ {p}, oneChar p next cs = some hit → ∃ rest, rest <:+ cs ∧ next rest = some hit := by
    intro p h
    obtain ⟨c, rest, rfl, _, hnext⟩ := oneChar_eq_some_iff.mp h
    exact ⟨rest, List.suffix_cons c rest, hnext⟩
  cases a with
  | literal c => exact hone h
  | oneOf s => exact hone h
  | one => exact hone h
  | run =>
      obtain ⟨front, rest, rfl, _, hnext⟩ := exists_rest_of_longestFirst h
      exact ⟨rest, List.suffix_append front rest, hnext⟩
  | name =>
      obtain ⟨first, front, rest, rfl, _, hnext⟩ := exists_rest_of_longestNonempty h
      exact ⟨rest, List.suffix_append (first :: front) rest, hnext⟩
  | leadingFolders =>
      rw [Atom.step] at h
      split at h
      · rename_i found hfound
        cases h
        obtain ⟨first, front, more, rfl, _, hmore⟩ := exists_rest_of_longestNonempty hfound
        obtain ⟨c, rest, rfl, _, hnext⟩ := oneChar_eq_some_iff.mp hmore
        exact ⟨rest, (List.suffix_cons c rest).trans (List.suffix_append _ _), hnext⟩
      · exact ⟨cs, List.suffix_refl cs, h⟩
  | innerFolders =>
      rw [Atom.step] at h
      split at h
      · rename_i found hfound
        cases h
        obtain ⟨c, more, rfl, _, hmore⟩ := oneChar_eq_some_iff.mp hfound
        obtain ⟨first, front, rest, rfl, _, hnext⟩ := exists_rest_of_longestNonempty hmore
        exact ⟨rest, (List.suffix_append _ rest).trans (List.suffix_cons c _), hnext⟩
      · exact ⟨cs, List.suffix_refl cs, h⟩

/-- The items after a front of them match some rest of the path. -/
theorem exists_rest_of_matchAtoms {ending : Ending} {front atoms : List Atom}
    (h : matchAtoms ending (front ++ atoms) cs = some hit) :
    ∃ rest, rest <:+ cs ∧ matchAtoms ending atoms rest = some hit := by
  induction front generalizing cs with
  | nil => exact ⟨cs, List.suffix_refl cs, h⟩
  | cons a more ih =>
      obtain ⟨between, hbetween, hmore⟩ := exists_rest_of_step h
      obtain ⟨rest, hrest, hatoms⟩ := ih hmore
      exact ⟨rest, hrest.trans hbetween, hatoms⟩

/-- The items that take exactly some characters. -/
def literals (cs : List Point) : List Atom := cs.map .literal

/-- Literal items take their characters, and nothing else. -/
theorem matchAtoms_literals_iff {ending : Ending} {text : List Point} {atoms : List Atom} :
    matchAtoms ending (literals text ++ atoms) cs = some hit ↔
      ∃ rest, cs = text ++ rest ∧ matchAtoms ending atoms rest = some hit := by
  induction text generalizing cs with
  | nil => simp [literals]
  | cons c more ih =>
      rw [literals, List.map_cons, List.cons_append, matchAtoms, Atom.step, oneChar_eq_some_iff]
      constructor
      · rintro ⟨first, rest, rfl, hfirst, hmore⟩
        obtain ⟨others, rfl, hatoms⟩ := ih.mp hmore
        rw [beq_iff_eq] at hfirst
        subst hfirst
        exact ⟨others, rfl, hatoms⟩
      · rintro ⟨rest, rfl, hatoms⟩
        exact ⟨c, more ++ rest, rfl, beq_self_eq_true c, ih.mpr ⟨rest, rfl, hatoms⟩⟩

theorem matchAtoms_literals (ending : Ending) (text rest : List Point) (atoms : List Atom) :
    matchAtoms ending (literals text ++ atoms) (text ++ rest) = matchAtoms ending atoms rest := by
  refine Option.ext fun hit => ?_
  rw [matchAtoms_literals_iff]
  simp

/-- Any folders inside of a path, with a slash behind them, are in front of it what leads the
rest of the path. -/
theorem matchAtoms_innerFolders (ending : Ending) (atoms : List Atom) (path : List Point) :
    matchAtoms ending (.innerFolders :: .literal (.char '/') :: atoms) (Point.char '/' :: path) =
      matchAtoms ending (.leadingFolders :: atoms) path := rfl

end items

/-! ## What a single pattern says -/

/-- A single pattern decides about every path that it matches. -/
theorem Spec.verdict?_singleton (p : Pattern) (path : List Point) :
    Spec.verdict? ⟨[p]⟩ path = (p.hit? path).map fun _ => !p.negated := by
  cases hhit : p.hit? path with
  | none => simp [Spec.verdict?, hhit]
  | some hit => cases hit <;> simp [Spec.verdict?, hhit]

theorem Spec.verdict?_nil (path : List Point) : Spec.verdict? ⟨[]⟩ path = none := rfl

end GoogIndex.Ignore
