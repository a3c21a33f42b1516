/-
  Proofs/Cache/Lifecycle.lean --- a cache object between loading and its end.

  Normative source: SPEC_FULL §3 for the two mappings; §4.2 and §11.

  A cache is used in four ways: a path is looked up, a record is stored, a path is
  forgotten, the cache is saved.  A batch uses it in the first three ways, so its part
  in a history is a list of such uses too, and what holds for every list of uses holds
  for every history of calls, at every moment inside a batch as well.

  Two invariants carry everything: a time never stands without a record, and no use
  adds or alters a time.  A path without a time is therefore never fresh again.
-/
import GoogIndex.Cache.SourceCache

set_option autoImplicit false

namespace GoogIndex.Cache

open GoogIndex.Storage

/-! ## Uses -/

/-- One use of a cache.  A lookup comes with what storage would tell about the
modification time of the file. -/
inductive Use where
  | lookup (path : Text) (modified : Except Fault Int)
  | store (path : Text) (r : Record)
  | forget (path : Text)
  | save
  deriving Inhabited

namespace SourceCache

/-- The cache after a use.  A save changes nothing in it, and neither does a lookup
that fails. -/
def after (c : SourceCache) : Use → SourceCache
  | .lookup path modified =>
      match c.get path modified with
      | .ok (_, c') => c'
      | .error _ => c
  | .store path r => c.set path r
  | .forget path => c.remove path
  | .save => c

/-- The lookups among some uses, each with its answer. -/
def answers : SourceCache → List Use → List (Text × Except Fault (Option Record))
  | _, [] => []
  | c, .lookup path modified :: rest =>
      (path, (c.get path modified).map (·.1)) :: answers (c.after (.lookup path modified)) rest
  | c, use :: rest => answers (c.after use) rest

/-- Everything a lookup can do: there is no record; the time cannot be told; the record
is fresh; it is out of date and forgotten. -/
theorem get_cases (c : SourceCache) (path : Text) (modified : Except Fault Int) :
    (c.sources.get? path = none ∧ c.get path modified = .ok (none, c)) ∨
    (∃ r f, c.sources.get? path = some r ∧ modified = .error f ∧ c.get path modified = .error f) ∨
    (∃ r time, c.sources.get? path = some r ∧ modified = .ok time ∧
      c.isFresh path time = true ∧ c.get path modified = .ok (some r, c)) ∨
    (∃ r time, c.sources.get? path = some r ∧ modified = .ok time ∧
      c.isFresh path time = false ∧ c.get path modified = .ok (none, c.remove path)) := by
  unfold get
  cases hr : c.sources.get? path with
  | none => exact .inl ⟨rfl, rfl⟩
  | some r =>
      cases modified with
      | error f => exact .inr (.inl ⟨r, f, rfl, rfl, rfl⟩)
      | ok time =>
          cases hf : c.isFresh path time with
          | true => exact .inr (.inr (.inl ⟨r, time, rfl, rfl, hf, by simp [hf]⟩))
          | false => exact .inr (.inr (.inr ⟨r, time, rfl, rfl, hf, by simp [hf]⟩))

/-- A record is fresh exactly if its path has a time and that is the time asked for. -/
theorem isFresh_iff {c : SourceCache} {path : Text} {time : Int} :
    c.isFresh path time = true ↔ ∃ s, c.stamps.get? path = some s ∧ s.isMillis time = true := by
  unfold isFresh
  cases c.stamps.get? path with
  | none => simp
  | some s => simp

/-! ## The two tables -/

@[simp] theorem get?_sources_set_self (c : SourceCache) (path : Text) (r : Record) :
    (c.set path r).sources.get? path = some r := Table.get?_put_self c.sources path r

theorem get?_sources_set_of_ne (c : SourceCache) {path other : Text} (r : Record)
    (h : other ≠ path) : (c.set path r).sources.get? other = c.sources.get? other :=
  Table.get?_put_of_ne c.sources r h

@[simp] theorem get?_sources_remove_self (c : SourceCache) (path : Text) :
    (c.remove path).sources.get? path = none := Table.get?_erase_self c.sources path

@[simp] theorem get?_stamps_remove_self (c : SourceCache) (path : Text) :
    (c.remove path).stamps.get? path = none := Table.get?_erase_self c.stamps path

theorem get?_sources_remove_of_ne (c : SourceCache) {path other : Text} (h : other ≠ path) :
    (c.remove path).sources.get? other = c.sources.get? other :=
  Table.get?_erase_of_ne c.sources h

theorem get?_stamps_remove_of_ne (c : SourceCache) {path other : Text} (h : other ≠ path) :
    (c.remove path).stamps.get? other = c.stamps.get? other :=
  Table.get?_erase_of_ne c.stamps h

/-- A removal only takes times away. -/
theorem get?_stamps_of_remove {c : SourceCache} {path other : Text} {s : Stamp}
    (h : (c.remove path).stamps.get? other = some s) : c.stamps.get? other = some s := by
  by_cases ho : other = path
  · subst ho
    simp at h
  · rwa [get?_stamps_remove_of_ne c ho] at h

/-! ## No time without a record -/

/-- Every path with a time has a record. -/
def Paired (c : SourceCache) : Prop :=
  ∀ path s, c.stamps.get? path = some s → ∃ r, c.sources.get? path = some r

/-- A path without a record has no time. -/
theorem Paired.stamp_eq_none {c : SourceCache} (hc : c.Paired) {path : Text}
    (h : c.sources.get? path = none) : c.stamps.get? path = none := by
  rw [Option.eq_none_iff_forall_ne_some]
  intro s hs
  obtain ⟨r, hr⟩ := hc path s hs
  rw [h] at hr
  cases hr

theorem paired_empty (file : Text) : (empty file).Paired := by
  intro path s h
  simp [empty] at h

theorem paired_set {c : SourceCache} (h : c.Paired) (path : Text) (r : Record) :
    (c.set path r).Paired := by
  intro other s hs
  by_cases ho : other = path
  · subst ho
    exact ⟨r, get?_sources_set_self c other r⟩
  · obtain ⟨r', hr'⟩ := h other s hs
    exact ⟨r', by rw [get?_sources_set_of_ne c r ho, hr']⟩

theorem paired_remove {c : SourceCache} (h : c.Paired) (path : Text) : (c.remove path).Paired := by
  intro other s hs
  by_cases ho : other = path
  · subst ho
    simp at hs
  · obtain ⟨r, hr⟩ := h other s (get?_stamps_of_remove hs)
    exact ⟨r, by rw [get?_sources_remove_of_ne c ho, hr]⟩

theorem paired_addEntry {c : SourceCache} (h : c.Paired) (path : Text) (value : Json) :
    (c.addEntry path value).Paired := by
  unfold addEntry
  cases Entry.ofJson? value with
  | none => exact h
  | some e =>
      intro other s hs
      by_cases ho : other = path
      · subst ho
        exact ⟨e.record other, Table.get?_put_self _ _ _⟩
      · rw [Table.get?_put_of_ne _ _ ho] at hs
        obtain ⟨r, hr⟩ := h other s hs
        exact ⟨r, by rw [Table.get?_put_of_ne _ _ ho, hr]⟩

theorem paired_addEntries {c : SourceCache} (h : c.Paired) (members : List (Text × Json)) :
    (c.addEntries members).Paired := by
  unfold addEntries
  induction members generalizing c with
  | nil => exact h
  | cons m rest ih => exact ih (paired_addEntry h m.1 m.2)

/-- Loading either gives nothing or takes the members of one object in. -/
theorem load_cases (t : Tree) (file : Text) :
    (load t file).outcome = empty file ∨
      ∃ members, t.canBeSeen file = true ∧ readValue t file = .ok (.obj members) ∧
        (load t file).outcome = (empty file).addEntries members := by
  unfold load
  by_cases hs : t.canBeSeen file = true
  · simp only [hs, Bool.not_true, Bool.false_eq_true, if_false]
    cases hv : readValue t file with
    | error f => exact .inl rfl
    | ok v =>
        cases v with
        | obj members => exact .inr ⟨members, trivial, rfl, rfl⟩
        | _ => exact .inl rfl
  · simp [hs]

theorem paired_load (t : Tree) (file : Text) : (load t file).outcome.Paired := by
  rcases load_cases t file with h | ⟨members, _, _, h⟩
  · rw [h]
    exact paired_empty file
  · rw [h]
    exact paired_addEntries (paired_empty file) members

/-- One use keeps every time with a record. -/
theorem paired_after {c : SourceCache} (h : c.Paired) (use : Use) : (c.after use).Paired := by
  cases use with
  | lookup path modified =>
      rcases get_cases c path modified with
        ⟨_, hg⟩ | ⟨_, _, _, _, hg⟩ | ⟨_, _, _, _, _, hg⟩ | ⟨_, _, _, _, _, hg⟩
      · simpa [after, hg] using h
      · simpa [after, hg] using h
      · simpa [after, hg] using h
      · simpa [after, hg] using paired_remove h path
  | store path r => exact paired_set h path r
  | forget path => exact paired_remove h path
  | save => exact h

theorem paired_foldl {c : SourceCache} (h : c.Paired) (uses : List Use) :
    (uses.foldl after c).Paired := by
  induction uses generalizing c with
  | nil => exact h
  | cons use rest ih => exact ih (paired_after h use)

/-! ## No new time -/

/-- One use adds no time and alters none. -/
theorem get?_stamps_of_after {c : SourceCache} {use : Use} {path : Text} {s : Stamp}
    (h : (c.after use).stamps.get? path = some s) : c.stamps.get? path = some s := by
  cases use with
  | lookup other modified =>
      rcases get_cases c other modified with
        ⟨_, hg⟩ | ⟨_, _, _, _, hg⟩ | ⟨_, _, _, _, _, hg⟩ | ⟨_, _, _, _, _, hg⟩
      · simpa [after, hg] using h
      · simpa [after, hg] using h
      · simpa [after, hg] using h
      · have hremoved : (c.remove other).stamps.get? path = some s := by simpa [after, hg] using h
        exact get?_stamps_of_remove hremoved
  | store other r => exact h
  | forget other => exact get?_stamps_of_remove h
  | save => exact h

theorem get?_stamps_of_foldl {c : SourceCache} {uses : List Use} {path : Text} {s : Stamp}
    (h : (uses.foldl after c).stamps.get? path = some s) : c.stamps.get? path = some s := by
  induction uses generalizing c with
  | nil => exact h
  | cons use rest ih => exact get?_stamps_of_after (ih h)

/-- A path without a time has none after any uses. -/
theorem get?_stamps_foldl_eq_none {c : SourceCache} {path : Text}
    (h : c.stamps.get? path = none) (uses : List Use) :
    (uses.foldl after c).stamps.get? path = none := by
  rw [Option.eq_none_iff_forall_ne_some]
  intro s hs
  rw [get?_stamps_of_foldl hs] at h
  exact absurd h (by simp)

/-! ## Never fresh again -/

/-- A lookup that finds nothing leaves its path without a time. -/
theorem get?_stamps_after_of_none {c : SourceCache} (hc : c.Paired) {path : Text}
    {modified : Except Fault Int} (h : (c.get path modified).map (·.1) = .ok none) :
    (c.after (.lookup path modified)).stamps.get? path = none := by
  rcases get_cases c path modified with
    ⟨hr, hg⟩ | ⟨_, _, _, _, hg⟩ | ⟨_, _, _, _, _, hg⟩ | ⟨_, _, _, _, _, hg⟩
  · exact get?_stamps_foldl_eq_none (hc.stamp_eq_none hr) [.lookup path modified]
  · simp [hg, Except.map] at h
  · simp [hg, Except.map] at h
  · simp [after, hg]

/-- A path without a time is never answered with a record. -/
theorem not_mem_answers_of_no_stamp {c : SourceCache} {path : Text}
    (h : c.stamps.get? path = none) (uses : List Use) (r : Record) :
    (path, .ok (some r)) ∉ c.answers uses := by
  induction uses generalizing c with
  | nil => simp [answers]
  | cons use rest ih =>
      have hnext := ih (get?_stamps_foldl_eq_none h [use])
      cases use with
      | lookup other modified =>
          simp only [answers, List.mem_cons, not_or]
          refine ⟨?_, hnext⟩
          intro heq
          obtain ⟨rfl, hans⟩ := Prod.mk.inj heq
          rcases get_cases c path modified with
            ⟨_, hg⟩ | ⟨_, _, _, _, hg⟩ | ⟨_, _, _, _, hf, hg⟩ | ⟨_, _, _, _, _, hg⟩
          · simp [hg, Except.map] at hans
          · simp [hg, Except.map] at hans
          · obtain ⟨s, hs, _⟩ := isFresh_iff.mp hf
            rw [h] at hs
            exact absurd hs (by simp)
          · simp [hg, Except.map] at hans
      | store other r' => exact hnext
      | forget other => exact hnext
      | save => exact hnext

/-- A path that was forgotten, or looked up in vain, has no time. -/
theorem no_stamp_of_spent {c : SourceCache} (hc : c.Paired) {path : Text} (uses : List Use)
    (h : Use.forget path ∈ uses ∨ (path, .ok none) ∈ c.answers uses) :
    (uses.foldl after c).stamps.get? path = none := by
  induction uses generalizing c with
  | nil => simp [answers] at h
  | cons use rest ih =>
      by_cases hrest : Use.forget path ∈ rest ∨ (path, .ok none) ∈ (c.after use).answers rest
      · exact ih (paired_after hc use) hrest
      · -- the first use is the one that spends the path
        refine get?_stamps_foldl_eq_none ?_ rest
        rw [not_or] at hrest
        cases use with
        | lookup other modified =>
            simp only [answers, List.mem_cons, reduceCtorEq, false_or, hrest.1, hrest.2,
              or_false] at h
            obtain ⟨rfl, hans⟩ := Prod.mk.inj h
            exact get?_stamps_after_of_none hc hans.symm
        | store other r =>
            simp [answers, hrest.1, hrest.2] at h
        | forget other =>
            simp only [answers, List.mem_cons, Use.forget.injEq, hrest.1, hrest.2,
              or_false] at h
            subst h
            simp [after]
        | save => simp [answers, hrest.1, hrest.2] at h

end SourceCache

end GoogIndex.Cache
