/-
  Proofs/Ignore/Lines.lean --- lines, their signs and their bodies.

  A line is trimmed, and then it is a sign and a body.  The pattern is that of the segments
  of the body, unless the line says nothing; and what a line says of a path by itself is
  what its pattern matches.
-/
import GoogIndex.Proofs.Ignore.Compilation

set_option autoImplicit false

namespace GoogIndex.Ignore

open GoogIndex.Storage GoogIndex.Text

/-! ## Trimmed lines -/

/-- Characters without the blanks at the end, unless the last one is escaped. -/
def trimChars (cs : List Point) : List Point :=
  if [Point.char '\\', Point.char ' '].isSuffixOf cs then cs else dropAtEnd isBlank cs

theorem dropAtEnd_append {α : Type} {p : α → Bool} {x : α} (hx : p x = false)
    (front rest : List α) :
    dropAtEnd p (front ++ x :: rest) = front ++ x :: dropAtEnd p rest := by
  rw [dropAtEnd, dropAtEnd, List.reverse_append, List.reverse_cons, List.append_assoc,
    List.singleton_append, List.dropWhile_append]
  split
  · rename_i hdropped
    rw [List.dropWhile_cons_of_neg (by simp [hx]), List.isEmpty_iff.mp hdropped]
    simp
  · simp

/-- Nothing is trimmed in front of a character that is neither a blank nor an escape. -/
theorem trimChars_append {c : Point} (hc : isBlank c = false) (hescape : c ≠ Point.char '\\')
    (front rest : List Point) :
    trimChars (front ++ c :: rest) = front ++ c :: trimChars rest := by
  have hspace : c ≠ Point.char ' ' := by
    rintro rfl
    cases hc
  have hsuffix : [Point.char '\\', Point.char ' '] <:+ front ++ c :: rest ↔
      [Point.char '\\', Point.char ' '] <:+ rest := by
    constructor
    · intro h
      rcases List.suffix_or_suffix_of_suffix h (List.suffix_append front (c :: rest)) with h | h
      · rcases List.suffix_cons_iff.mp h with h | h
        · cases h
          exact absurd rfl hescape
        · exact h
      · have hmem : c ∈ [Point.char '\\', Point.char ' '] := h.subset List.mem_cons_self
        simp [hescape, hspace] at hmem
    · intro h
      exact h.trans ((List.suffix_cons c rest).trans (List.suffix_append front _))
  rw [trimChars, trimChars]
  by_cases h : [Point.char '\\', Point.char ' '] <:+ rest
  · rw [if_pos (List.isSuffixOf_iff_suffix.mpr (hsuffix.mpr h)),
      if_pos (List.isSuffixOf_iff_suffix.mpr h)]
  · rw [if_neg (mt List.isSuffixOf_iff_suffix.mp (mt hsuffix.mp h)),
      if_neg (mt List.isSuffixOf_iff_suffix.mp h), dropAtEnd_append hc]

/-- A character that is neither a blank nor an escape is not trimmed. -/
theorem mem_trimChars {c : Point} (hc : isBlank c = false) (hescape : c ≠ Point.char '\\')
    {cs : List Point} (h : c ∈ cs) : c ∈ trimChars cs := by
  obtain ⟨front, rest, rfl⟩ := List.append_of_mem h
  rw [trimChars_append hc hescape]
  simp

/-- What is left of a line is a front of it. -/
theorem prefix_of_trimChars (cs : List Point) : trimChars cs <+: cs := by
  rw [trimChars]
  split
  · exact List.prefix_refl cs
  · rw [← List.reverse_suffix, dropAtEnd, List.reverse_reverse]
    exact List.dropWhile_suffix _

theorem head?_trimChars {cs : List Point} (h : trimChars cs ≠ []) :
    (trimChars cs).head? = cs.head? := by
  obtain ⟨more, hmore⟩ := prefix_of_trimChars cs
  obtain ⟨c, rest, hrest⟩ := List.exists_cons_of_ne_nil h
  rw [hrest] at hmore ⊢
  rw [← hmore]
  rfl

/-! ## The sign and the body of a line -/

/-- The sign of a negated line. -/
def lineSign : List Point → List Point
  | Point.char '!' :: _ => [Point.char '!']
  | _ => []

/-- What a line says after its sign. -/
def lineBody : List Point → List Point
  | Point.char '!' :: body => body
  | body => body

theorem lineSign_of_ne {cs : List Point} (h : cs.head? ≠ some (.char '!')) :
    lineSign cs = [] := by
  unfold lineSign
  split
  · exact absurd rfl h
  · rfl

theorem lineBody_of_ne {cs : List Point} (h : cs.head? ≠ some (.char '!')) :
    lineBody cs = cs := by
  unfold lineBody
  split
  · exact absurd rfl h
  · rfl

/-- Trimming keeps the sign of a line, and trims its body. -/
theorem trimChars_eq (cs : List Point) :
    lineSign (trimChars cs) = lineSign cs ∧ lineBody (trimChars cs) = trimChars (lineBody cs) := by
  by_cases h : cs.head? = some (.char '!')
  · obtain ⟨body, rfl⟩ := List.head?_eq_some_iff.mp h
    have htrim : trimChars (Point.char '!' :: body) = Point.char '!' :: trimChars body :=
      trimChars_append (by decide) (by decide) [] body
    rw [htrim]
    exact ⟨rfl, rfl⟩
  · have htrim : (trimChars cs).head? ≠ some (.char '!') := by
      intro hhead
      refine h ((head?_trimChars fun hnil => ?_).symm.trans hhead)
      rw [hnil] at hhead
      cases hhead
    rw [lineSign_of_ne h, lineSign_of_ne htrim, lineBody_of_ne h, lineBody_of_ne htrim]
    exact ⟨rfl, rfl⟩

/-- The texts of the segments of a body, as they stand in the pattern. -/
def segmentTexts (body : List Point) : List (List Point) :=
  collapseStars (closeSegments (rootedSegments (splitAtSlashes body)))

/-- Whether a body asks for a folder. -/
def asksFolder (body : List Point) : Bool := (splitAtSlashes body).getLast? = some []

/-- A line that is neither blank nor a comment nor a lone slash is compiled by its body. -/
theorem Pattern.ofLine_eq {line : Text} (hne : trimChars line.toList ≠ [])
    (hremark : (trimChars line.toList).head? ≠ some (.char '#'))
    (hslash : trimChars line.toList ≠ [Point.char '/']) :
    Pattern.ofLine line = Pattern.ofTexts line
      ((trimChars line.toList).head? = some (.char '!'))
      (asksFolder (trimChars (lineBody line.toList)))
      (segmentTexts (trimChars (lineBody line.toList))) := by
  have hcs : trimLine line = trimChars line.toList := rfl
  have hbody : lineBody (trimChars line.toList) =
      if (trimChars line.toList).head? = some (.char '!') then (trimChars line.toList).drop 1
      else trimChars line.toList := by
    split
    · rename_i hsign
      obtain ⟨body, hbody⟩ := List.head?_eq_some_iff.mp hsign
      rw [hbody]
      rfl
    · rename_i hsign
      exact lineBody_of_ne hsign
  rw [← (trimChars_eq line.toList).2, hbody, Pattern.ofLine, hcs]
  rw [if_neg]
  · rfl
  · simp [hne, hremark, hslash]

/-- A line that says nothing states no pattern. -/
theorem Pattern.ofLine_of_remark {line : Text}
    (h : trimChars line.toList = [] ∨ (trimChars line.toList).head? = some (.char '#')) :
    Pattern.ofLine line = .ok none := by
  have hcs : trimLine line = trimChars line.toList := rfl
  rw [Pattern.ofLine, hcs]
  rw [if_pos]
  rcases h with h | h
  · simp [h]
  · simp [h]

/-- What a line says about a path, if it states this pattern. -/
def Pattern.decides? (found : Option Pattern) (path : List Point) : Option Bool :=
  found.bind fun p => (p.hit? path).map fun _ => !p.negated

/-- The verdict of a single line on a path. -/
def lineVerdict (line path : Text) : Except PatternFault (Option Bool) :=
  (Spec.ofLines [line]).map fun spec => spec.verdict? (relativeChars path.toList)

/-- The patterns of a single line are its own. -/
theorem Spec.ofLines_singleton (line : Text) :
    Spec.ofLines [line] = (Pattern.ofLine line).map fun found => ⟨found.toList⟩ := by
  by_cases hline : line = ""
  · subst hline
    rw [Pattern.ofLine_of_remark (.inl rfl)]
    rfl
  · simp only [Spec.ofLines, List.filter_cons, bne_iff_ne, ne_eq, hline, not_false_eq_true,
      if_true, List.filter_nil, List.mapM_cons, List.mapM_nil]
    cases Pattern.ofLine line with
    | error f => rfl
    | ok found => cases found <;> rfl

/-- The verdict of a single line is what its pattern says. -/
theorem lineVerdict_eq_ok_iff {line path : Text} {verdict : Option Bool} :
    lineVerdict line path = .ok verdict ↔
      ∃ found, Pattern.ofLine line = .ok found ∧
        verdict = Pattern.decides? found (relativeChars path.toList) := by
  rw [lineVerdict, Spec.ofLines_singleton]
  cases Pattern.ofLine line with
  | error f => simp [Except.map]
  | ok found =>
      cases found with
      | none => simp [Except.map, Pattern.decides?, Spec.verdict?_nil, eq_comm]
      | some p => simp [Except.map, Pattern.decides?, Spec.verdict?_singleton, eq_comm]

end GoogIndex.Ignore
