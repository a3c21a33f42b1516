/-
  Proofs/Storage/Name.lean --- path names, their texts and their steps.

  A text, the path name that is read from it, and the text of that path name lead along
  the same steps, except for steps that stay in place.  A path name whose names are
  names is read back from its text.
-/
import GoogIndex.Storage.Tree

set_option autoImplicit false

namespace GoogIndex.Storage

/-! ## Pieces between slashes -/

theorem splitAtSlashes_ne_nil (cs : List Point) : splitAtSlashes cs ≠ [] := by
  cases cs with
  | nil => simp [splitAtSlashes]
  | cons c rest =>
      unfold splitAtSlashes
      split
      · simp
      · split <;> simp

/-- A character other than a slash goes to the front of the first piece. -/
theorem splitAtSlashes_cons {c : Point} (hc : c ≠ Point.char '/') {rest piece : List Point}
    {more : List (List Point)} (h : splitAtSlashes rest = piece :: more) :
    splitAtSlashes (c :: rest) = (c :: piece) :: more := by
  rw [splitAtSlashes, if_neg hc, h]

theorem splitAtSlashes_slash (rest : List Point) :
    splitAtSlashes (Point.char '/' :: rest) = [] :: splitAtSlashes rest := by
  rw [splitAtSlashes, if_pos rfl]

/-- The characters of the pieces are those of the text, without the slashes. -/
theorem mem_splitAtSlashes_iff {c : Point} {cs : List Point} :
    (∃ piece ∈ splitAtSlashes cs, c ∈ piece) ↔ c ∈ cs ∧ c ≠ Point.char '/' := by
  induction cs with
  | nil => simp [splitAtSlashes]
  | cons d rest ih =>
      by_cases hd : d = Point.char '/'
      · subst hd
        rw [splitAtSlashes_slash]
        simp only [List.mem_cons, exists_eq_or_imp, List.not_mem_nil, false_or, ih]
        constructor
        · rintro ⟨hmem, hne⟩
          exact ⟨.inr hmem, hne⟩
        · rintro ⟨rfl | hmem, hne⟩
          · exact absurd rfl hne
          · exact ⟨hmem, hne⟩
      · cases hrest : splitAtSlashes rest with
        | nil => exact absurd hrest (splitAtSlashes_ne_nil rest)
        | cons piece more =>
            rw [splitAtSlashes_cons hd hrest]
            rw [hrest] at ih
            simp only [List.mem_cons, exists_eq_or_imp] at ih ⊢
            rw [or_assoc, ih]
            constructor
            · rintro (rfl | ⟨hmem, hne⟩)
              · exact ⟨.inl rfl, hd⟩
              · exact ⟨.inr hmem, hne⟩
            · rintro ⟨rfl | hmem, hne⟩
              · exact .inl rfl
              · exact .inr ⟨hmem, hne⟩

theorem slash_not_mem_of_mem_splitAtSlashes {cs piece : List Point}
    (h : piece ∈ splitAtSlashes cs) : Point.char '/' ∉ piece := fun hslash =>
  (mem_splitAtSlashes_iff.mp ⟨piece, h, hslash⟩).2 rfl

/-- A text without a slash is one piece. -/
theorem splitAtSlashes_of_not_mem {cs : List Point} (h : Point.char '/' ∉ cs) :
    splitAtSlashes cs = [cs] := by
  induction cs with
  | nil => rfl
  | cons c rest ih =>
      rw [List.mem_cons, not_or] at h
      exact splitAtSlashes_cons (Ne.symm h.1) (ih h.2)

theorem splitAtSlashes_append {piece : List Point} (h : Point.char '/' ∉ piece)
    (rest : List Point) :
    splitAtSlashes (piece ++ Point.char '/' :: rest) = piece :: splitAtSlashes rest := by
  induction piece with
  | nil => exact splitAtSlashes_slash rest
  | cons c cs ih =>
      rw [List.mem_cons, not_or] at h
      exact splitAtSlashes_cons (Ne.symm h.1) (ih h.2)

/-- Cutting at slashes undoes putting slashes between pieces. -/
theorem splitAtSlashes_intercalate {pieces : List (List Point)} (hne : pieces ≠ [])
    (h : ∀ piece ∈ pieces, Point.char '/' ∉ piece) :
    splitAtSlashes ([Point.char '/'].intercalate pieces) = pieces := by
  induction pieces with
  | nil => exact absurd rfl hne
  | cons piece more ih =>
      cases more with
      | nil =>
          rw [List.intercalate_singleton]
          exact splitAtSlashes_of_not_mem (h piece List.mem_cons_self)
      | cons next more =>
          rw [List.intercalate_cons_cons, List.append_assoc, List.singleton_append,
            splitAtSlashes_append (h piece List.mem_cons_self),
            ih (by simp) (fun p hp => h p (List.mem_cons_of_mem piece hp))]

/-- Putting slashes between the pieces of a text gives the text. -/
theorem intercalate_splitAtSlashes (cs : List Point) :
    [Point.char '/'].intercalate (splitAtSlashes cs) = cs := by
  induction cs with
  | nil => rfl
  | cons c rest ih =>
      by_cases hc : c = Point.char '/'
      · subst hc
        rw [splitAtSlashes_slash, List.intercalate_cons_of_ne_nil (splitAtSlashes_ne_nil rest), ih]
        rfl
      · cases hrest : splitAtSlashes rest with
        | nil => exact absurd hrest (splitAtSlashes_ne_nil rest)
        | cons piece more =>
            rw [hrest] at ih
            rw [splitAtSlashes_cons hc hrest, ← ih]
            cases more with
            | nil => simp [List.intercalate_singleton]
            | cons next more => simp [List.intercalate_cons_cons]

/-! ## Path names and their texts -/

/-- A name that an entry can have. -/
def IsName (n : Text) : Prop := n ≠ "" ∧ n ≠ "." ∧ Point.char '/' ∉ n.toList

instance (n : Text) : Decidable (IsName n) := inferInstanceAs (Decidable (_ ∧ _ ∧ _))

namespace PathName

/-- A path name that is made of names. -/
def Legal (p : PathName) : Prop := ∀ n ∈ p.names, IsName n

theorem legal_ofText (s : Text) : (ofText s).Legal := by
  intro n hn
  simp only [ofText, List.mem_filter, List.mem_map, Bool.and_eq_true, bne_iff_ne] at hn
  obtain ⟨⟨piece, hpiece, rfl⟩, hempty, hpoint⟩ := hn
  refine ⟨hempty, hpoint, ?_⟩
  rw [Text.toList_ofList]
  exact slash_not_mem_of_mem_splitAtSlashes hpiece

theorem legal_join {base p : PathName} (hbase : base.Legal) (hp : p.Legal) :
    (base.join p).Legal := by
  unfold join
  split
  · exact hp
  · intro n hn
    rcases List.mem_append.mp hn with hn | hn
    · exact hbase n hn
    · exact hp n hn

theorem legal_parent {p : PathName} (hp : p.Legal) : p.parent.Legal := fun n hn =>
  hp n (List.dropLast_subset p.names hn)

/-- The names between slashes, after the anchor. -/
theorem toList_toText {p : PathName} (h : ¬ (p.anchor = .relative ∧ p.names = [])) :
    p.toText.toList = p.anchor.text.toList ++
      [Point.char '/'].intercalate (p.names.map Text.toList) := by
  rw [toText, if_neg h, Text.toList_append, joinSlashes, Text.toList_intercalate]
  rfl

/-- The pieces of a text are its names, after empty ones for the anchor. -/
theorem pieces_toText {p : PathName} (hp : p.Legal) (hne : p.names ≠ []) :
    ∃ front : List Text, (∀ n ∈ front, n = "") ∧
      (splitAtSlashes p.toText.toList).map Text.ofList = front ++ p.names := by
  have hpieces : splitAtSlashes ([Point.char '/'].intercalate (p.names.map Text.toList)) =
      p.names.map Text.toList := by
    refine splitAtSlashes_intercalate (by simpa using hne) ?_
    intro piece hpiece
    obtain ⟨n, hn, rfl⟩ := List.mem_map.mp hpiece
    exact (hp n hn).2.2
  have hback : (p.names.map Text.toList).map Text.ofList = p.names := by simp
  rw [toList_toText (fun h => hne h.2)]
  cases p.anchor with
  | relative =>
      refine ⟨[], by simp, ?_⟩
      show List.map _ (splitAtSlashes ([Point.char '/'].intercalate _)) = _
      rw [hpieces, hback, List.nil_append]
  | root =>
      refine ⟨[""], by simp, ?_⟩
      show List.map _ (splitAtSlashes (Point.char '/' :: [Point.char '/'].intercalate _)) = _
      rw [splitAtSlashes_slash, hpieces, List.map_cons, hback]
      rfl
  | doubleRoot =>
      refine ⟨["", ""], by simp, ?_⟩
      show List.map _ (splitAtSlashes
        (Point.char '/' :: Point.char '/' :: [Point.char '/'].intercalate _)) = _
      rw [splitAtSlashes_slash, splitAtSlashes_slash, hpieces, List.map_cons, List.map_cons, hback]
      rfl

/-- The pieces of a text that are not empty are its names. -/
theorem filter_pieces_toText {p : PathName} (hp : p.Legal) (hne : p.names ≠ []) :
    ((splitAtSlashes p.toText.toList).map Text.ofList).filter (fun n => n != ("" : Text)) =
      p.names := by
  obtain ⟨front, hfront, hpieces⟩ := pieces_toText hp hne
  have hnone : front.filter (· != ("" : Text)) = [] := by
    rw [List.filter_eq_nil_iff]
    intro n hn
    simp [hfront n hn]
  have hall : p.names.filter (fun n => n != ("" : Text)) = p.names := by
    rw [List.filter_eq_self]
    intro n hn
    simpa using (hp n hn).1
  rw [hpieces, List.filter_append, hnone, hall, List.nil_append]

/-- The anchor of a text is the one that its first slashes say. -/
theorem anchorOf_text (a : Anchor) {cs : List Point} (h : cs.head? ≠ some (.char '/')) :
    anchorOf (a.text.toList ++ cs) = a := by
  cases cs with
  | nil => cases a <;> rfl
  | cons c rest =>
      have hc : c ≠ Point.char '/' := by simpa using h
      cases a with
      | relative =>
          show anchorOf (c :: rest) = _
          rw [anchorOf] <;> simp [hc]
      | root =>
          show anchorOf (Point.char '/' :: c :: rest) = _
          rw [anchorOf] <;> simp [hc]
      | doubleRoot =>
          show anchorOf (Point.char '/' :: Point.char '/' :: c :: rest) = _
          rw [anchorOf]
          simp [hc]

/-- The names that a text has besides steps that stay in place. -/
theorem names_ofText (s : Text) :
    (ofText s).names =
      (((splitAtSlashes s.toList).map Text.ofList).filter (· != ("" : Text))).filter
        (· != ("." : Text)) := by
  rw [List.filter_filter]
  simp only [ofText]
  congr 1
  funext n
  rw [Bool.and_comm]

/-- A path name is read back from its text. -/
theorem ofText_toText {p : PathName} (hp : p.Legal) : ofText p.toText = p := by
  by_cases hne : p.names = []
  · rcases p with ⟨anchor, names⟩
    subst hne
    cases anchor <;> rfl
  · have hnames : (ofText p.toText).names = p.names := by
      rw [names_ofText, filter_pieces_toText hp hne, List.filter_eq_self]
      intro n hn
      simpa using (hp n hn).2.1
    have hanchor : (ofText p.toText).anchor = p.anchor := by
      show anchorOf p.toText.toList = p.anchor
      rw [toList_toText (fun h => hne h.2)]
      refine anchorOf_text p.anchor ?_
      cases hns : p.names with
      | nil => exact absurd hns hne
      | cons n more =>
          -- the first name has a first character, and it is no slash
          obtain ⟨hempty, _, hslash⟩ := hp n (by rw [hns]; exact List.mem_cons_self)
          cases hchars : n.toList with
          | nil => exact absurd (Text.toList_eq_nil_iff.mp hchars) hempty
          | cons c cs =>
              rw [hchars, List.mem_cons, not_or] at hslash
              cases more <;> simp [hchars, List.intercalate_cons_cons, Ne.symm hslash.1]
    exact congr (congrArg PathName.mk hanchor) hnames

end PathName

/-! ## Steps -/

open GoogIndex.Storage.Tree

/-- The second list is the first without some of the steps that stay in place. -/
inductive Thinned : List Step → List Step → Prop where
  | nil : Thinned [] []
  | keep {a b : List Step} (step : Step) : Thinned a b → Thinned (step :: a) (step :: b)
  | drop {a b : List Step} : Thinned a b → Thinned (.stay :: a) b

namespace Thinned

theorem refl (a : List Step) : Thinned a a := by
  induction a with
  | nil => exact .nil
  | cons step rest ih => exact .keep step ih

theorem append {a b c d : List Step} (h : Thinned a b) (h' : Thinned c d) :
    Thinned (a ++ c) (b ++ d) := by
  induction h with
  | nil => exact h'
  | keep step _ ih => exact .keep step ih
  | drop _ ih => exact .drop ih

theorem filter_stay (a : List Step) : Thinned a (a.filter (· ≠ .stay)) := by
  induction a with
  | nil => exact .nil
  | cons step rest ih =>
      by_cases h : step = .stay
      · subst h
        exact .drop ih
      · rw [List.filter_cons_of_pos (by simpa using h)]
        exact .keep step ih

/-- Nothing is left out of steps only if they all stay in place. -/
theorem getLast?_of_nil {a : List Step} (h : Thinned a []) : a = [] ∨ a.getLast? = some .stay := by
  generalize hnil : ([] : List Step) = b at h
  induction h with
  | nil => exact .inl rfl
  | keep _ _ => cases hnil
  | @drop a b _ ih =>
      right
      rcases ih hnil with hempty | hlast
      · rw [hempty, ← hnil]
        rfl
      · rw [List.getLast?_cons, hlast]
        rfl

/-- The last step is kept unless it stays in place. -/
theorem concat {a b : List Step} {step : Step} (h : Thinned a (b ++ [step]))
    (hlast : a.getLast? ≠ some .stay) : ∃ front, a = front ++ [step] ∧ Thinned front b := by
  generalize hall : b ++ [step] = all at h
  induction h generalizing b with
  | nil => simp at hall
  | @keep a rest s hrest ih =>
      cases b with
      | nil =>
          obtain ⟨rfl, rfl⟩ := List.cons.inj hall
          rcases hrest.getLast?_of_nil with rfl | hstay
          · exact ⟨[], rfl, .nil⟩
          · exact absurd (by rw [List.getLast?_cons, hstay]; rfl) hlast
      | cons t b =>
          obtain ⟨rfl, hmore⟩ := List.cons.inj hall
          have hlast' : a.getLast? ≠ some .stay := by
            intro hstay
            exact hlast (by rw [List.getLast?_cons, hstay]; rfl)
          obtain ⟨front, rfl, hfront⟩ := ih hlast' hmore
          exact ⟨t :: front, rfl, .keep t hfront⟩
  | @drop a rest hrest ih =>
      have hlast' : a.getLast? ≠ some .stay := by
        intro hstay
        exact hlast (by rw [List.getLast?_cons, hstay]; rfl)
      obtain ⟨front, rfl, hfront⟩ := ih hlast' hall
      exact ⟨.stay :: front, rfl, .drop hfront⟩

end Thinned

theorem map_ofName_filter (names : List Text) :
    (names.filter (· != ("." : Text))).map Step.ofName =
      (names.map Step.ofName).filter (· ≠ .stay) := by
  rw [List.filter_map]
  congr 1
  refine List.filter_congr ?_
  intro n _
  by_cases h : n = "."
  · simp [h, Step.ofName]
  · by_cases h' : n = ".." <;> simp [h, h', Step.ofName]

/-- A text and its path name lead along the same steps. -/
theorem thinned_steps (s : Text) :
    Thinned (steps s) ((PathName.ofText s).names.map Step.ofName) := by
  rw [PathName.names_ofText, map_ofName_filter]
  have hfound := Thinned.filter_stay
    ((((splitAtSlashes s.toList).map Text.ofList).filter (· != ("" : Text))).map Step.ofName)
  by_cases hlast : ((splitAtSlashes s.toList).map Text.ofList).getLast? = some ("" : Text)
  · simp only [steps, hlast, if_true]
    have h := hfound.append (.drop .nil : Thinned [.stay] [])
    rwa [List.append_nil] at h
  · simp only [steps, hlast, if_false]
    exact hfound

/-- The text of a path name leads along the steps of its names. -/
theorem thinned_steps_toText {p : PathName} (hp : p.Legal) :
    Thinned (steps p.toText) (p.names.map Step.ofName) := by
  have h := thinned_steps p.toText
  rwa [PathName.ofText_toText hp] at h

/-- The text of a path name has no slash at its end, so its names are all its steps. -/
theorem steps_toText {p : PathName} (hp : p.Legal) (hne : p.names ≠ []) :
    steps p.toText = p.names.map Step.ofName := by
  obtain ⟨front, _, hpieces⟩ := PathName.pieces_toText hp hne
  have hlast : ((splitAtSlashes p.toText.toList).map Text.ofList).getLast? ≠ some ("" : Text) := by
    intro h
    rw [hpieces, List.getLast?_append, List.getLast?_eq_some_getLast hne, Option.some_or,
      Option.some.injEq] at h
    exact (hp "" (h ▸ List.getLast_mem hne)).1 rfl
  simp only [steps, hlast, if_false, PathName.filter_pieces_toText hp hne]

/-- A path name without names leads nowhere else. -/
theorem steps_toText_of_nil {p : PathName} (h : p.names = []) : steps p.toText = [.stay] := by
  rcases p with ⟨anchor, names⟩
  subst h
  cases anchor <;> decide

/-- A text ends with its last piece, with a slash before it if there are more. -/
theorem suffix_of_getLast?_splitAtSlashes {cs last : List Point}
    (h : (splitAtSlashes cs).getLast? = some last) :
    cs = last ∨ (Point.char '/' :: last) <:+ cs := by
  rw [← intercalate_splitAtSlashes cs]
  generalize splitAtSlashes cs = pieces at h
  induction pieces with
  | nil => simp at h
  | cons piece more ih =>
      cases more with
      | nil =>
          left
          simpa [List.intercalate_singleton] using h
      | cons next more =>
          right
          rw [List.intercalate_cons_cons, List.append_assoc]
          rcases ih (by simpa using h) with heq | hsuffix
          · exact ⟨piece, by rw [heq]; rfl⟩
          · exact (hsuffix.trans (List.suffix_append [Point.char '/'] _)).trans
              (List.suffix_append piece _)

/-- A text that ends with a name has that name for its last step. -/
theorem getLast?_steps_ne_stay {s : Text} (hslash : ¬ [Point.char '/'] <:+ s.toList)
    (hpoint : ¬ [Point.char '/', Point.char '.'] <:+ s.toList)
    (hne : (PathName.ofText s).names ≠ []) :
    (steps s).getLast? ≠ some .stay := by
  cases hlast : (splitAtSlashes s.toList).getLast? with
  | none => exact absurd (List.getLast?_eq_none_iff.mp hlast) (splitAtSlashes_ne_nil _)
  | some last =>
      have hsuffix := suffix_of_getLast?_splitAtSlashes hlast
      have hempty : last ≠ [] := by
        rintro rfl
        rcases hsuffix with heq | hsuffix
        · exact hne (by rw [PathName.ofText, heq]; rfl)
        · exact hslash hsuffix
      have hstay : last ≠ [Point.char '.'] := by
        rintro rfl
        rcases hsuffix with heq | hsuffix
        · exact hne (by rw [PathName.ofText, heq]; rfl)
        · exact hpoint hsuffix
      obtain ⟨front, hfront⟩ := List.getLast?_eq_some_iff.mp hlast
      have hname : Text.ofList last ≠ "" := by
        intro h
        rw [← Text.toList_inj, Text.toList_ofList] at h
        exact hempty h
      have hstep : Step.ofName (Text.ofList last) ≠ .stay := by
        intro h
        refine hstay ?_
        have hpiece : Text.ofList last = "." := by
          unfold Step.ofName at h
          split at h
          · assumption
          · split at h <;> cases h
        rw [← Text.toList_inj, Text.toList_ofList] at hpiece
        exact hpiece
      simp only [steps, hfront, List.map_append, List.map_singleton, List.getLast?_concat,
        Option.some.injEq, hname, if_false, List.filter_append]
      rw [List.filter_cons_of_pos (by simpa using hname), List.map_cons, List.filter_nil,
        List.map_nil, List.getLast?_concat]
      intro h
      exact hstep (Option.some.inj h)

/-- Every text has a step. -/
theorem steps_ne_nil (s : Text) : steps s ≠ [] := by
  intro h
  have hpieces : (splitAtSlashes s.toList).map Text.ofList ≠ [] := by
    simpa using splitAtSlashes_ne_nil s.toList
  have hlast := List.getLast?_eq_some_getLast hpieces
  have hmem := List.getLast_mem hpieces
  generalize ((splitAtSlashes s.toList).map Text.ofList).getLast hpieces = last at hlast hmem
  unfold steps at h
  simp only [hlast, Option.some.injEq] at h
  split at h
  · simp at h
  · rename_i hne
    -- the last piece is a name, so it makes a step
    rw [List.map_eq_nil_iff, List.filter_eq_nil_iff] at h
    exact h last hmem (by simpa using hne)

/-- A text starts at the root if its path name does. -/
theorem startsAtRoot_eq (s : Text) : startsAtRoot s = (PathName.ofText s).isAbsolute := by
  show decide (s.toList.head? = some (.char '/')) = (PathName.anchorOf s.toList != .relative)
  unfold PathName.anchorOf
  split
  · simp_all
  · simp_all
  · simp_all
  · rename_i h₁ h₂ h₃
    cases hs : s.toList with
    | nil => rfl
    | cons c rest =>
        have hc : c ≠ Point.char '/' := by
          rintro rfl
          exact h₃ rest hs
        simpa using hc

/-- A path and the text of its path name start at the same place. -/
theorem start_toText (t : Tree) (s : Text) {p : PathName} (hp : p.Legal)
    (h : p.anchor = (PathName.ofText s).anchor) : t.start p.toText = t.start s := by
  rw [start, start, startsAtRoot_eq, startsAtRoot_eq, PathName.ofText_toText hp,
    PathName.isAbsolute, PathName.isAbsolute, h]

/-- An absolute path starts at the root. -/
theorem start_of_absolute (t : Tree) {s : Text} (h : (PathName.ofText s).isAbsolute = true) :
    t.start s = [] := by
  rw [start, startsAtRoot_eq, if_pos h]

/-- The text of a path name with a root is absolute. -/
theorem isAbsolute_toText {p : PathName} (h : p.anchor = .root) :
    (PathName.ofText p.toText).isAbsolute = true := by
  obtain ⟨anchor, names⟩ := p
  cases h
  rw [← startsAtRoot_eq]
  rfl

/-- A path name has a text. -/
theorem toText_ne_empty {p : PathName} (hp : p.Legal) : p.toText ≠ "" := by
  intro h
  have hnormal := PathName.ofText_toText hp
  rw [h] at hnormal
  rw [← hnormal] at h
  revert h
  decide

/-- More names make no shorter text. -/
theorem byteSize_joinSlashes_le (front back : List Text) :
    (joinSlashes front).byteSize ≤ (joinSlashes (front ++ back)).byteSize := by
  by_cases hfront : front = []
  · rw [hfront]
    exact Nat.zero_le _
  by_cases hback : back = []
  · simp [hback]
  · rw [joinSlashes, joinSlashes, Text.intercalate_append_of_ne_nil _ hfront hback,
      Text.byteSize_append, Text.byteSize_append]
    omega

/-- The text of a folder is no longer than that of an entry in it. -/
theorem byteSize_toText_le (anchor : Anchor) (front : List Text) {last : Text}
    (hlast : last ≠ "") :
    (PathName.mk anchor front).toText.byteSize ≤
      (PathName.mk anchor (front ++ [last])).toText.byteSize := by
  have hentry : ¬ (anchor = .relative ∧ front ++ [last] = []) := by simp
  simp only [PathName.toText, if_neg hentry, Text.byteSize_append]
  split
  · rename_i hnone
    rw [hnone.2, List.nil_append, joinSlashes, Text.intercalate_singleton]
    have hpos := Text.byteSize_pos hlast
    have hpoint : Text.byteSize "." = 1 := by decide
    omega
  · rw [Text.byteSize_append]
    exact Nat.add_le_add_left (byteSize_joinSlashes_le _ _) _

/-- A text is a path exactly if all of its names are. -/
theorem breach?_eq_none_iff_names {s : Text} :
    breach? s = none ↔ ∀ n ∈ (PathName.ofText s).names, breach? n = none := by
  simp only [breach?_eq_none_iff]
  constructor
  · intro h n hn p hp
    rw [PathName.names_ofText] at hn
    obtain ⟨piece, hpiece, rfl⟩ := List.mem_map.mp (List.mem_filter.mp (List.mem_filter.mp hn).1).1
    exact h p (mem_splitAtSlashes_iff.mp ⟨piece, hpiece, hp⟩).1
  · intro h p hp
    -- a slash and a name of one point may stand in every path
    by_cases hslash : p = '/'
    · subst hslash
      rfl
    obtain ⟨piece, hpiece, hmem⟩ := mem_splitAtSlashes_iff.mpr ⟨hp, hslash⟩
    by_cases hstay : Text.ofList piece = "."
    · have hpoint : piece = [Point.char '.'] := congrArg Text.toList hstay
      rw [hpoint, List.mem_singleton] at hmem
      subst hmem
      rfl
    refine h (.ofList piece) ?_ p hmem
    rw [PathName.names_ofText]
    simp only [List.mem_filter, List.mem_map, bne_iff_ne]
    refine ⟨⟨⟨piece, hpiece, rfl⟩, fun hempty => ?_⟩, hstay⟩
    have hnil : piece = [] := congrArg Text.toList hempty
    rw [hnil] at hmem
    exact absurd hmem List.not_mem_nil

/-- The text of a path name is a path exactly if the text it is read from is one. -/
theorem breach?_toText_eq_none_iff {s : Text} :
    breach? (PathName.ofText s).toText = none ↔ breach? s = none := by
  rw [breach?_eq_none_iff_names, PathName.ofText_toText (PathName.legal_ofText s),
    ← breach?_eq_none_iff_names]

end GoogIndex.Storage
