/-
  Proofs/Ignore/Portability.lean --- lines that keep their meaning below a folder.

  Normative source: SPEC_FULL §4.4, `_translate_gitignore_pattern`.

  A line in terms of the root says of a path behind the folder what the line says of the
  path itself.  The items after the folder's names match a path with a slash in front as
  those of the line match the path; the conditions that are no items agree with them on
  paths as they are handed over, whose names are not empty.  Some lines are out of it: they
  are trimmed, spread over every depth or left out as a comment at one place and not at the
  other.
-/
import GoogIndex.Proofs.Ignore.Rerooting

set_option autoImplicit false

namespace GoogIndex.Ignore

open GoogIndex.Storage GoogIndex.Text

/-! ## Paths -/

/-- A path whose names are not empty; a slash may stand at its end. -/
structure Tidy (path : List Point) : Prop where
  nonempty : path ≠ []
  pieces : ∀ piece ∈ (splitAtSlashes path).dropLast, piece ≠ []

theorem splitAtSlashes_append_slash (front rest : List Point) :
    splitAtSlashes (front ++ Point.char '/' :: rest) =
      splitAtSlashes front ++ splitAtSlashes rest := by
  induction front with
  | nil => exact splitAtSlashes_slash rest
  | cons c more ih =>
      by_cases hc : c = Point.char '/'
      · subst hc
        rw [List.cons_append, splitAtSlashes_slash, splitAtSlashes_slash, ih]
        rfl
      · cases hmore : splitAtSlashes more with
        | nil => exact absurd hmore (splitAtSlashes_ne_nil more)
        | cons piece pieces =>
            rw [hmore, List.cons_append] at ih
            rw [List.cons_append, splitAtSlashes_cons hc ih, splitAtSlashes_cons hc hmore]
            rfl

namespace Tidy

variable {path : List Point}

/-- Two slashes do not follow each other. -/
theorem not_doubled (h : Tidy path) : ¬ [Point.char '/', Point.char '/'] <:+: path := by
  rintro ⟨front, rest, rfl⟩
  have hne := splitAtSlashes_ne_nil rest
  refine h.pieces [] ?_ rfl
  rw [List.append_assoc, List.cons_append, List.cons_append, List.nil_append,
    splitAtSlashes_append_slash, splitAtSlashes_slash, List.dropLast_append_of_ne_nil (by simp),
    List.dropLast_cons_of_ne_nil hne]
  simp

/-- A path begins with a character of a name. -/
theorem exists_cons (h : Tidy path) : ∃ c rest, path = c :: rest ∧ c ≠ Point.char '/' := by
  cases path with
  | nil => exact absurd rfl h.nonempty
  | cons c rest =>
      refine ⟨c, rest, rfl, ?_⟩
      rintro rfl
      refine h.pieces [] ?_ rfl
      rw [splitAtSlashes_slash, List.dropLast_cons_of_ne_nil (splitAtSlashes_ne_nil rest)]
      simp

/-- With a slash in front, two slashes do not follow each other either. -/
theorem not_doubled_cons (h : Tidy path) :
    ¬ [Point.char '/', Point.char '/'] <:+: Point.char '/' :: path := by
  intro hdoubled
  obtain ⟨c, rest, rfl, hc⟩ := h.exists_cons
  rcases List.infix_cons_iff.mp hdoubled with ⟨more, hprefix⟩ | hinfix
  · cases hprefix
    exact hc rfl
  · exact h.not_doubled hinfix

/-- Names with slashes between them make such a path, with a slash at the end or without. -/
theorem of_joinSlashes {below : List Text} (hne : below ≠ []) (hnames : ∀ n ∈ below, IsName n)
    {q : Text} (hq : q = joinSlashes below ∨ q = joinSlashes below ++ "/") : Tidy q.toList := by
  have hpieces : ∀ piece ∈ below.map Text.toList, Point.char '/' ∉ piece ∧ piece ≠ [] := by
    rw [List.forall_mem_map]
    exact fun n hn => ⟨(hnames n hn).2.2, fun hnil =>
      (hnames n hn).1 (Text.toList_eq_nil_iff.mp hnil)⟩
  have hsplit : splitAtSlashes (joinSlashes below).toList = below.map Text.toList := by
    rw [joinSlashes, Text.toList_intercalate]
    exact splitAtSlashes_intercalate (by simpa using hne)
      fun piece hpiece => (hpieces piece hpiece).1
  have hjoined : ∀ piece ∈ splitAtSlashes (joinSlashes below).toList, piece ≠ [] := by
    rw [hsplit]
    exact fun piece hpiece => (hpieces piece hpiece).2
  rcases hq with rfl | rfl
  · refine ⟨fun hnil => ?_, fun piece hpiece => hjoined piece (List.dropLast_subset _ hpiece)⟩
    rw [hnil] at hjoined
    exact hjoined [] List.mem_cons_self rfl
  · have hclosed : splitAtSlashes (joinSlashes below ++ "/").toList =
        splitAtSlashes (joinSlashes below).toList ++ [[]] := by
      rw [Text.toList_append]
      exact splitAtSlashes_append_slash _ []
    refine ⟨by simp, ?_⟩
    rw [hclosed, List.dropLast_concat]
    exact hjoined

end Tidy

/-! ## Matching behind a folder -/

/-- The items of segments, after others and a slash, match what they match in front. -/
theorem exists_restAtoms_of_segmentAtoms {segments : List Segment} {atoms : List Atom}
    (hne : segments ≠ []) (hfolders : segments ≠ [.folders])
    (htwice : ∀ rest, segments ≠ .folders :: .folders :: rest)
    (h : segmentAtoms segments = .ok atoms) :
    ∃ more, restAtoms 0 segments = .ok more ∧ ∀ ending path,
      matchAtoms ending more (Point.char '/' :: path) = matchAtoms ending atoms path := by
  cases segments with
  | nil => exact absurd rfl hne
  | cons s rest =>
      by_cases hs : s = .folders
      · subst hs
        cases rest with
        | nil => exact absurd rfl hfolders
        | cons next rest =>
            obtain ⟨front, more, hfront, hmore, rfl⟩ := segmentAtoms_folders_iff.mp h
            have hnext : next ≠ .folders := by
              rintro rfl
              exact htwice rest rfl
            refine ⟨.innerFolders :: (.literal (.char '/') :: front ++ more), ?_,
              fun ending path => ?_⟩
            · refine (restAtoms_folders_iff (List.cons_ne_nil next rest)).mpr ⟨_, ?_, rfl⟩
              exact (restAtoms_cons_iff hnext).mpr ⟨front, more, hfront, hmore, rfl⟩
            · exact matchAtoms_innerFolders ending (front ++ more) path
      · obtain ⟨front, more, hfront, hmore, rfl⟩ := (segmentAtoms_cons_iff hs).mp h
        refine ⟨.literal (.char '/') :: front ++ more, ?_, fun ending path => ?_⟩
        · exact (restAtoms_cons_iff hs).mpr ⟨front, more, hfront, hmore, rfl⟩
        · exact matchAtoms_literals ending [Point.char '/'] path (front ++ more)

/-- A name at any depth, at the end of the path or of a folder on it, is in every path. -/
theorem isSome_matchAtoms_name {path : List Point} (h : Tidy path) {ending : Ending}
    (hend : (ending.hit? (path.dropWhile isNameChar)).isSome) :
    (matchAtoms ending [.leadingFolders, .name] path).isSome := by
  obtain ⟨c, rest, rfl, hc⟩ := h.exists_cons
  have hchar : isNameChar c = true := by simp [isNameChar, hc]
  have hname : (matchAtoms ending [.name] (c :: rest)).isSome := by
    rw [List.dropWhile_cons_of_pos hchar] at hend
    rw [matchAtoms, Atom.step, longestNonempty, if_pos hchar]
    exact longestFirst_isSome hend
  rw [matchAtoms, Atom.step]
  split
  · rfl
  · exact hname

/-- The rest of a path after a name is nothing or begins with a slash. -/
theorem dropWhile_isNameChar (path : List Point) :
    path.dropWhile isNameChar = [] ∧ Point.char '/' ∉ path ∨
      (∃ rest, path.dropWhile isNameChar = Point.char '/' :: rest) ∧ Point.char '/' ∈ path := by
  induction path with
  | nil => exact .inl ⟨rfl, by simp⟩
  | cons c more ih =>
      by_cases hc : c = Point.char '/'
      · subst hc
        exact .inr ⟨⟨more, rfl⟩, List.mem_cons_self⟩
      · rw [List.dropWhile_cons_of_pos (by simp [isNameChar, hc])]
        simpa [List.mem_cons, Ne.symm hc] using ih

/-- Every path with a visible character is matched by a name at any depth. -/
theorem isSome_everything {path : List Point} (h : Tidy path)
    (hvisible : ∃ c ∈ path, c ≠ Point.char '\n') :
    (matchAtoms .entry [.leadingFolders, .name] path).isSome =
      (Matcher.everything.hit? path).isSome := by
  have hend : (Ending.entry.hit? (path.dropWhile isNameChar)).isSome := by
    rcases dropWhile_isNameChar path with ⟨hnil, _⟩ | ⟨⟨rest, hrest⟩, _⟩
    · rw [hnil]
      rfl
    · rw [hrest]
      rfl
  have hany : path.any (· != Point.char '\n') = true := by simpa using hvisible
  rw [isSome_matchAtoms_name h hend, Matcher.hit?, if_pos hany]
  rfl

/-- The paths with a slash are those that go on behind a name. -/
theorem isSome_inFolder {path : List Point} (h : Tidy path) (folderOnly : Bool) (hit : Hit) :
    (matchAtoms (endingOf folderOnly [.folders]) [.leadingFolders, .name] path).isSome =
      ((Matcher.inFolder hit).hit? path).isSome := by
  rw [Matcher.hit?]
  rcases dropWhile_isNameChar path with ⟨_, hnone⟩ | ⟨⟨rest, hrest⟩, hslash⟩
  · rw [if_neg (by simpa using hnone), Option.isSome_none]
    cases hmatch : matchAtoms (endingOf folderOnly [.folders]) [.leadingFolders, .name] path with
    | none => rfl
    | some found =>
        have hsplit : matchAtoms (endingOf folderOnly [.folders])
            ([.leadingFolders, .name] ++ []) path = some found := hmatch
        obtain ⟨behind, hbehind, hend⟩ := exists_rest_of_matchAtoms hsplit
        obtain ⟨rest, rfl⟩ := exists_slash_of_ending hend
        exact absurd (hbehind.subset List.mem_cons_self) hnone
  · rw [if_pos (by simpa using hslash), Option.isSome_some]
    refine isSome_matchAtoms_name h ?_
    rw [hrest]
    cases folderOnly <;> rfl

/-- A condition on paths, and the items that stand for it after a folder's names, hold of the
same paths. -/
theorem exists_restAtoms_of_matcherOf {folderOnly : Bool} {segments : List Segment}
    {matcher : Matcher} (hne : segments ≠ []) (hstars : segments = [.folders] → folderOnly = false)
    (htwice : ∀ rest, segments ≠ .folders :: .folders :: rest)
    (h : matcherOf folderOnly segments = .ok matcher) :
    ∃ atoms, restAtoms 0 segments = .ok atoms ∧
      ∀ path, Tidy path → (∃ c ∈ path, c ≠ Point.char '\n') →
        (matchAtoms (endingOf folderOnly segments) atoms (Point.char '/' :: path)).isSome =
          (matcher.hit? path).isSome := by
  unfold matcherOf at h
  split at h
  · rw [hstars rfl] at h
    have hmatcher : matcher = .everything := (Except.ok.inj h).symm
    subst hmatcher
    refine ⟨[], rfl, fun path _ hvisible => ?_⟩
    rw [hstars rfl, Matcher.hit?, if_pos (by simpa using hvisible)]
    rfl
  · cases h
    have hitems : segmentAtoms [.folders, .name] = .ok [.leadingFolders, .name] := rfl
    obtain ⟨atoms, hatoms, hmatch⟩ :=
      exists_restAtoms_of_segmentAtoms hne (by simp) htwice hitems
    refine ⟨atoms, hatoms, fun path hpath hvisible => ?_⟩
    rw [hmatch, ← isSome_everything hpath hvisible]
    rfl
  · cases h
    have hitems : segmentAtoms [.folders, .name, .folders] = .ok [.leadingFolders, .name] := rfl
    obtain ⟨atoms, hatoms, hmatch⟩ :=
      exists_restAtoms_of_segmentAtoms hne (by simp) htwice hitems
    refine ⟨atoms, hatoms, fun path hpath _ => ?_⟩
    rw [hmatch]
    exact isSome_inFolder hpath folderOnly _
  · obtain ⟨items, hitems, hmatcher⟩ := bind_eq_ok_iff.mp h
    cases hmatcher
    rename_i hfolders _ _
    obtain ⟨atoms, hatoms, hmatch⟩ :=
      exists_restAtoms_of_segmentAtoms hne hfolders htwice hitems
    refine ⟨atoms, hatoms, fun path _ _ => ?_⟩
    rw [hmatch]
    rfl

/-- An empty segment before the last two stars ends the items with a slash. -/
theorem exists_slash_last_of_restAtoms {front : List Segment} {atoms : List Atom}
    (h : restAtoms 0 (front ++ [.glob [], .folders]) = .ok atoms) :
    ∃ before, atoms = before ++ [.literal (.char '/')] := by
  induction front generalizing atoms with
  | nil =>
      obtain ⟨items, more, hitems, hmore, rfl⟩ :=
        (restAtoms_cons_iff (literalSegment_ne_folders [])).mp h
      rw [makes_literalSegment_iff.mp hitems]
      cases hmore
      exact ⟨[], rfl⟩
  | cons s rest ih =>
      rw [List.cons_append] at h
      by_cases hs : s = .folders
      · subst hs
        obtain ⟨more, hmore, rfl⟩ := (restAtoms_folders_iff (by simp)).mp h
        obtain ⟨before, rfl⟩ := ih hmore
        exact ⟨.innerFolders :: before, rfl⟩
      · obtain ⟨items, more, _, hmore, rfl⟩ := (restAtoms_cons_iff hs).mp h
        obtain ⟨before, rfl⟩ := ih hmore
        exact ⟨.literal (.char '/') :: items ++ before, by simp⟩

/-- Such items match only paths with two slashes in a row. -/
theorem doubled_of_restAtoms {front : List Segment} {atoms : List Atom}
    (h : restAtoms 0 (front ++ [.glob [], .folders]) = .ok atoms) {path : List Point} {hit : Hit}
    (hhit : matchAtoms .folder atoms path = some hit) :
    [Point.char '/', Point.char '/'] <:+: path := by
  obtain ⟨before, rfl⟩ := exists_slash_last_of_restAtoms h
  obtain ⟨rest, hrest, hmatch⟩ := exists_rest_of_matchAtoms hhit
  obtain ⟨c, behind, rfl, hc, hend⟩ := oneChar_eq_some_iff.mp hmatch
  have hfolder : (endingOf true [.folders]).hit? behind = some hit := hend
  obtain ⟨last, rfl⟩ := exists_slash_of_ending hfolder
  rw [beq_iff_eq.mp hc] at hrest
  exact List.IsInfix.trans ⟨[], last, rfl⟩ hrest.isInfix

/-! ## Bodies behind a folder -/

/-- A body is what dropping leaves of it, and then slashes. -/
theorem exists_replicate_of_dropAtEnd (body : List Point) :
    ∃ k, body = dropAtEnd (· == Point.char '/') body ++ List.replicate k (Point.char '/') := by
  refine ⟨(body.reverse.takeWhile (· == Point.char '/')).length, ?_⟩
  have hall : body.reverse.takeWhile (· == Point.char '/') =
      List.replicate (body.reverse.takeWhile (· == Point.char '/')).length (Point.char '/') := by
    refine List.eq_replicate_iff.mpr ⟨rfl, fun c hc => ?_⟩
    simpa using List.all_eq_true.mp List.all_takeWhile c hc
  have hsplit := congrArg List.reverse
    (List.takeWhile_append_dropWhile (p := (· == Point.char '/')) (l := body.reverse))
  rw [List.reverse_append, List.reverse_reverse, hall, List.reverse_replicate] at hsplit
  exact hsplit.symm

theorem prefix_of_dropAtEnd (c : Point) (cs : List Point) : dropAtEnd (· == c) cs <+: cs := by
  rw [dropAtEnd, ← List.reverse_suffix, List.reverse_reverse]
  exact List.dropWhile_suffix _

/-- What is behind a front only keeps more of it. -/
theorem dropAtEnd_mono (c : Point) {cs ds : List Point} (h : cs <+: ds) :
    dropAtEnd (· == c) cs <+: dropAtEnd (· == c) ds := by
  obtain ⟨more, rfl⟩ := h
  rw [dropAtEnd, dropAtEnd, List.reverse_append, List.dropWhile_append]
  split
  · exact List.prefix_refl _
  · rw [List.reverse_append, List.reverse_reverse]
    exact (prefix_of_dropAtEnd c cs).trans (List.prefix_append _ _)

/-- The pieces of a name with slashes after it. -/
theorem splitAtSlashes_replicate {name : List Point} (h : Point.char '/' ∉ name) (k : Nat) :
    splitAtSlashes (name ++ List.replicate k (Point.char '/')) = name :: List.replicate k [] := by
  induction k generalizing name with
  | zero =>
      rw [List.replicate_zero, List.append_nil]
      exact splitAtSlashes_of_not_mem h
  | succ k ih =>
      rw [List.replicate_succ, splitAtSlashes_append h, List.replicate_succ]
      have hrest := @ih [] (by simp)
      rw [List.nil_append] at hrest
      rw [hrest]

/-- A body with a slash inside is rooted as it stands. -/
theorem rootedSegments_of_inner {body : List Point} (hhead : body.head? ≠ some (.char '/'))
    (hinner : Point.char '/' ∈ dropAtEnd (· == Point.char '/') body) :
    rootedSegments (splitAtSlashes body) = splitAtSlashes body := by
  have hjoin := intercalate_splitAtSlashes body
  have hpieces : ∀ piece ∈ splitAtSlashes body, Point.char '/' ∉ piece :=
    fun piece hpiece => slash_not_mem_of_mem_splitAtSlashes hpiece
  unfold rootedSegments
  split
  · rename_i rest heq
    rw [heq] at hjoin
    cases rest with
    | nil =>
        rw [← hjoin] at hinner
        simp [dropAtEnd] at hinner
    | cons next more =>
        rw [← hjoin, List.intercalate_cons_cons] at hhead
        exact absurd rfl hhead
  · rename_i name _ heq
    rw [heq, List.intercalate_singleton] at hjoin
    subst hjoin
    exact absurd ((prefix_of_dropAtEnd (Point.char '/') name).subset hinner)
      (hpieces name (by simp [heq]))
  · rename_i name _ heq
    rw [heq, List.intercalate_cons_cons, List.intercalate_singleton, List.append_nil] at hjoin
    have hname := hpieces name (by simp [heq])
    have hdrop : dropAtEnd (· == Point.char '/') (name ++ [Point.char '/']) =
        dropAtEnd (· == Point.char '/') name := by
      simp [dropAtEnd]
    rw [← hjoin, hdrop] at hinner
    exact absurd ((prefix_of_dropAtEnd (Point.char '/') name).subset hinner) hname
  · rfl

/-- Two stars in front of segments are kept, unless two stars follow. -/
theorem collapseStars_twoStars_cons {name : List Point} (hne : name ≠ [])
    (more : List (List Point)) :
    collapseStars (closeSegments (twoStars :: name :: more)) =
      if name = twoStars then collapseStars (closeSegments (name :: more))
      else twoStars :: collapseStars (closeSegments (name :: more)) := by
  have hclose : closeSegments (name :: more) = name :: closeSegments more := by
    rw [closeSegments]
    exact fun hnil _ => hne hnil
  have hfront :
      closeSegments (twoStars :: name :: more) = twoStars :: closeSegments (name :: more) :=
    closeSegments_append (List.cons_ne_nil name more) [twoStars]
  rw [hfront, hclose, collapseStars]
  by_cases hname : name = twoStars
  · rw [if_pos ⟨rfl, hname⟩, if_pos hname]
  · rw [if_neg fun hboth => hname hboth.2, if_neg hname]

/-- The segments of a name with two slashes or more after it. -/
theorem segments_of_slashes (name : List Point) (j : Nat) :
    collapseStars (closeSegments (name :: List.replicate (j + 2) [])) =
      name :: List.replicate j [] ++ [[], twoStars] := by
  have hsplit : name :: List.replicate (j + 2) [] =
      (name :: List.replicate (j + 1) ([] : List Point)) ++ [[]] := by
    rw [List.replicate_succ', List.cons_append]
  have hempty : ∀ piece ∈ List.replicate (j + 1) ([] : List Point), piece ≠ twoStars := by
    intro piece hpiece
    rw [List.eq_of_mem_replicate hpiece]
    decide
  have hrest := collapseStars_append hempty [twoStars]
  rw [hsplit, closeSegments_append (List.cons_ne_nil _ _)]
  rw [List.replicate_succ, List.cons_append] at hrest
  rw [List.replicate_succ, List.cons_append, List.cons_append, closeSegments, collapseStars,
    if_neg (by simp [twoStars]), hrest, ← List.replicate_succ, List.replicate_succ']
  simp [collapseStars]

/-- A name by itself, or with one slash behind it, applies at every depth. -/
theorem rootedSegments_of_name {name : List Point} (hne : name ≠ []) (k : Nat) :
    rootedSegments (name :: List.replicate k []) =
      if k < 2 ∧ name ≠ twoStars then twoStars :: name :: List.replicate k []
      else name :: List.replicate k [] := by
  obtain ⟨c, rest, rfl⟩ := List.exists_cons_of_ne_nil hne
  rcases k with _ | _ | j
  · by_cases hname : c :: rest = twoStars
    · rw [hname]
      rfl
    · simp [rootedSegments, hname]
  · by_cases hname : c :: rest = twoStars
    · rw [hname]
      rfl
    · simp [rootedSegments, hname]
  · rw [if_neg (by omega)]
    rfl

/-- A name and slashes behind it, spread over every depth, are the segments of the body, or
these with two stars in front where the body ends in two slashes or more. -/
theorem segments_of_spread {name : List Point} (hne : name ≠ []) (k : Nat) :
    let raw := name :: List.replicate k []
    let spread := collapseStars (closeSegments (twoStars :: raw))
    let own := collapseStars (closeSegments (rootedSegments raw))
    spread = own ∨ 2 ≤ k ∧ spread = twoStars :: own ∧ ∃ front, own = front ++ [[], twoStars] := by
  intro raw spread own
  have hspread : spread = _ := collapseStars_twoStars_cons hne (List.replicate k [])
  have hown : own = collapseStars (closeSegments (rootedSegments raw)) := rfl
  rw [rootedSegments_of_name hne k] at hown
  by_cases hname : name = twoStars
  · rw [if_pos hname] at hspread
    rw [if_neg fun hboth => hboth.2 hname] at hown
    exact .inl (hspread.trans hown.symm)
  · by_cases hk : k < 2
    · rw [if_pos ⟨hk, hname⟩] at hown
      exact .inl hown.symm
    · rw [if_neg hname] at hspread
      rw [if_neg fun hboth => hk hboth.1] at hown
      obtain ⟨j, rfl⟩ : ∃ j, k = j + 2 := ⟨k - 2, by omega⟩
      exact .inr ⟨by omega, by rw [hspread, hown], _, hown.trans (segments_of_slashes name j)⟩

/-- A text that stands for a body behind a folder.  It asks for a folder if the body does, and it
has the segments of the body, or these with two stars in front where the body ends in two
slashes or more. -/
structure StandsFor (rest body : List Point) : Prop where
  asks : asksFolder rest = asksFolder body
  segments : collapseStars (closeSegments (splitAtSlashes rest)) = segmentTexts body ∨
    collapseStars (closeSegments (splitAtSlashes rest)) = twoStars :: segmentTexts body ∧
      asksFolder body = true ∧ ∃ front, segmentTexts body = front ++ [[], twoStars]

namespace StandsFor

variable {body : List Point}

/-- What follows the slash that roots a body. -/
theorem of_rooted (rest : List Point) : StandsFor rest (Point.char '/' :: rest) := by
  have hsplit : splitAtSlashes (Point.char '/' :: rest) = [] :: splitAtSlashes rest :=
    splitAtSlashes_slash rest
  refine ⟨?_, .inl ?_⟩
  · rw [asksFolder, asksFolder, hsplit, List.getLast?_cons_of_ne_nil (splitAtSlashes_ne_nil rest)]
  · rw [segmentTexts, hsplit]
    rfl

/-- A body that is rooted as it stands. -/
theorem self (h : rootedSegments (splitAtSlashes body) = splitAtSlashes body) :
    StandsFor body body :=
  ⟨rfl, .inl (by rw [segmentTexts, h])⟩

/-- A name and slashes behind it, spread over every depth. -/
theorem of_spread {name : List Point} (hne : name ≠ []) {k : Nat}
    (hsplit : splitAtSlashes body = name :: List.replicate k []) :
    StandsFor (twoStars ++ Point.char '/' :: body) body := by
  have hmore : splitAtSlashes (twoStars ++ Point.char '/' :: body) =
      twoStars :: splitAtSlashes body :=
    splitAtSlashes_append (by decide) _
  refine ⟨?_, ?_⟩
  · rw [asksFolder, asksFolder, hmore, List.getLast?_cons_of_ne_nil (splitAtSlashes_ne_nil _)]
  · have hspread := segments_of_spread hne k
    simp only [← hsplit, ← hmore] at hspread
    rcases hspread with hsame | ⟨hk, hmore, hfront⟩
    · exact .inl hsame
    · refine .inr ⟨hmore, ?_, hfront⟩
      have hk0 : k ≠ 0 := by omega
      rw [asksFolder, hsplit, List.getLast?_cons_of_ne_nil (by simpa using hk0),
        List.getLast?_replicate, if_neg hk0]
      rfl

end StandsFor

/-- A body that is not rooted stands as it is if a slash is inside, and at every depth else. -/
theorem nestedBody_of_ne {body : List Point} (h : body.head? ≠ some (.char '/')) :
    nestedBody body =
      if Point.char '/' ∈ dropAtEnd (· == Point.char '/') body then body
      else twoStars ++ Point.char '/' :: body := by
  unfold nestedBody
  split
  · exact absurd rfl h
  · simp only [List.contains_iff_mem]
    rfl

/-- A body without a slash inside is a name and the slashes behind it. -/
theorem exists_name_of_not_mem {body : List Point} (hne : body ≠ [])
    (hhead : body.head? ≠ some (.char '/'))
    (hinner : Point.char '/' ∉ dropAtEnd (· == Point.char '/') body) :
    ∃ k, dropAtEnd (· == Point.char '/') body ≠ [] ∧
      body = dropAtEnd (· == Point.char '/') body ++ List.replicate k (Point.char '/') ∧
      splitAtSlashes body = dropAtEnd (· == Point.char '/') body :: List.replicate k [] := by
  obtain ⟨k, hk⟩ := exists_replicate_of_dropAtEnd body
  refine ⟨k, fun hnil => ?_, hk, ?_⟩
  · rw [hnil, List.nil_append] at hk
    cases k with
    | zero => exact hne hk
    | succ k => exact hhead (by rw [hk]; rfl)
  · have hsplit := splitAtSlashes_replicate hinner k
    rwa [← hk] at hsplit

/-- Where only the blanks behind it put a slash inside of a body, there are two of them, if the
body is closed. -/
theorem two_le_of_mem {body : List Point}
    (hinner : Point.char '/' ∈ dropAtEnd (· == Point.char '/') body)
    (hclosed : (trimChars body).getLast? = some (.char '/') →
      Point.char '/' ∉ (trimChars body).dropLast → trimChars body = body)
    (hname : Point.char '/' ∉ dropAtEnd (· == Point.char '/') (trimChars body)) {k : Nat}
    (hk : trimChars body = dropAtEnd (· == Point.char '/') (trimChars body) ++
      List.replicate k (Point.char '/')) : 2 ≤ k := by
  match k with
  | 0 =>
      rw [List.replicate_zero, List.append_nil] at hk
      rw [← hk] at hname
      have hslash := (prefix_of_dropAtEnd (Point.char '/') body).subset hinner
      exact absurd (mem_trimChars (by decide) (by decide) hslash) hname
  | 1 =>
      have hsame := hclosed (by rw [hk]; simp) (by rw [hk]; simpa using hname)
      rw [hsame] at hname
      exact absurd hinner hname
  | k + 2 => omega

/-- What is put behind the folder stands for the body of the line. -/
theorem standsFor_nestedBody {body : List Point} (hne : trimChars body ≠ [])
    (hclosed : (trimChars body).getLast? = some (.char '/') →
      Point.char '/' ∉ (trimChars body).dropLast → trimChars body = body) :
    StandsFor (trimChars (nestedBody body)) (trimChars body) := by
  by_cases hslash : body.head? = some (.char '/')
  · obtain ⟨more, rfl⟩ := List.head?_eq_some_iff.mp hslash
    have htrim : trimChars (Point.char '/' :: more) =
        Point.char '/' :: trimChars (nestedBody (Point.char '/' :: more)) :=
      trimChars_append (by decide) (by decide) [] more
    rw [htrim]
    exact .of_rooted _
  · have hhead : (trimChars body).head? ≠ some (.char '/') := by rwa [head?_trimChars hne]
    rw [nestedBody_of_ne hslash]
    by_cases hinner : Point.char '/' ∈ dropAtEnd (· == Point.char '/') (trimChars body)
    · rw [if_pos ((dropAtEnd_mono (Point.char '/') (prefix_of_trimChars body)).subset hinner)]
      exact .self (rootedSegments_of_inner hhead hinner)
    · obtain ⟨k, hname, hk, hsplit⟩ := exists_name_of_not_mem hne hhead hinner
      split
      · rename_i hblanks
        have htwo := two_le_of_mem hblanks hclosed hinner hk
        refine .self ?_
        rw [hsplit, rootedSegments_of_name hname, if_neg fun hboth => absurd hboth.1 (by omega)]
      · have htrim : trimChars (twoStars ++ Point.char '/' :: body) =
            twoStars ++ Point.char '/' :: trimChars body :=
          trimChars_append (by decide) (by decide) twoStars body
        rw [htrim]
        exact .of_spread hname hsplit

/-! ## Lines below a folder -/

/-- A line that means the same below a folder.  It has no line feed at its end, a remark begins
it, and it is more than blanks or a lone slash; if its only slash is at its end, no blanks
follow; and if it names all that is in a folder, it does not ask for a folder. -/
structure Portable (line : Text) : Prop where
  feed : line.toList.getLast? ≠ some (.char '\n')
  remark : (line.toList.dropWhile isBlank).head? = some (.char '#') →
    line.toList.head? = some (.char '#')
  blank : line ≠ "" → lineBody (trimLine line) ≠ []
  slash : lineBody (trimLine line) ≠ [Point.char '/']
  closed : (lineBody (trimLine line)).getLast? = some (.char '/') →
    Point.char '/' ∉ (lineBody (trimLine line)).dropLast → trimLine line = line.toList
  stars : segmentTexts (lineBody (trimLine line)) = [twoStars] →
    asksFolder (lineBody (trimLine line)) = false

namespace Portable

variable {line : Text}

/-- A line that is no remark is compiled by its body. -/
theorem ofLine_eq (h : Portable line) (hremark : isRemark line.toList = false) :
    trimChars (lineBody line.toList) ≠ [] ∧
      Pattern.ofLine line = Pattern.ofTexts line (line.toList.head? = some (.char '!'))
        (asksFolder (trimChars (lineBody line.toList)))
        (segmentTexts (trimChars (lineBody line.toList))) := by
  have hbody : lineBody (trimLine line) = trimChars (lineBody line.toList) :=
    (trimChars_eq line.toList).2
  rw [isRemark, Bool.or_eq_false_iff, decide_eq_false_iff_not] at hremark
  obtain ⟨hempty, hsharp⟩ := hremark
  have hne : trimChars (lineBody line.toList) ≠ [] := by
    rw [← hbody]
    refine h.blank ?_
    rintro rfl
    cases hempty
  have hline : trimChars line.toList ≠ [] := by
    intro hnil
    rw [← (trimChars_eq line.toList).2, hnil] at hne
    exact hne rfl
  refine ⟨hne, ?_⟩
  rw [Pattern.ofLine_eq hline, head?_trimChars hline]
  · rw [head?_trimChars hline]
    intro hhead
    obtain ⟨rest, hrest⟩ := List.head?_eq_some_iff.mp hhead
    refine hsharp ?_
    rw [hrest]
    rfl
  · intro hslash
    refine h.slash ?_
    rw [hbody, ← (trimChars_eq line.toList).2, hslash]
    rfl

/-- The items behind the folder match the paths that the pattern matches by itself. -/
theorem exists_restAtoms (h : Portable line) {segments : List Segment}
    (hsegments : (segmentTexts (lineBody (trimLine line))).mapM Segment.ofChars = .ok segments)
    (hne : segments ≠ []) {matcher : Matcher}
    (hmatcher : matcherOf (asksFolder (lineBody (trimLine line))) segments = .ok matcher) :
    ∃ atoms, restAtoms 0 segments = .ok atoms ∧
      ∀ path, Tidy path → (∃ c ∈ path, c ≠ Point.char '\n') →
        (matchAtoms (endingOf (asksFolder (lineBody (trimLine line))) segments) atoms
          (Point.char '/' :: path)).isSome = (matcher.hit? path).isSome := by
  refine exists_restAtoms_of_matcherOf hne ?_ (not_twice_of_collapseStars hsegments) hmatcher
  rintro rfl
  refine h.stars ?_
  cases htexts : segmentTexts (lineBody (trimLine line)) with
  | nil =>
      rw [htexts] at hsegments
      cases hsegments
  | cons first more =>
      rw [htexts] at hsegments
      obtain ⟨s, rest, hfirst, hmore, hsame⟩ := mapM_ofChars_cons_iff.mp hsegments
      cases hsame
      rw [ofChars_eq_folders_iff.mp hfirst]
      cases more with
      | nil => rfl
      | cons next others =>
          obtain ⟨_, _, _, _, hsame⟩ := mapM_ofChars_cons_iff.mp hmore
          cases hsame

/-- Items behind a folder's names say of a path there what a condition says of the path, if they
match the same. -/
theorem decides?_behind {folder path : List Point} {negated : Bool} {atoms : List Atom}
    {ending : Ending} {matcher : Matcher}
    (h : (matchAtoms ending atoms (Point.char '/' :: path)).isSome = (matcher.hit? path).isSome) :
    Pattern.decides? (some ⟨negated, .path (literals folder ++ atoms) ending⟩)
        (folder ++ Point.char '/' :: path) =
      Pattern.decides? (some ⟨negated, matcher⟩) path := by
  simp only [Pattern.decides?, Option.bind_some, Pattern.hit?]
  rw [Matcher.hit?, matchAtoms_literals]
  cases hbehind : matchAtoms ending atoms (Point.char '/' :: path) <;>
    cases hpath : matcher.hit? path <;> simp [hbehind, hpath] at h ⊢

/-- Where an empty segment is the last but one, the items match only paths with two slashes in a
row, which no path of names has. -/
theorem isSome_of_doubled {front segments : List Segment}
    (hsegments : segments = front ++ [.glob [], .folders]) {atoms : List Atom}
    (hatoms : restAtoms 0 segments = .ok atoms) {path : List Point} (hpath : Tidy path) :
    (matchAtoms (endingOf true segments) atoms (Point.char '/' :: path)).isSome = false := by
  have hending : endingOf true segments = .folder := by simp [endingOf, hsegments]
  rw [hending]
  cases hmatch : matchAtoms .folder atoms (Point.char '/' :: path) with
  | none => rfl
  | some hit =>
      exact absurd (doubled_of_restAtoms (hsegments ▸ hatoms) hmatch) hpath.not_doubled_cons

/-- The pattern of the line in terms of the root says of a path behind the folder what the
pattern of the line says of the path. -/
theorem exists_decides? (h : Portable line) (hremark : isRemark line.toList = false)
    {first : Text} {names : List Text} (hnames : ∀ n ∈ first :: names, IsLiteral n)
    (hsign : first.toList.head? ≠ some (.char '!') ∧ first.toList.head? ≠ some (.char '#'))
    {found : Option Pattern} (hfound : Pattern.ofLine line = .ok found) :
    ∃ found', Pattern.ofLine (rerootLine line (joinSlashes (first :: names))) = .ok found' ∧
      ∀ path, Tidy path → (∃ c ∈ path, c ≠ Point.char '\n') →
        Pattern.decides? found' ((joinSlashes (first :: names)).toList ++ Point.char '/' :: path) =
          Pattern.decides? found path := by
  obtain ⟨hne, hline⟩ := h.ofLine_eq hremark
  have hbody : lineBody (trimLine line) = trimChars (lineBody line.toList) :=
    (trimChars_eq line.toList).2
  have hcompiled := @ofLine_rerootLine_eq_ok_iff first names hnames line h.feed hremark
    (fun _ => hsign) (fun _ => trimChars_nestedBody_ne_nil (hbody ▸ h.slash))
  obtain ⟨hasks, hnested⟩ := standsFor_nestedBody hne (fun hlast hinner => by
    rw [← hbody] at hlast hinner ⊢
    rw [h.closed hlast hinner])
  rw [hline, Pattern.ofTexts_eq_ok_iff] at hfound
  obtain ⟨hown, hfound⟩ := hfound
  simp only [hasks] at hcompiled
  rw [toList_joinSlashes]
  rcases hfound with ⟨hunclosed, rfl⟩ | ⟨segments, matcher, hsegments, hmatcher, rfl⟩
  · -- an open bracket stays open
    refine ⟨none, hcompiled.mpr (.inl ⟨?_, rfl⟩), fun _ _ _ => rfl⟩
    rcases hnested with hsame | ⟨hmore, _⟩
    · rw [hsame, hunclosed]
    · rw [hmore, List.mapM_cons, ofChars_eq_folders_iff.mpr rfl, hunclosed]
      rfl
  · have hsegmentsNe := ne_nil_of_mapM_ofChars hown hsegments
    rw [← hbody] at hsegments hmatcher
    obtain ⟨atoms, hatoms, hmatch⟩ := h.exists_restAtoms hsegments hsegmentsNe hmatcher
    rw [hbody] at hsegments hmatch
    rcases hnested with hsame | ⟨hmore, hfolder, front, hfront⟩
    · refine ⟨_, hcompiled.mpr (.inr ⟨segments, atoms, hsame ▸ hsegments, hatoms, rfl⟩),
        fun path hpath hvisible => decides?_behind (hmatch path hpath hvisible)⟩
    · -- neither pattern matches a path of names
      have hdeeper : restAtoms 0 (.folders :: segments) = .ok (.innerFolders :: atoms) :=
        (restAtoms_folders_iff hsegmentsNe).mpr ⟨atoms, hatoms, rfl⟩
      obtain ⟨before, hbefore⟩ : ∃ before, segments = before ++ [.glob [], .folders] := by
        rw [hfront, List.mapM_append] at hsegments
        obtain ⟨before, _, hsegments⟩ := bind_eq_ok_iff.mp hsegments
        cases hsegments
        exact ⟨before, rfl⟩
      refine ⟨_, hcompiled.mpr (.inr ⟨.folders :: segments, _, ?_, hdeeper, rfl⟩),
        fun path hpath hvisible => decides?_behind ?_⟩
      · rw [hmore]
        exact mapM_ofChars_cons_iff.mpr ⟨_, _, ofChars_eq_folders_iff.mpr rfl, hsegments, rfl⟩
      · rw [hfolder] at hmatch ⊢
        rw [← hmatch path hpath hvisible, isSome_of_doubled hbefore hatoms hpath]
        have hfolders : Segment.folders :: segments =
            (.folders :: before) ++ [.glob [], .folders] := by
          rw [hbefore]
          rfl
        exact isSome_of_doubled hfolders hdeeper hpath

end Portable

/-- A path of names is matched as it is. -/
theorem relativeChars_joinSlashes {names : List Text} (hne : names ≠ [])
    (hnames : ∀ n ∈ names, IsName n) (tail : List Point)
    (htail : tail ≠ [] → tail.head? = some (.char '/')) :
    relativeChars ((joinSlashes names).toList ++ tail) = (joinSlashes names).toList ++ tail := by
  obtain ⟨first, more, rfl⟩ := List.exists_cons_of_ne_nil hne
  obtain ⟨hempty, hpoint, hslash⟩ := hnames first List.mem_cons_self
  have hafter : ∀ {c rest},
      (more.map Text.toList).flatMap (fun name => Point.char '/' :: name) ++ tail = c :: rest →
      c = Point.char '/' := by
    intro c rest hcons
    cases more with
    | nil =>
        rw [List.map_nil, List.flatMap_nil, List.nil_append] at hcons
        rw [hcons] at htail
        simpa using htail
    | cons n others =>
        cases hcons
        rfl
  rw [toList_joinSlashes, intercalate_cons_eq_append, List.append_assoc]
  generalize
    (more.map Text.toList).flatMap (fun name => Point.char '/' :: name) ++ tail = rest at hafter
  obtain ⟨c, cs, hfirst⟩ := List.exists_cons_of_ne_nil (mt Text.toList_eq_nil_iff.mp hempty)
  rw [hfirst] at hslash ⊢
  unfold relativeChars
  split
  · rename_i heq
    cases heq
    simp at hslash
  · rename_i heq
    rw [List.cons_append, List.cons.injEq] at heq
    obtain ⟨rfl, heq⟩ := heq
    cases cs with
    | nil => exact absurd (Text.toList_inj.mp hfirst) hpoint
    | cons d others =>
        cases heq
        simp at hslash
  · rfl

/-- A line in terms of the root says of a path behind the folder what the line says of the path
by itself. -/
theorem lineVerdict_behind {names : List Text} (hne : names ≠ [])
    (hnames : ∀ n ∈ names, IsLiteral n)
    (hsign : (joinSlashes names).toList.head? ≠ some (.char '!') ∧
      (joinSlashes names).toList.head? ≠ some (.char '#')) {line : Text} (hline : Portable line)
    {below : List Text} (hbelow : below ≠ []) (hproper : ∀ n ∈ below, IsName n) {q : Text}
    (hq : q = joinSlashes below ∨ q = joinSlashes below ++ "/")
    (hvisible : ∃ c ∈ q.toList, c ≠ Point.char '\n') {verdict : Option Bool}
    (hverdict : lineVerdict line q = .ok verdict) :
    lineVerdict (rerootLine line (joinSlashes names)) (joinSlashes names ++ "/" ++ q) =
      .ok verdict := by
  obtain ⟨found, hfound, rfl⟩ := lineVerdict_eq_ok_iff.mp hverdict
  have hpath : relativeChars q.toList = q.toList := by
    rcases hq with rfl | rfl
    · simpa using relativeChars_joinSlashes hbelow hproper [] (by simp)
    · rw [Text.toList_append]
      exact relativeChars_joinSlashes hbelow hproper _ fun _ => rfl
  have hbehind : relativeChars (joinSlashes names ++ "/" ++ q).toList =
      (joinSlashes names).toList ++ Point.char '/' :: q.toList := by
    rw [Text.toList_append, Text.toList_append, List.append_assoc]
    exact relativeChars_joinSlashes hne (fun n hn => (hnames n hn).1) _ fun _ => rfl
  rw [lineVerdict_eq_ok_iff, hpath, hbehind]
  obtain ⟨first, more, rfl⟩ := List.exists_cons_of_ne_nil hne
  cases hremark : isRemark line.toList with
  | true =>
      have hnone := ofLine_of_isRemark hremark hline.remark
      rw [hnone] at hfound
      cases hfound
      rw [rerootLine_of_remark hline.feed hremark]
      exact ⟨none, hnone, rfl⟩
  | false =>
      rw [head?_joinSlashes hnames] at hsign
      obtain ⟨found', hfound', hdecides⟩ := hline.exists_decides? hremark hnames hsign hfound
      refine ⟨found', hfound', Eq.symm ?_⟩
      exact hdecides q.toList (Tidy.of_joinSlashes hbelow hproper hq) hvisible

theorem portable_sample : Portable "!/gen/*.js  " where
  feed := by decide
  remark := by decide
  blank := by decide
  slash := by decide
  closed := by decide
  stars := by decide

theorem lineVerdict_behind_sample :
    lineVerdict (rerootLine "!/gen/*.js  " (joinSlashes ["lib", "sub"]))
      (joinSlashes ["lib", "sub"] ++ "/" ++ "gen/a.js") = .ok (some false) := by
  have hverdict : lineVerdict "!/gen/*.js  " "gen/a.js" = .ok (some false) := rfl
  have hpath : "gen/a.js" = joinSlashes ["gen", "a.js"] := by decide
  exact lineVerdict_behind (by decide) (by decide) (by decide) portable_sample (by decide)
    (by decide) (.inl hpath) ⟨Point.char 'g', by decide⟩ hverdict

/-- Lines that mean something else below a folder: one of blanks only, a lone slash, blanks after
the only slash, a remark that is set in, and two stars that ask for a folder. -/
theorem lineVerdict_moved :
    (lineVerdict "   " "a.js" = .ok none ∧
      lineVerdict (rerootLine "   " "lib") "lib/a.js" = .ok (some true)) ∧
    (lineVerdict "/" "a.js" = .ok none ∧
      lineVerdict (rerootLine "/" "lib") "lib/a.js" = .ok (some true)) ∧
    (lineVerdict "foo/ " "b/foo/x.js" = .ok (some true) ∧
      lineVerdict (rerootLine "foo/ " "lib") "lib/b/foo/x.js" = .ok none) ∧
    (lineVerdict " #a/b" " #a/b" = .ok (some true) ∧
      lineVerdict (rerootLine " #a/b" "lib") "lib/ #a/b" = .ok none) ∧
    (lineVerdict "**/" "x" = .ok none ∧
      lineVerdict (rerootLine "**/" "lib") "lib/x" = .ok (some true)) :=
  ⟨⟨rfl, rfl⟩, ⟨rfl, rfl⟩, ⟨rfl, rfl⟩, ⟨rfl, rfl⟩, ⟨rfl, rfl⟩⟩

end GoogIndex.Ignore
