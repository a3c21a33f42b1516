/-
  Proofs/Ignore/Rerooting.lean --- lines that are put in terms of the root.

  Normative source: SPEC_FULL §4.4, `_translate_gitignore_pattern`.

  A line of an ignore file in a folder is compiled with the folder's names in front.  If the
  names stand for themselves, the pattern matches below the folder only.  That does not hold
  of every name: names are taken over as they are, with what they mean in a pattern.
-/
import GoogIndex.Ignore.Nested
import GoogIndex.Proofs.Ignore.Lines
import GoogIndex.Proofs.Storage.Route

set_option autoImplicit false

namespace GoogIndex.Ignore

open GoogIndex.Storage GoogIndex.Text

/-! ## Names of folders -/

/-- A name whose characters stand for themselves in a pattern. -/
def IsLiteral (n : Text) : Prop := IsName n ∧ ∀ c ∈ n.toList, IsPlain c

-- The instance for the characters is named: the search may find one that tries every `Point`.
instance (n : Text) : Decidable (IsLiteral n) :=
  @instDecidableAnd _ _ inferInstance (List.decidableBAll IsPlain n.toList)

/-- Names, as their characters, of which none is empty and all stand for themselves. -/
structure LiteralNames (first : List Point) (names : List (List Point)) : Prop where
  plain : ∀ name ∈ first :: names, ∀ c ∈ name, IsPlain c
  nonempty : ∀ name ∈ first :: names, name ≠ []

theorem literalNames_of_isLiteral {first : Text} {names : List Text}
    (h : ∀ n ∈ first :: names, IsLiteral n) :
    LiteralNames first.toList (names.map Text.toList) := by
  have hmap : first.toList :: names.map Text.toList = (first :: names).map Text.toList := rfl
  refine ⟨?_, ?_⟩
  · rw [hmap, List.forall_mem_map]
    exact fun n hn => (h n hn).2
  · rw [hmap, List.forall_mem_map]
    exact fun n hn hnil => (h n hn).1.1 (Text.toList_eq_nil_iff.mp hnil)

namespace LiteralNames

variable {first : List Point} {names : List (List Point)}

theorem slash_not_mem (h : LiteralNames first names) :
    ∀ name ∈ first :: names, Point.char '/' ∉ name :=
  fun name hname hslash => absurd (h.plain name hname (Point.char '/') hslash) (by decide)

theorem ne_twoStars (h : LiteralNames first names) : ∀ name ∈ first :: names, name ≠ twoStars := by
  rintro name hname rfl
  exact absurd (h.plain _ hname (Point.char '*') (by decide)) (by decide)

/-- The names begin with a character of the first, and end with no slash. -/
theorem exists_cons (h : LiteralNames first names) :
    ∃ c rest, first = c :: rest ∧ c ≠ Point.char '/' := by
  cases first with
  | nil => exact absurd rfl (h.nonempty [] List.mem_cons_self)
  | cons c rest =>
      refine ⟨c, rest, rfl, ?_⟩
      rintro rfl
      exact h.slash_not_mem _ List.mem_cons_self List.mem_cons_self

theorem getLast?_ne (h : LiteralNames first names) :
    ([Point.char '/'].intercalate (first :: names)).getLast? ≠ some (.char '/') := by
  induction names generalizing first with
  | nil =>
      rw [List.intercalate_singleton]
      intro hlast
      exact h.slash_not_mem _ List.mem_cons_self (List.mem_of_getLast? hlast)
  | cons name rest ih =>
      have hrest := ih ⟨fun n hn => h.plain n (List.mem_cons_of_mem first hn),
        fun n hn => h.nonempty n (List.mem_cons_of_mem first hn)⟩
      rw [List.intercalate_cons_cons, List.getLast?_append]
      cases hlast : ([Point.char '/'].intercalate (name :: rest)).getLast? with
      | none =>
          rw [List.getLast?_eq_none_iff, intercalate_cons_eq_append,
            List.append_eq_nil_iff] at hlast
          exact absurd hlast.1 (h.nonempty name (by simp))
      | some c =>
          rw [hlast] at hrest
          exact hrest

end LiteralNames

theorem toList_joinSlashes (first : Text) (names : List Text) :
    (joinSlashes (first :: names)).toList =
      [Point.char '/'].intercalate (first.toList :: names.map Text.toList) := by
  rw [joinSlashes, Text.toList_intercalate]
  rfl

theorem head?_joinSlashes {first : Text} {names : List Text}
    (h : ∀ n ∈ first :: names, IsLiteral n) :
    (joinSlashes (first :: names)).toList.head? = first.toList.head? := by
  obtain ⟨c, rest, hfirst, _⟩ := (literalNames_of_isLiteral h).exists_cons
  rw [toList_joinSlashes, intercalate_cons_eq_append, hfirst]
  rfl

theorem dropAtEnd_of_ne {c : Point} {cs : List Point} (h : cs.getLast? ≠ some c) :
    dropAtEnd (· == c) cs = cs := by
  rw [dropAtEnd]
  cases hcs : cs.reverse with
  | nil => simpa using hcs.symm
  | cons last front =>
      have hlast : last ≠ c := by
        rintro rfl
        exact h (by rw [List.getLast?_eq_head?_reverse, hcs]; rfl)
      rw [List.dropWhile_cons_of_neg (by simpa using hlast), ← hcs, List.reverse_reverse]

/-! ## Lines in terms of the root -/

/-- What stands behind the folder and a slash in a line in terms of the root. -/
def nestedBody : List Point → List Point
  | Point.char '/' :: rest => rest
  | body =>
      if (dropAtEnd (· == Point.char '/') body).contains (Point.char '/') then body
      else Point.char '*' :: Point.char '*' :: Point.char '/' :: body

theorem rerootBody_eq (folder body : List Point) :
    rerootBody folder body = folder ++ Point.char '/' :: nestedBody body := by
  by_cases hslash : body.head? = some (.char '/')
  · obtain ⟨rest, rfl⟩ := List.head?_eq_some_iff.mp hslash
    rfl
  · have hne : ∀ rest, body ≠ Point.char '/' :: rest := by
      rintro rest rfl
      exact hslash rfl
    rw [rerootBody, nestedBody]
    · split <;> rfl
    · exact hne
    · exact hne

/-- A line that is no remark gets the folder between its sign and its body. -/
theorem toList_rerootLine {first : Text} {names : List Text}
    (hnames : ∀ n ∈ first :: names, IsLiteral n) {line : Text}
    (hfeed : line.toList.getLast? ≠ some (.char '\n')) (hremark : isRemark line.toList = false) :
    (rerootLine line (joinSlashes (first :: names))).toList =
      lineSign line.toList ++
        ([Point.char '/'].intercalate (first.toList :: names.map Text.toList) ++
          Point.char '/' :: nestedBody (lineBody line.toList)) := by
  have hliteral := literalNames_of_isLiteral hnames
  have hfolder := toList_joinSlashes first names
  obtain ⟨c, rest, hfirst, hc⟩ := hliteral.exists_cons
  have hbase : dropAtEnd (· == Point.char '/')
      ((joinSlashes (first :: names)).toList.dropWhile (· == Point.char '/')) =
      [Point.char '/'].intercalate (first.toList :: names.map Text.toList) := by
    have hhead : (joinSlashes (first :: names)).toList.dropWhile (· == Point.char '/') =
        (joinSlashes (first :: names)).toList := by
      rw [hfolder, intercalate_cons_eq_append, hfirst, List.cons_append,
        List.dropWhile_cons_of_neg (by simpa using hc)]
    rw [hhead, hfolder, dropAtEnd_of_ne hliteral.getLast?_ne]
  have hne : joinSlashes (first :: names) ≠ "" := by
    intro hempty
    rw [hempty, intercalate_cons_eq_append, hfirst] at hfolder
    cases hfolder
  rw [rerootLine]
  simp only [dropAtEnd_of_ne hfeed, hremark, hne, decide_false, Bool.or_false, Bool.false_eq_true,
    if_false, hbase]
  by_cases hsign : line.toList.head? = some (.char '!')
  · obtain ⟨body, hbody⟩ := List.head?_eq_some_iff.mp hsign
    rw [hbody]
    simp [rerootBody_eq, lineSign, lineBody]
  · rw [lineSign_of_ne hsign, lineBody_of_ne hsign]
    split
    · rename_i body hbody
      rw [hbody] at hsign
      exact absurd rfl hsign
    · simp [rerootBody_eq]

theorem trimChars_rerootLine {first : Text} {names : List Text}
    (hnames : ∀ n ∈ first :: names, IsLiteral n) {line : Text}
    (hfeed : line.toList.getLast? ≠ some (.char '\n')) (hremark : isRemark line.toList = false) :
    trimChars (rerootLine line (joinSlashes (first :: names))).toList =
      lineSign line.toList ++
        ([Point.char '/'].intercalate (first.toList :: names.map Text.toList) ++
          Point.char '/' :: trimChars (nestedBody (lineBody line.toList))) := by
  rw [toList_rerootLine hnames hfeed hremark, ← List.append_assoc,
    trimChars_append (by decide) (by decide), List.append_assoc]

/-- A remark stays as it is. -/
theorem rerootLine_of_remark {line : Text} (hfeed : line.toList.getLast? ≠ some (.char '\n'))
    (hremark : isRemark line.toList = true) (folder : Text) : rerootLine line folder = line := by
  rw [rerootLine]
  simp only [dropAtEnd_of_ne hfeed, hremark, Bool.true_or, if_true, Text.ofList_toList]

section compiled

variable {first : List Point} {names : List (List Point)}

/-- The segments of a body behind literal names are those of the names, and then its own, which
are not rooted. -/
theorem segmentTexts_append (h : LiteralNames first names) {rest : List Point}
    (hlone : names = [] → rest ≠ []) :
    segmentTexts ([Point.char '/'].intercalate (first :: names) ++ Point.char '/' :: rest) =
      first :: names ++ collapseStars (closeSegments (splitAtSlashes rest)) := by
  have hne := splitAtSlashes_ne_nil rest
  have hlone' : names = [] → splitAtSlashes rest ≠ [[]] := by
    intro hnames hrest
    have hjoin := intercalate_splitAtSlashes rest
    rw [hrest] at hjoin
    exact hlone hnames hjoin.symm
  rw [segmentTexts, splitAtSlashes_append_names h.slash_not_mem,
    rootedSegments_append (h.nonempty first List.mem_cons_self) hne hlone',
    closeSegments_append hne, collapseStars_append h.ne_twoStars]

theorem asksFolder_append (h : LiteralNames first names) (rest : List Point) :
    asksFolder ([Point.char '/'].intercalate (first :: names) ++ Point.char '/' :: rest) =
      asksFolder rest := by
  rw [asksFolder, asksFolder, splitAtSlashes_append_names h.slash_not_mem, List.getLast?_append,
    List.getLast?_eq_some_getLast (splitAtSlashes_ne_nil rest)]
  rfl

end compiled

/-- A body that begins with an ordinary character, behind the sign of a line, is a line of that
sign. -/
theorem line_of_sign {cs : List Point} {c : Point} (hslash : c ≠ Point.char '/')
    (hsign : cs.head? ≠ some (.char '!') → c ≠ Point.char '!' ∧ c ≠ Point.char '#')
    (rest : List Point) :
    let line := lineSign cs ++ c :: rest
    lineBody line = c :: rest ∧ (line.head? = some (.char '!') ↔ cs.head? = some (.char '!')) ∧
      line ≠ [] ∧ line.head? ≠ some (.char '#') ∧ line ≠ [Point.char '/'] := by
  by_cases hneg : cs.head? = some (.char '!')
  · obtain ⟨body, rfl⟩ := List.head?_eq_some_iff.mp hneg
    simp [lineSign, lineBody]
  · obtain ⟨hmark, hsharp⟩ := hsign hneg
    rw [lineSign_of_ne hneg, List.nil_append]
    refine ⟨lineBody_of_ne (by simpa using hmark), ?_, by simp, by simpa using hsharp, ?_⟩
    · exact iff_of_false (by simpa using hmark) hneg
    · simp [hslash]

/-- The pattern of a line in terms of the root, behind the names of a folder.  A lone slash
below a single name is out of it: such a line would apply at every depth. -/
theorem ofLine_rerootLine_eq_ok_iff {first : Text} {names : List Text}
    (hnames : ∀ n ∈ first :: names, IsLiteral n) {line : Text}
    (hfeed : line.toList.getLast? ≠ some (.char '\n')) (hremark : isRemark line.toList = false)
    (hsign : line.toList.head? ≠ some (.char '!') →
      first.toList.head? ≠ some (.char '!') ∧ first.toList.head? ≠ some (.char '#'))
    (hlone : names = [] → trimChars (nestedBody (lineBody line.toList)) ≠ [])
    {found : Option Pattern} :
    let rest := trimChars (nestedBody (lineBody line.toList))
    let texts := collapseStars (closeSegments (splitAtSlashes rest))
    Pattern.ofLine (rerootLine line (joinSlashes (first :: names))) = .ok found ↔
      texts.mapM Segment.ofChars = .error .unclosed ∧ found = none ∨
        ∃ segments atoms, texts.mapM Segment.ofChars = .ok segments ∧
          restAtoms 0 segments = .ok atoms ∧
          found = some ⟨line.toList.head? = some (.char '!'),
            .path
              (literals ([Point.char '/'].intercalate (first.toList :: names.map Text.toList)) ++
                atoms)
              (endingOf (asksFolder rest) segments)⟩ := by
  intro rest texts
  have hliteral := literalNames_of_isLiteral hnames
  obtain ⟨c, others, hfirst, hc⟩ := hliteral.exists_cons
  obtain ⟨more, hfolder⟩ :
      ∃ more, [Point.char '/'].intercalate (first.toList :: names.map Text.toList) ++
        Point.char '/' :: rest = c :: more := by
    rw [intercalate_cons_eq_append, hfirst]
    exact ⟨_, rfl⟩
  have htrim : trimChars (rerootLine line (joinSlashes (first :: names))).toList =
      lineSign line.toList ++ c :: more := by
    rw [trimChars_rerootLine hnames hfeed hremark, ← hfolder]
  have hhead : line.toList.head? ≠ some (.char '!') →
      c ≠ Point.char '!' ∧ c ≠ Point.char '#' := fun hneg => by
    simpa [hfirst] using hsign hneg
  obtain ⟨hbody, hneg, hne, hsharp, hslash⟩ := line_of_sign hc hhead more
  rw [← htrim] at hbody hneg hne hsharp hslash
  have htexts : texts ≠ [] :=
    collapseStars_ne_nil (closeSegments_ne_nil (splitAtSlashes_ne_nil rest))
  rw [Pattern.ofLine_eq hne hsharp hslash, ← (trimChars_eq _).2, hbody, ← hfolder,
    asksFolder_append hliteral, segmentTexts_append hliteral (by simpa using hlone),
    Pattern.ofTexts_append_eq_ok_iff hliteral.plain htexts]
  simp only [hneg]

/-! ## Confinement -/

theorem endingOf_cons (folderOnly : Bool) (s : Segment) {segments : List Segment}
    (h : segments ≠ []) : endingOf folderOnly (s :: segments) = endingOf folderOnly segments := by
  rw [endingOf, endingOf, List.getLast?_cons_of_ne_nil h]

/-- An ending that is no end of the path begins with a slash. -/
theorem exists_slash_of_ending {folderOnly : Bool} {path : List Point} {hit : Hit}
    (h : (endingOf folderOnly [.folders]).hit? path = some hit) :
    ∃ rest, path = Point.char '/' :: rest := by
  unfold Ending.hit? at h
  split at h
  · cases folderOnly <;> cases ‹endingOf _ _ = Ending.entry›
  · cases folderOnly <;> cases ‹endingOf _ _ = Ending.entry›
  · exact ⟨_, rfl⟩
  · exact ⟨_, rfl⟩
  · exact ⟨_, rfl⟩
  · cases h

/-- Items after the first segment match only what begins with a slash. -/
theorem exists_slash_of_restAtoms {folderOnly : Bool} {segments : List Segment}
    (hne : segments ≠ []) {atoms : List Atom} (h : restAtoms 0 segments = .ok atoms)
    {path : List Point} {hit : Hit}
    (hhit : matchAtoms (endingOf folderOnly segments) atoms path = some hit) :
    ∃ rest, path = Point.char '/' :: rest := by
  have hliteral : ∀ {more : List Atom} {ending : Ending},
      matchAtoms ending (.literal (.char '/') :: more) path = some hit →
      ∃ rest, path = Point.char '/' :: rest := by
    intro more ending hmatch
    obtain ⟨c, rest, rfl, hc, _⟩ := oneChar_eq_some_iff.mp hmatch
    exact ⟨rest, by rw [beq_iff_eq.mp hc]⟩
  induction segments generalizing atoms with
  | nil => exact absurd rfl hne
  | cons s rest ih =>
      by_cases hs : s = .folders
      · subst hs
        cases rest with
        | nil =>
            cases h
            exact exists_slash_of_ending hhit
        | cons next more =>
            have hrest : next :: more ≠ [] := List.cons_ne_nil next more
            obtain ⟨items, hitems, rfl⟩ := (restAtoms_folders_iff hrest).mp h
            rw [endingOf_cons _ _ hrest, matchAtoms, Atom.step] at hhit
            split at hhit
            · rename_i found hfound
              obtain ⟨c, behind, rfl, hc, _⟩ := oneChar_eq_some_iff.mp hfound
              exact ⟨behind, by rw [beq_iff_eq.mp hc]⟩
            · exact ih hrest hitems hhit
      · obtain ⟨front, more, _, _, rfl⟩ := (restAtoms_cons_iff hs).mp h
        exact hliteral hhit

/-- A remark at the start of its line states no pattern. -/
theorem ofLine_of_isRemark {line : Text} (hremark : isRemark line.toList = true)
    (hstart : (line.toList.dropWhile isBlank).head? = some (.char '#') →
      line.toList.head? = some (.char '#')) :
    Pattern.ofLine line = .ok none := by
  rw [isRemark, Bool.or_eq_true, List.isEmpty_iff, decide_eq_true_eq] at hremark
  refine Pattern.ofLine_of_remark ?_
  rcases hremark with hempty | hsharp
  · left
    rw [hempty]
    rfl
  · obtain ⟨rest, hrest⟩ := List.head?_eq_some_iff.mp (hstart hsharp)
    right
    rw [hrest, ← List.nil_append (Point.char '#' :: rest), trimChars_append (by decide) (by decide)]
    rfl

/-- Only a lone slash leaves nothing behind the folder. -/
theorem trimChars_nestedBody_ne_nil {body : List Point} (h : trimChars body ≠ [Point.char '/']) :
    trimChars (nestedBody body) ≠ [] := by
  have hslash : ∀ {cs : List Point}, Point.char '/' ∈ cs → trimChars cs ≠ [] := fun hmem =>
    List.ne_nil_of_mem (mem_trimChars (by decide) (by decide) hmem)
  unfold nestedBody
  split
  · rename_i rest
    intro hrest
    refine h ?_
    rw [← List.nil_append (Point.char '/' :: rest), trimChars_append (by decide) (by decide), hrest]
    rfl
  · split
    · rename_i hmem
      refine hslash (List.mem_reverse.mp ?_)
      rw [dropAtEnd, List.contains_iff_mem, List.mem_reverse] at hmem
      exact (List.dropWhile_suffix _).subset hmem
    · exact hslash (by simp)

/-- The pattern of a line in terms of the root says something only of paths behind the folder. -/
theorem prefix_of_decides? {first : Text} {names : List Text}
    (hnames : ∀ n ∈ first :: names, IsLiteral n) {line : Text}
    (hfeed : line.toList.getLast? ≠ some (.char '\n')) (hremark : isRemark line.toList = false)
    (hsign : line.toList.head? ≠ some (.char '!') → first.toList.head? ≠ some (.char '!'))
    (hlone : names = [] → trimChars (nestedBody (lineBody line.toList)) ≠ [])
    {found : Option Pattern}
    (hfound : Pattern.ofLine (rerootLine line (joinSlashes (first :: names))) = .ok found)
    {path : List Point} (hdecides : Pattern.decides? found path ≠ none) :
    [Point.char '/'].intercalate (first.toList :: names.map Text.toList) ++ [Point.char '/'] <+:
      path := by
  by_cases hsharp : line.toList.head? ≠ some (.char '!') ∧ first.toList.head? = some (.char '#')
  · -- the folder's name makes a comment of the line
    obtain ⟨rest, hrest⟩ := List.head?_eq_some_iff.mp hsharp.2
    rw [Pattern.ofLine_of_remark (.inr ?_)] at hfound
    · cases hfound
      exact absurd rfl hdecides
    · rw [trimChars_rerootLine hnames hfeed hremark, lineSign_of_ne hsharp.1, List.nil_append,
        intercalate_cons_eq_append, hrest]
      rfl
  · have hcompiled := (ofLine_rerootLine_eq_ok_iff hnames hfeed hremark
      (fun hneg => ⟨hsign hneg, fun h => hsharp ⟨hneg, h⟩⟩) hlone).mp hfound
    rcases hcompiled with ⟨_, rfl⟩ | ⟨segments, atoms, hsegments, hatoms, rfl⟩
    · exact absurd rfl hdecides
    · have hne := ne_nil_of_mapM_ofChars (collapseStars_ne_nil (closeSegments_ne_nil
        (splitAtSlashes_ne_nil _))) hsegments
      rw [Pattern.decides?, Option.bind_some, ne_eq, Option.map_eq_none_iff] at hdecides
      obtain ⟨hit, hhit⟩ := Option.ne_none_iff_exists'.mp hdecides
      obtain ⟨rest, rfl, hmatch⟩ := matchAtoms_literals_iff.mp hhit
      obtain ⟨below, rfl⟩ := exists_slash_of_restAtoms hne hatoms hmatch
      exact ⟨below, by simp⟩

/-- Below literal names, a line says nothing of paths that are not below them.  A remark that
does not begin its line is taken over as it stands, and so is out of it, as is a lone slash in
a folder directly below the root. -/
theorem lineVerdict_outside {names : List Text} (hne : names ≠ [])
    (hnames : ∀ n ∈ names, IsLiteral n) {line : Text}
    (hfeed : line.toList.getLast? ≠ some (.char '\n'))
    (hremark : (line.toList.dropWhile isBlank).head? = some (.char '#') →
      line.toList.head? = some (.char '#'))
    (hsign : line.toList.head? ≠ some (.char '!') →
      (joinSlashes names).toList.head? ≠ some (.char '!'))
    (hlone : names.length = 1 → lineBody (trimLine line) ≠ [Point.char '/']) {q : Text}
    (hq : ¬ (joinSlashes names ++ "/").toList <+: relativeChars q.toList) :
    ∀ verdict, lineVerdict (rerootLine line (joinSlashes names)) q = .ok verdict →
      verdict = none := by
  intro verdict hverdict
  obtain ⟨first, more, rfl⟩ := List.exists_cons_of_ne_nil hne
  obtain ⟨found, hfound, rfl⟩ := lineVerdict_eq_ok_iff.mp hverdict
  cases hremark' : isRemark line.toList with
  | true =>
      rw [rerootLine_of_remark hfeed hremark', ofLine_of_isRemark hremark' hremark] at hfound
      cases hfound
      rfl
  | false =>
      by_cases hdecides : Pattern.decides? found (relativeChars q.toList) = none
      · exact hdecides
      · rw [Text.toList_append, toList_joinSlashes] at hq
        rw [head?_joinSlashes hnames] at hsign
        refine absurd (prefix_of_decides? hnames hfeed hremark' hsign (fun hmore => ?_) hfound
          hdecides) hq
        refine trimChars_nestedBody_ne_nil fun h => ?_
        exact hlone (by rw [hmore]; rfl) ((trimChars_eq line.toList).2.trans h)

theorem lineVerdict_outside_sample :
    (∃ verdict, lineVerdict (rerootLine "!*.js" (joinSlashes ["lib", "# a b"])) "lib/a.js" =
      .ok verdict) ∧
    ∀ verdict, lineVerdict (rerootLine "!*.js" (joinSlashes ["lib", "# a b"])) "lib/a.js" =
      .ok verdict → verdict = none :=
  ⟨⟨_, rfl⟩, lineVerdict_outside (by decide) (by decide) (by decide) (by decide) (by decide)
    (by decide) (by decide)⟩

/-- Other names, and the lines left out, reach paths outside of the folder: a star in the name
is one in the pattern, an exclamation mark in front of it turns the line around, a remark that
is set in applies everywhere, and a lone slash applies to every folder of the name. -/
theorem lineVerdict_leaks :
    lineVerdict (rerootLine "x.js" "a*") "ab/x.js" = .ok (some true) ∧
      lineVerdict (rerootLine "x.js" "!a") "a/x.js" = .ok (some false) ∧
      lineVerdict (rerootLine " #x.js" "lib") "src/ #x.js" = .ok (some true) ∧
      lineVerdict (rerootLine "/" "lib") "src/lib/a.js" = .ok (some true) :=
  ⟨rfl, rfl, rfl, rfl⟩

end GoogIndex.Ignore
