/-
  Proofs/Ignore/Compilation.lean --- the pattern of a body behind literal names.

  A body that stands behind the names of a folder is compiled as it is by itself, except
  that it is neither rooted nor spread over every depth.  The names become literal items in
  front, the positions that ranges are reported with move on, and the rest of the items
  starts with a slash.
-/
import GoogIndex.Ignore.Compile
import GoogIndex.Proofs.Ignore.Matching
import GoogIndex.Proofs.Storage.Name

set_option autoImplicit false

namespace GoogIndex.Ignore

open GoogIndex.Storage GoogIndex.Text

theorem bind_eq_ok_iff {ε α β : Type} {x : Except ε α} {f : α → Except ε β} {b : β} :
    (x >>= f) = .ok b ↔ ∃ a, x = .ok a ∧ f a = .ok b := by
  cases x with
  | error e => simp [bind, Except.bind]
  | ok a => simp [bind, Except.bind]

/-! ## Positions -/

/-- Ranges are the same at every position. -/
theorem ranges_of_ok {p p' : Nat} {body : List Point} {found : List (Point × Point)}
    (h : ranges p body = .ok found) : ranges p' body = .ok found := by
  fun_induction ranges p body generalizing p' found with
  | case1 p first last rest hback => cases h
  | case2 p first last rest hforth width =>
      rename_i ih
      obtain ⟨more, hmore, hfound⟩ := bind_eq_ok_iff.mp h
      rw [ranges, if_neg hforth]
      exact bind_eq_ok_iff.mpr ⟨more, ih hmore, hfound⟩
  | case3 p c rest hsingle ih =>
      obtain ⟨more, hmore, hfound⟩ := bind_eq_ok_iff.mp h
      rw [ranges]
      · exact bind_eq_ok_iff.mpr ⟨more, ih hmore, hfound⟩
      · exact hsingle
  | case4 p => exact h

theorem Glob.atom_of_ok {g : Glob} {p p' : Nat} {a : Atom} (h : g.atom p = .ok a) :
    g.atom p' = .ok a := by
  cases g with
  | literal c => exact h
  | one => exact h
  | run => exact h
  | bracket negated body =>
      obtain ⟨found, hfound, ha⟩ := bind_eq_ok_iff.mp h
      exact bind_eq_ok_iff.mpr ⟨found, ranges_of_ok hfound, ha⟩

theorem globAtoms_of_ok {items : List Glob} {p stop : Nat} {atoms : List Atom}
    (h : globAtoms p items = .ok (atoms, stop)) (p' : Nat) :
    ∃ stop', globAtoms p' items = .ok (atoms, stop') := by
  induction items generalizing p p' stop atoms with
  | nil =>
      cases h
      exact ⟨p', rfl⟩
  | cons g rest ih =>
      obtain ⟨a, ha, h⟩ := bind_eq_ok_iff.mp h
      obtain ⟨⟨more, last⟩, hmore, h⟩ := bind_eq_ok_iff.mp h
      cases h
      obtain ⟨stop', hmore'⟩ := ih hmore (p' + g.width)
      refine ⟨stop', bind_eq_ok_iff.mpr ⟨a, Glob.atom_of_ok ha, ?_⟩⟩
      exact bind_eq_ok_iff.mpr ⟨_, hmore', rfl⟩

theorem Segment.atoms_of_ok {s : Segment} {p stop : Nat} {atoms : List Atom}
    (h : s.atoms p = .ok (atoms, stop)) (p' : Nat) :
    ∃ stop', s.atoms p' = .ok (atoms, stop') := by
  cases s with
  | folders =>
      cases h
      exact ⟨_, rfl⟩
  | name =>
      cases h
      exact ⟨_, rfl⟩
  | glob items => exact globAtoms_of_ok h p'

/-- The items of segments are the same at every position. -/
theorem restAtoms_of_ok {segments : List Segment} {p p' : Nat} {atoms : List Atom}
    (h : restAtoms p segments = .ok atoms) : restAtoms p' segments = .ok atoms := by
  fun_induction restAtoms p segments generalizing p' atoms with
  | case1 p => exact h
  | case2 p => exact h
  | case3 p rest hrest ih =>
      obtain ⟨⟨front, stop⟩, hfront, h⟩ := bind_eq_ok_iff.mp h
      obtain ⟨more, hmore, h⟩ := bind_eq_ok_iff.mp h
      obtain ⟨stop', hfront'⟩ := Segment.atoms_of_ok hfront p'
      rw [restAtoms]
      · refine bind_eq_ok_iff.mpr ⟨_, hfront', ?_⟩
        exact bind_eq_ok_iff.mpr ⟨more, ih _ hmore, h⟩
      · exact hrest
  | case4 p s rest h1 h2 ih =>
      obtain ⟨⟨front, stop⟩, hfront, h⟩ := bind_eq_ok_iff.mp h
      obtain ⟨more, hmore, h⟩ := bind_eq_ok_iff.mp h
      obtain ⟨stop', hfront'⟩ := Segment.atoms_of_ok hfront (p' + 1)
      rw [restAtoms]
      · refine bind_eq_ok_iff.mpr ⟨_, hfront', ?_⟩
        exact bind_eq_ok_iff.mpr ⟨more, ih _ hmore, h⟩
      · exact h1
      · exact h2

/-! ## Items -/

/-- The items of a segment, at whatever position it stands. -/
def Segment.Makes (s : Segment) (atoms : List Atom) : Prop := ∃ stop, s.atoms 0 = .ok (atoms, stop)

/-- The items of a segment, followed by those of the segments after it. -/
theorem makes_then_iff {s : Segment} {rest : List Segment} {p : Nat}
    (join : List Atom → List Atom → List Atom) {atoms : List Atom} :
    (s.atoms p >>= fun found =>
      restAtoms found.2 rest >>= fun more => pure (join found.1 more)) = .ok atoms ↔
        ∃ front more, s.Makes front ∧ restAtoms 0 rest = .ok more ∧ atoms = join front more := by
  constructor
  · intro h
    obtain ⟨⟨front, stop⟩, hfront, hafter⟩ := bind_eq_ok_iff.mp h
    obtain ⟨more, hmore, hatoms⟩ := bind_eq_ok_iff.mp hafter
    cases hatoms
    exact ⟨front, more, Segment.atoms_of_ok hfront 0, restAtoms_of_ok hmore, rfl⟩
  · rintro ⟨front, more, ⟨_, hfront⟩, hmore, rfl⟩
    obtain ⟨stop, hfront⟩ := Segment.atoms_of_ok hfront p
    refine bind_eq_ok_iff.mpr ⟨_, hfront, ?_⟩
    exact bind_eq_ok_iff.mpr ⟨more, restAtoms_of_ok hmore, rfl⟩

/-- Two stars among the segments after the first are any folders, and the slash after them
belongs to what follows. -/
theorem restAtoms_folders_iff {p : Nat} {rest : List Segment} (hrest : rest ≠ [])
    {atoms : List Atom} :
    restAtoms p (.folders :: rest) = .ok atoms ↔
      ∃ more, restAtoms 0 rest = .ok more ∧ atoms = .innerFolders :: more := by
  rw [restAtoms]
  · refine (makes_then_iff fun front more => front ++ more).trans ⟨?_, ?_⟩
    · rintro ⟨front, more, ⟨_, hfront⟩, hmore, rfl⟩
      cases hfront
      exact ⟨more, hmore, rfl⟩
    · rintro ⟨more, hmore, rfl⟩
      exact ⟨_, more, ⟨_, rfl⟩, hmore, rfl⟩
  · exact hrest

/-- Any other segment after the first is a slash and its own items. -/
theorem restAtoms_cons_iff {p : Nat} {s : Segment} (hs : s ≠ .folders) {rest : List Segment}
    {atoms : List Atom} :
    restAtoms p (s :: rest) = .ok atoms ↔
      ∃ front more, s.Makes front ∧ restAtoms 0 rest = .ok more ∧
        atoms = .literal (.char '/') :: front ++ more := by
  rw [restAtoms]
  · exact makes_then_iff fun front more => .literal (.char '/') :: front ++ more
  · exact fun hfolders _ => hs hfolders
  · exact hs

/-- Two stars in front are the folders before the next segment. -/
theorem segmentAtoms_folders_iff {s : Segment} {rest : List Segment} {atoms : List Atom} :
    segmentAtoms (.folders :: s :: rest) = .ok atoms ↔
      ∃ front more, s.Makes front ∧ restAtoms 0 rest = .ok more ∧
        atoms = .leadingFolders :: front ++ more := by
  rw [segmentAtoms]
  exact makes_then_iff fun front more => .leadingFolders :: front ++ more

/-- Any other segment in front is its own items. -/
theorem segmentAtoms_cons_iff {s : Segment} (hs : s ≠ .folders) {rest : List Segment}
    {atoms : List Atom} :
    segmentAtoms (s :: rest) = .ok atoms ↔
      ∃ front more, s.Makes front ∧ restAtoms 0 rest = .ok more ∧ atoms = front ++ more := by
  rw [segmentAtoms]
  · exact makes_then_iff fun front more => front ++ more
  · exact fun s' rest' hfolders _ => hs hfolders

/-! ## Literal names -/

/-- A character that stands for itself in the name of a pattern. -/
def IsPlain (c : Point) : Prop :=
  c ∉ [Point.char '*', Point.char '?', Point.char '[', Point.char '\\', Point.char '/']

instance (c : Point) : Decidable (IsPlain c) := inferInstanceAs (Decidable (_ ∉ _))

/-- The segment of a name whose characters stand for themselves. -/
def literalSegment (name : List Point) : Segment := .glob (name.map .literal)

theorem globs_of_plain {name : List Point} (h : ∀ c ∈ name, IsPlain c) :
    globs 0 name = .ok (name.map .literal) := by
  induction name with
  | nil => rfl
  | cons c rest ih =>
      obtain ⟨hc, hrest⟩ := List.forall_mem_cons.mp h
      simp only [IsPlain, List.mem_cons, List.not_mem_nil, or_false, not_or] at hc
      obtain ⟨hstar, hmark, hbracket, hescape, _⟩ := hc
      unfold globs
      rw [if_neg hescape, if_neg hstar, if_neg hmark, if_neg hbracket, ih hrest]
      rfl

theorem ofChars_of_plain {name : List Point} (h : ∀ c ∈ name, IsPlain c) :
    Segment.ofChars name = .ok (literalSegment name) := by
  have hstars : name ≠ twoStars := by
    rintro rfl
    exact absurd (h (Point.char '*') (by decide)) (by decide)
  have hstar : name ≠ [Point.char '*'] := by
    rintro rfl
    exact absurd (h (Point.char '*') (by decide)) (by decide)
  rw [Segment.ofChars, if_neg hstars, if_neg hstar, globs_of_plain h]
  rfl

theorem mapM_ofChars_of_plain {names : List (List Point)}
    (h : ∀ name ∈ names, ∀ c ∈ name, IsPlain c) :
    names.mapM Segment.ofChars = .ok (names.map literalSegment) := by
  induction names with
  | nil => rfl
  | cons name rest ih =>
      obtain ⟨hname, hrest⟩ := List.forall_mem_cons.mp h
      rw [List.mapM_cons, ofChars_of_plain hname, ih hrest]
      rfl

theorem makes_literalSegment_iff {name : List Point} {atoms : List Atom} :
    (literalSegment name).Makes atoms ↔ atoms = literals name := by
  have hmakes : ∀ p, ∃ stop, globAtoms p (name.map .literal) = .ok (literals name, stop) := by
    induction name with
    | nil => exact fun p => ⟨p, rfl⟩
    | cons c rest ih =>
        intro p
        obtain ⟨stop, hrest⟩ := ih (p + (Glob.literal c).width)
        refine ⟨stop, bind_eq_ok_iff.mpr ⟨.literal c, rfl, ?_⟩⟩
        exact bind_eq_ok_iff.mpr ⟨_, hrest, rfl⟩
  obtain ⟨stop, hliterals⟩ := hmakes 0
  constructor
  · rintro ⟨stop', hatoms⟩
    cases hliterals.symm.trans hatoms
    rfl
  · rintro rfl
    exact ⟨stop, hliterals⟩

theorem literalSegment_ne_folders (name : List Point) : literalSegment name ≠ .folders := nofun

/-- Names between slashes, as the items after the first segment have them. -/
theorem intercalate_cons_eq_append (first : List Point) (names : List (List Point)) :
    [Point.char '/'].intercalate (first :: names) =
      first ++ names.flatMap fun name => Point.char '/' :: name := by
  induction names generalizing first with
  | nil => simp [List.intercalate_singleton]
  | cons name rest ih =>
      rw [List.intercalate_cons_cons, ih name]
      simp

/-- Literal names in front of segments are literal items in front of theirs. -/
theorem restAtoms_append_iff {names : List (List Point)} {segments : List Segment}
    {atoms : List Atom} :
    restAtoms 0 (names.map literalSegment ++ segments) = .ok atoms ↔
      ∃ more, restAtoms 0 segments = .ok more ∧
        atoms = literals (names.flatMap fun name => Point.char '/' :: name) ++ more := by
  induction names generalizing atoms with
  | nil => simp [literals]
  | cons name rest ih =>
      rw [List.map_cons, List.cons_append, restAtoms_cons_iff (literalSegment_ne_folders name)]
      simp only [makes_literalSegment_iff, ih, exists_and_left, exists_eq_left]
      constructor
      · rintro ⟨_, ⟨more, hmore, rfl⟩, rfl⟩
        exact ⟨more, hmore, by simp [literals]⟩
      · rintro ⟨more, hmore, rfl⟩
        exact ⟨_, ⟨more, hmore, rfl⟩, by simp [literals]⟩

/-- What has to follow the items of segments. -/
def endingOf (folderOnly : Bool) (segments : List Segment) : Ending :=
  if segments.getLast? = some .folders then if folderOnly then .folder else .below else .entry

/-- Segments behind literal names match the names, and then what they say themselves. -/
theorem matcherOf_append_iff {segments : List Segment} (hne : segments ≠ []) {folderOnly : Bool}
    {first : List Point} {names : List (List Point)} {matcher : Matcher} :
    matcherOf folderOnly ((first :: names).map literalSegment ++ segments) = .ok matcher ↔
      ∃ atoms, restAtoms 0 segments = .ok atoms ∧
        matcher = .path (literals ([Point.char '/'].intercalate (first :: names)) ++ atoms)
          (endingOf folderOnly segments) := by
  have hlast : ((first :: names).map literalSegment ++ segments).getLast? =
      segments.getLast? := by
    rw [List.getLast?_append, List.getLast?_eq_some_getLast hne]
    rfl
  rw [matcherOf, bind_eq_ok_iff, hlast]
  · rw [List.map_cons, List.cons_append]
    simp only [segmentAtoms_cons_iff (literalSegment_ne_folders first), makes_literalSegment_iff,
      restAtoms_append_iff, exists_and_left, exists_eq_left]
    constructor
    · rintro ⟨_, ⟨_, ⟨atoms, hatoms, rfl⟩, rfl⟩, hmatcher⟩
      cases hmatcher
      exact ⟨atoms, hatoms, by simp [literals, intercalate_cons_eq_append, endingOf]⟩
    · rintro ⟨atoms, hatoms, rfl⟩
      refine ⟨_, ⟨_, ⟨atoms, hatoms, rfl⟩, rfl⟩, ?_⟩
      simp [literals, intercalate_cons_eq_append, endingOf, pure, Except.pure]
  · simp [literalSegment]
  · simp [literalSegment]
  · simp [literalSegment]

/-! ## Segments behind names -/

/-- Names in front of a text are the first of its pieces. -/
theorem splitAtSlashes_append_names {first : List Point} {names : List (List Point)}
    (h : ∀ name ∈ first :: names, Point.char '/' ∉ name) (rest : List Point) :
    splitAtSlashes ([Point.char '/'].intercalate (first :: names) ++ Point.char '/' :: rest) =
      first :: names ++ splitAtSlashes rest := by
  induction names generalizing first with
  | nil =>
      rw [List.intercalate_singleton, splitAtSlashes_append (h first (by simp))]
      rfl
  | cons name more ih =>
      rw [List.intercalate_cons_cons, List.append_assoc, List.append_assoc, List.singleton_append,
        splitAtSlashes_append (h first (by simp)), ih fun n hn => h n (List.mem_cons_of_mem _ hn)]
      rfl

/-- More than a single name is rooted as it stands. -/
theorem rootedSegments_append {first : List Point} (hfirst : first ≠ [])
    {names texts : List (List Point)} (htexts : texts ≠ []) (hlone : names = [] → texts ≠ [[]]) :
    rootedSegments (first :: names ++ texts) = first :: names ++ texts := by
  unfold rootedSegments
  split
  · rename_i heq
    rw [List.cons_append, List.cons.injEq] at heq
    exact absurd heq.1 hfirst
  · rename_i heq
    rw [List.cons_append, List.cons.injEq, List.append_eq_nil_iff] at heq
    exact absurd heq.2.2 htexts
  · rename_i heq
    rw [List.cons_append, List.cons.injEq, List.append_eq_singleton_iff] at heq
    rcases heq.2 with ⟨hnil, hlast⟩ | ⟨_, hnil⟩
    · exact absurd hlast (hlone hnil)
    · exact absurd hnil htexts
  · rfl

theorem closeSegments_append {texts : List (List Point)} (htexts : texts ≠ [])
    (names : List (List Point)) :
    closeSegments (names ++ texts) = names ++ closeSegments texts := by
  induction names with
  | nil => rfl
  | cons name rest ih =>
      rw [List.cons_append, closeSegments, ih]
      · rfl
      · rintro rfl hnil
        exact htexts (List.append_eq_nil_iff.mp hnil).2

theorem closeSegments_ne_nil {texts : List (List Point)} (h : texts ≠ []) :
    closeSegments texts ≠ [] := by
  unfold closeSegments
  split
  · exact absurd rfl h
  · simp
  · simp

/-- Names that are no two stars stay in front of what is collapsed. -/
theorem collapseStars_append {names : List (List Point)} (h : ∀ name ∈ names, name ≠ twoStars)
    (texts : List (List Point)) :
    collapseStars (names ++ texts) = names ++ collapseStars texts := by
  induction names with
  | nil => rfl
  | cons name rest ih =>
      obtain ⟨hname, hrest⟩ := List.forall_mem_cons.mp h
      have hmore := ih hrest
      rw [List.cons_append]
      cases hall : rest ++ texts with
      | nil =>
          obtain ⟨rfl, rfl⟩ := List.append_eq_nil_iff.mp hall
          rfl
      | cons next more =>
          rw [collapseStars, if_neg fun hboth => hname hboth.1, ← hall, hmore]
          rfl

theorem head?_collapseStars (first : List Point) (more : List (List Point)) :
    (collapseStars (first :: more)).head? = some first := by
  induction more generalizing first with
  | nil => rfl
  | cons next rest ih =>
      rw [collapseStars]
      split
      · rename_i hboth
        rw [ih, hboth.1, hboth.2]
      · rfl

theorem collapseStars_ne_nil {texts : List (List Point)} (h : texts ≠ []) :
    collapseStars texts ≠ [] := by
  cases texts with
  | nil => exact absurd rfl h
  | cons first more =>
      intro hnil
      have hhead := head?_collapseStars first more
      rw [hnil] at hhead
      cases hhead

/-- Two stars do not follow each other in what is collapsed. -/
theorem not_twoStars_of_collapseStars {texts more : List (List Point)} {a b : List Point}
    (h : collapseStars texts = a :: b :: more) : ¬ (a = twoStars ∧ b = twoStars) := by
  fun_induction collapseStars texts with
  | case1 a' b' rest hboth ih => exact ih h
  | case2 a' b' rest hne ih =>
      have hhead := head?_collapseStars b' rest
      obtain ⟨rfl, hmore⟩ := List.cons.inj h
      rw [hmore] at hhead
      cases hhead
      exact hne
  | case3 texts hshort => exact absurd h (hshort a b more)

/-! ## The texts of segments -/

/-- The pattern of the texts of segments, for a line that is refused if they make none. -/
def Pattern.ofTexts (line : Text) (negated folderOnly : Bool) (texts : List (List Point)) :
    Except PatternFault (Option Pattern) :=
  if texts.isEmpty then .error (.invalid line)
  else
    match texts.mapM Segment.ofChars with
    | .error .unclosed => .ok none
    | .error .danglingEscape => .error (.invalid line)
    | .ok segments => do
        let matcher ← matcherOf folderOnly segments
        return some ⟨negated, matcher⟩

/-- What it takes to state a pattern, or none because of an open bracket. -/
theorem Pattern.ofTexts_eq_ok_iff {line : Text} {negated folderOnly : Bool}
    {texts : List (List Point)} {found : Option Pattern} :
    Pattern.ofTexts line negated folderOnly texts = .ok found ↔ texts ≠ [] ∧
      (texts.mapM Segment.ofChars = .error .unclosed ∧ found = none ∨
        ∃ segments matcher, texts.mapM Segment.ofChars = .ok segments ∧
          matcherOf folderOnly segments = .ok matcher ∧ found = some ⟨negated, matcher⟩) := by
  rw [ofTexts]
  cases texts with
  | nil => simp
  | cons first more =>
      cases hsegments : (first :: more).mapM Segment.ofChars with
      | error f => cases f <;> simp [eq_comm]
      | ok segments =>
          cases hmatcher : matcherOf folderOnly segments with
          | error f => simp [hmatcher, bind, Except.bind]
          | ok matcher => simp [hmatcher, bind, Except.bind, pure, Except.pure, eq_comm]

/-- The segments of names with texts behind them. -/
theorem mapM_ofChars_append {names : List (List Point)}
    (h : ∀ name ∈ names, ∀ c ∈ name, IsPlain c) (texts : List (List Point)) :
    (names ++ texts).mapM Segment.ofChars =
      (texts.mapM Segment.ofChars).map fun segments => names.map literalSegment ++ segments := by
  rw [List.mapM_append, mapM_ofChars_of_plain h]
  cases texts.mapM Segment.ofChars <;> rfl

theorem mapM_ofChars_cons_iff {first : List Point} {texts : List (List Point)}
    {segments : List Segment} :
    (first :: texts).mapM Segment.ofChars = .ok segments ↔
      ∃ s rest, Segment.ofChars first = .ok s ∧ texts.mapM Segment.ofChars = .ok rest ∧
        segments = s :: rest := by
  rw [List.mapM_cons, bind_eq_ok_iff]
  constructor
  · rintro ⟨s, hs, h⟩
    obtain ⟨rest, hrest, h⟩ := bind_eq_ok_iff.mp h
    cases h
    exact ⟨s, rest, hs, hrest, rfl⟩
  · rintro ⟨s, rest, hs, hrest, rfl⟩
    exact ⟨s, hs, bind_eq_ok_iff.mpr ⟨rest, hrest, rfl⟩⟩

/-- Only two stars are any folders. -/
theorem ofChars_eq_folders_iff {cs : List Point} :
    Segment.ofChars cs = .ok .folders ↔ cs = twoStars := by
  rw [Segment.ofChars]
  split
  · rename_i hstars
    simp [hstars]
  · rename_i hstars
    refine iff_of_false ?_ hstars
    split
    · simp
    · cases globs 0 cs <;> simp [Except.map]

/-- Two stars do not follow each other among segments. -/
theorem not_twice_of_collapseStars {texts : List (List Point)} {segments : List Segment}
    (h : (collapseStars texts).mapM Segment.ofChars = .ok segments) (rest : List Segment) :
    segments ≠ .folders :: .folders :: rest := by
  rintro rfl
  cases htexts : collapseStars texts with
  | nil =>
      rw [htexts] at h
      cases h
  | cons a more =>
      rw [htexts] at h
      obtain ⟨s, others, ha, hmore, hsame⟩ := mapM_ofChars_cons_iff.mp h
      cases hsame
      cases more with
      | nil => cases hmore
      | cons b more =>
          obtain ⟨s', others', hb, _, hsame⟩ := mapM_ofChars_cons_iff.mp hmore
          cases hsame
          exact not_twoStars_of_collapseStars htexts
            ⟨ofChars_eq_folders_iff.mp ha, ofChars_eq_folders_iff.mp hb⟩

theorem ne_nil_of_mapM_ofChars {texts : List (List Point)} (h : texts ≠ [])
    {segments : List Segment} (hsegments : texts.mapM Segment.ofChars = .ok segments) :
    segments ≠ [] := by
  cases texts with
  | nil => exact absurd rfl h
  | cons first more =>
      obtain ⟨s, others, _, _, rfl⟩ := mapM_ofChars_cons_iff.mp hsegments
      exact List.cons_ne_nil s others

/-- Texts behind literal names state a pattern if they are no pattern themselves because of an
open bracket, or if their own items can be had. -/
theorem Pattern.ofTexts_append_eq_ok_iff {line : Text} {negated folderOnly : Bool}
    {first : List Point} {names texts : List (List Point)}
    (h : ∀ name ∈ first :: names, ∀ c ∈ name, IsPlain c) (htexts : texts ≠ [])
    {found : Option Pattern} :
    Pattern.ofTexts line negated folderOnly (first :: names ++ texts) = .ok found ↔
      texts.mapM Segment.ofChars = .error .unclosed ∧ found = none ∨
        ∃ segments atoms, texts.mapM Segment.ofChars = .ok segments ∧
          restAtoms 0 segments = .ok atoms ∧
          found = some ⟨negated,
            .path (literals ([Point.char '/'].intercalate (first :: names)) ++ atoms)
            (endingOf folderOnly segments)⟩ := by
  rw [ofTexts_eq_ok_iff, mapM_ofChars_append h]
  cases hsegments : texts.mapM Segment.ofChars with
  | error f => simp [Except.map]
  | ok segments =>
      have hne := ne_nil_of_mapM_ofChars htexts hsegments
      simp only [Except.map, reduceCtorEq, false_and, false_or, Except.ok.injEq, exists_and_left,
        exists_eq_left', matcherOf_append_iff hne]
      constructor
      · rintro ⟨_, _, ⟨atoms, hatoms, rfl⟩, rfl⟩
        exact ⟨atoms, hatoms, rfl⟩
      · rintro ⟨atoms, hatoms, rfl⟩
        exact ⟨by simp, _, ⟨atoms, hatoms, rfl⟩, rfl⟩

end GoogIndex.Ignore
