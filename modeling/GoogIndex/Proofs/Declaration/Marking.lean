/-
  Proofs/Declaration/Marking.lean --- where the marker is looked for.

  Normative source: SPEC_FULL §4.1 step 4, `has_provide_goog_flag`.

  The marker of the base file is looked for in the plain text, from an opening `/*` to the
  next `*/`, without regard to what the tokens are.  Scanning finds comments among tokens.
  The two agree on every source that has no opening outside of a block comment: each search
  is at the front of a piece whenever the other is, since a comment has the same end for
  both, and no other piece has an opening at which the plain search would stop.
-/
import GoogIndex.Declaration.Marker
import GoogIndex.Proofs.Script.Cutting

set_option autoImplicit false

namespace GoogIndex

open GoogIndex.Script

theorem containsText_iff {needle cs : List Char} :
    containsText needle cs = true ↔ needle <:+: cs := by
  induction cs with
  | nil => rw [containsText, List.isEmpty_iff, List.infix_nil]
  | cons c rest ih =>
      rw [containsText, Bool.or_eq_true, List.isPrefixOf_iff_prefix, ih, List.infix_cons_iff]

/-! ## The plain search -/

/-- The block comments of a text with the offsets at which they begin, the text itself being at
this one. -/
def placedComments : (skip offset : Nat) → List Char → List (Nat × List Char)
  | _, _, [] => []
  | skip + 1, offset, _ :: rest => placedComments skip (offset + 1) rest
  | 0, offset, '/' :: '*' :: rest =>
      match blockTextLength? 0 rest with
      | some n => (offset, rest.take n) :: placedComments (n + 3) (offset + 1) ('*' :: rest)
      | none => []
  | 0, offset, _ :: rest => placedComments 0 (offset + 1) rest

/-- The comments with their offsets are the comments. -/
theorem map_snd_placedComments (skip offset : Nat) (cs : List Char) :
    (placedComments skip offset cs).map (·.2) = blockComments skip cs := by
  fun_induction placedComments skip offset cs with
  | case1 skip offset => rw [blockComments.eq_def]; rfl
  | case2 skip offset c rest ih => rw [ih, blockComments]
  | case3 offset rest n hn ih => simp [blockComments, hn, ih]
  | case4 offset rest hn => simp [blockComments, hn]
  | case5 offset c rest hopen ih => rw [ih, blockComments]; exact hopen

theorem placedComments_skip (skip offset : Nat) (cs : List Char) :
    placedComments skip offset cs = placedComments 0 (offset + skip) (cs.drop skip) := by
  induction skip generalizing offset cs with
  | zero => rfl
  | succ skip ih =>
      cases cs with
      | nil => rfl
      | cons c rest =>
          rw [placedComments, ih, List.drop_succ_cons]
          congr 1
          omega

/-- The search passes over a text that has no opening. -/
theorem placedComments_append {text rest : List Char} (offset : Nat)
    (h : ∀ i < text.length, ¬ ['/', '*'] <+: (text ++ rest).drop i) :
    placedComments 0 offset (text ++ rest) = placedComments 0 (offset + text.length) rest := by
  induction text generalizing offset with
  | nil => rfl
  | cons c text ih =>
      have hstep : placedComments 0 offset (c :: (text ++ rest)) =
          placedComments 0 (offset + 1) (text ++ rest) := by
        rw [placedComments]
        intro more hslash hstar
        apply h 0 (Nat.succ_pos _)
        rw [List.drop_zero, List.cons_append, hslash, hstar]
        exact ⟨more, rfl⟩
      rw [List.cons_append, hstep, ih (offset + 1), List.length_cons]
      · congr 1
        omega
      · intro i hi
        have := h (i + 1) (by rw [List.length_cons]; omega)
        rwa [List.cons_append, List.drop_succ_cons] at this

/-- A text with an end has room for it. -/
theorem le_of_blockTextLength {n stop : Nat} {cs : List Char}
    (h : blockTextLength? n cs = some stop) : n ≤ stop ∧ stop + 2 ≤ n + cs.length := by
  fun_induction blockTextLength? n cs with
  | case1 n rest =>
      cases h
      simp
  | case2 n c rest _ ih =>
      obtain ⟨hle, hroom⟩ := ih h
      rw [List.length_cons]
      omega
  | case3 => cases h

/-! ## The comments of a source -/

/-- The text of a piece that is a block comment. -/
def blockText? : Piece → Option (List Char)
  | .trivia (.comment ⟨.block, text⟩) _ => some text.toList
  | _ => none

/-- The block comments among pieces, with their offsets. -/
def blocksAt (placed : List (Nat × Piece)) : List (Nat × List Char) :=
  placed.filterMap fun q => (blockText? q.2).map fun text => (q.1, text)

/-- Every opening in a text that is cut into these pieces is in a block comment: at its first
character, or inside. -/
def OpeningsInBlocks (offset : Nat) (cs : List Char) (ps : List Piece) : Prop :=
  ∀ i, ['/', '*'] <+: cs.drop i → ∃ q ∈ located offset ps, (blockText? q.2).isSome ∧
    q.1 ≤ offset + i ∧ offset + i < q.1 + q.2.text.toList.length

/-- Behind the first piece, openings are in the block comments of the others. -/
theorem OpeningsInBlocks.tail {offset : Nat} {p : Piece} {rest : List Char} {ps : List Piece}
    (h : OpeningsInBlocks offset (p.text.toList ++ rest) (p :: ps)) :
    OpeningsInBlocks (offset + p.text.toList.length) rest ps := by
  intro i hi
  have hopen : ['/', '*'] <+: (p.text.toList ++ rest).drop (p.text.toList.length + i) := by
    rwa [← List.drop_drop, List.drop_left]
  obtain ⟨q, hq, hblock, hle, hlt⟩ := h _ hopen
  rcases List.mem_cons.mp hq with rfl | hrest
  · simp only at hlt
    omega
  · exact ⟨q, hrest, hblock, by omega, by omega⟩

/-- A piece that is no block comment has no opening. -/
theorem OpeningsInBlocks.head {offset : Nat} {p : Piece} {cs : List Char} {ps : List Piece}
    (h : OpeningsInBlocks offset cs (p :: ps)) (hp : blockText? p = none) :
    ∀ i < p.text.toList.length, ¬ ['/', '*'] <+: cs.drop i := by
  intro i hi hopen
  obtain ⟨q, hq, hblock, hle, hlt⟩ := h i hopen
  rcases List.mem_cons.mp hq with rfl | hrest
  · rw [hp] at hblock
    cases hblock
  · have := le_of_mem_located hrest
    omega

theorem block_of_scanTrivia {lineStart : Bool} {text : String} {cs : List Char} {length : Nat}
    (h : scanTrivia lineStart cs = .piece (.comment ⟨.block, text⟩) length) :
    ∃ more n, cs = '/' :: '*' :: more ∧ blockTextLength? 0 more = some n ∧
      text = .ofList (more.take n) ∧ length = n + 4 := by
  unfold scanTrivia at h
  split at h
  · cases h
  · rename_i more
    split at h
    · rename_i n hn
      cases h
      exact ⟨more, n, rfl, hn, rfl, rfl⟩
    · cases h
  · cases h
  · split at h <;> cases h
  · split at h
    · cases h
    · split at h <;> cases h
  · cases h

/-- A block comment is what stands between an opening and the next end. -/
theorem block_of_scanPiece {x : ScanContext} {cs text : List Char} {p : Piece} {length : Nat}
    (h : scanPiece x cs = .ok (p, length)) (hp : blockText? p = some text) :
    ∃ more n, cs = '/' :: '*' :: more ∧ blockTextLength? 0 more = some n ∧
      text = more.take n ∧ p.text.toList.length = n + 4 := by
  cases p with
  | token t => cases hp
  | trivia t written =>
      unfold blockText? at hp
      split at hp
      · rename_i text _ heq
        cases heq
        cases hp
        have htext := (piece_of_scanPiece h).2.1
        unfold scanPiece at h
        split at h
        · rename_i htrivia
          cases h
          obtain ⟨more, n, rfl, hn, rfl, rfl⟩ := block_of_scanTrivia htrivia
          refine ⟨more, n, rfl, hn, String.toList_ofList, ?_⟩
          have hroom := (le_of_blockTextLength hn).2
          rw [htext, List.length_take]
          simp only [List.length_cons]
          omega
        · cases h
        · -- from here on pieces are tokens
          split at h
          · cases h
          · cases h
          · split at h <;> cases h
      · cases hp

/-- The search finds the block comments of a text in which no opening stands elsewhere. -/
theorem placedComments_of_cut {x : ScanContext} {cs : List Char} {ps : List Piece}
    (hcut : Cut x cs ps) {offset : Nat} (h : OpeningsInBlocks offset cs ps) :
    placedComments 0 offset cs = blocksAt (located offset ps) := by
  -- the plain search stands at the front of a piece at every step of the induction
  induction hcut generalizing offset with
  | done => rfl
  | @piece x p length rest ps hscan _ ih =>
      have hrest := ih h.tail
      cases hblock : blockText? p with
      | none =>
          have hskip : blocksAt (located offset (p :: ps)) =
              blocksAt (located (offset + p.text.toList.length) ps) :=
            List.filterMap_cons_none (by rw [hblock]; rfl)
          rw [placedComments_append offset (h.head hblock), hskip, hrest]
      | some text =>
          have hkeep : blocksAt (located offset (p :: ps)) =
              (offset, text) :: blocksAt (located (offset + p.text.toList.length) ps) :=
            List.filterMap_cons_some (by rw [hblock]; rfl)
          obtain ⟨more, n, hcs, hn, rfl, hlength⟩ := block_of_scanPiece hscan hblock
          have hdrop : ('*' :: more).drop (n + 3) = rest := by
            have hleft : (p.text.toList ++ rest).drop p.text.toList.length = rest := List.drop_left
            rwa [hlength, hcs] at hleft
          rw [hkeep, ← hrest, hcs, placedComments, hn, hlength]
          show _ :: placedComments (n + 3) (offset + 1) ('*' :: more) = _
          rw [placedComments_skip, hdrop]
          congr 2
          omega

/-- The block comments of a source are those of its pieces. -/
theorem exists_comments {source : String} {ps : List Piece} (h : pieces source = .ok ps) :
    ∃ found, comments source = .ok found ∧
      (found.filter (·.form = .block)).map (·.text.toList) =
        (blocksAt (located 0 ps)).map (·.2) := by
  have hblocks : (blocksAt (located 0 ps)).map (·.2) =
      ((located 0 ps).map (·.2)).filterMap blockText? := by
    rw [blocksAt, List.map_filterMap, List.filterMap_map]
    congr 1
    funext q
    rw [Option.map_map]
    exact Option.map_id'
  refine ⟨_, by rw [comments, h]; rfl, ?_⟩
  rw [hblocks, map_snd_located]
  clear h hblocks
  induction ps with
  | nil => rfl
  | cons p ps ih =>
      cases p with
      | token t => exact ih
      | trivia t text =>
          cases t with
          | space => exact ih
          | lineBreak => exact ih
          | comment c =>
              obtain ⟨form, text⟩ := c
              cases form with
              | block => exact congrArg (List.cons _) ih
              | line => exact ih
              | markupOpen => exact ih
              | markupClose => exact ih

/-- The search for the marker sees the comments of the source.  If every opening in an accepted
source is in a block comment, then the plain search finds exactly the block comments, each at its
place, and the marker is found exactly if one of them has its text. -/
theorem hasProvideGoogFlag_iff {source : String} {ps : List Piece}
    (hpieces : pieces source = .ok ps) (hopen : OpeningsInBlocks 0 source.toList ps) :
    placedComments 0 0 source.toList = blocksAt (located 0 ps) ∧
      ∃ found, comments source = .ok found ∧
        blockComments 0 source.toList =
          (found.filter (·.form = .block)).map (·.text.toList) ∧
        (hasProvideGoogFlag source = true ↔
          ∃ c ∈ found, c.form = .block ∧ provideGoogFlag.toList <:+: c.text.toList) := by
  have hplaced := placedComments_of_cut (cut_of_pieces hpieces) hopen
  obtain ⟨found, hfound, htexts⟩ := exists_comments hpieces
  have hblocks : blockComments 0 source.toList =
      (found.filter (·.form = .block)).map (·.text.toList) := by
    rw [htexts, ← hplaced, map_snd_placedComments]
  refine ⟨hplaced, found, hfound, hblocks, ?_⟩
  rw [hasProvideGoogFlag, hblocks, List.any_map, List.any_filter, List.any_eq_true]
  simp only [Bool.and_eq_true, decide_eq_true_eq, Function.comp_apply, containsText_iff]

/-- A comment that begins like one that ends at once, a string that looks like an end, and an
empty comment with a star behind it. -/
theorem hasProvideGoogFlag_iff_sample :
    let source := "/*/@provideGoog*/'*/'/**/*b"
    let ps : List Piece :=
      [.trivia (.comment ⟨.block, "/@provideGoog"⟩) "/*/@provideGoog*/", .token ⟨.string, "'*/'"⟩,
        .trivia (.comment ⟨.block, ""⟩) "/**/", .token ⟨.punctuator, "*"⟩,
        .token ⟨.identifier, "b"⟩]
    pieces source = .ok ps ∧ OpeningsInBlocks 0 source.toList ps ∧
      placedComments 0 0 source.toList = blocksAt (located 0 ps) ∧
      ∃ found, comments source = .ok found ∧
        blockComments 0 source.toList =
          (found.filter (·.form = .block)).map (·.text.toList) ∧
        (hasProvideGoogFlag source = true ↔
          ∃ c ∈ found, c.form = .block ∧ provideGoogFlag.toList <:+: c.text.toList) := by
  intro source ps
  have hpieces : pieces source = .ok ps := by
    subst source ps
    rfl
  have hopen : OpeningsInBlocks 0 source.toList ps := by
    intro i hi
    have hbound : i < 27 := by
      have hlength : source.toList.length = 27 := by decide
      have := hi.length_le
      rw [List.length_drop, hlength] at this
      simp only [List.length_cons] at this
      omega
    have hall : ∀ i < 27, ['/', '*'] <+: source.toList.drop i →
        ∃ q ∈ located 0 ps, (blockText? q.2).isSome ∧ q.1 ≤ 0 + i ∧
          0 + i < q.1 + q.2.text.toList.length := by decide
    exact hall i hbound hi
  exact ⟨hpieces, hopen, hasProvideGoogFlag_iff hpieces hopen⟩

/-- In a string, an opening is a comment for the plain search only. -/
example : comments "'/*@provideGoog*/'" = .ok [] ∧
    hasProvideGoogFlag "'/*@provideGoog*/'" = true := ⟨rfl, rfl⟩

end GoogIndex
