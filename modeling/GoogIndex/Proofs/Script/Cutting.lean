/-
  Proofs/Script/Cutting.lean --- an accepted source is its pieces, one after the other.

  Scanning passes over a source character by character.  What it gives can be said without
  that: the texts of the pieces make up the source, and each piece is what is scanned at the
  front of the text from there on (`Cut`).  So a piece has a place in the source, the places
  are in order, and no two pieces share a character.
-/
import GoogIndex.Proofs.Script.Literals

set_option autoImplicit false

namespace GoogIndex.Script

/-! ## No piece is empty -/

theorem pos_of_lineComment (form : CommentForm) {opening : Nat} (h : 0 < opening)
    (cs : List Char) : 0 < (lineComment form opening cs).2 := by
  simp only [lineComment]
  omega

theorem pos_of_scanTrivia {lineStart : Bool} {cs : List Char} {t : Trivia} {length : Nat}
    (h : scanTrivia lineStart cs = .piece t length) : 0 < length := by
  unfold scanTrivia at h
  split at h
  · rename_i rest
    cases h
    exact pos_of_lineComment .line (by decide) rest
  · split at h
    · cases h
      omega
    · cases h
  · rename_i rest
    cases h
    exact pos_of_lineComment .markupOpen (by decide) rest
  · rename_i rest
    split at h
    · cases h
      exact pos_of_lineComment .markupClose (by decide) rest
    · cases h
  · split at h
    · cases h
      decide
    · split at h
      · cases h
        unfold terminatorLength
        split <;> decide
      · cases h
  · cases h

theorem lt_of_patternBody {skip n length : Nat} {inClass : Bool} {cs : List Char}
    (h : patternBody skip n inClass cs = .ok length) : n < length := by
  fun_induction patternBody skip n inClass cs with
  | case1 => cases h
  | case2 _ _ _ _ _ ih => exact Nat.lt_of_succ_lt (ih h)
  | case3 => cases h
  | case4 => cases h
  | case5 _ _ _ _ _ ih => exact Nat.lt_of_succ_lt (ih h)
  | case6 _ _ _ _ _ ih => exact Nat.lt_of_succ_lt (ih h)
  | case7 n =>
      cases h
      exact Nat.lt_succ_self n
  | case8 _ _ _ _ _ _ _ _ ih => exact Nat.lt_of_succ_lt (ih h)

theorem le_of_patternFlags {n length : Nat} {cs : List Char} (h : patternFlags n cs = .ok length) :
    n ≤ length := by
  fun_induction patternFlags n cs with
  | case1 =>
      cases h
      exact Nat.le_refl _
  | case2 =>
      cases h
      exact Nat.le_refl _
  | case3 => cases h
  | case4 _ _ _ _ _ ih => exact Nat.le_of_succ_le (ih h)

theorem pos_of_scanPattern {cs : List Char} {length : Nat} (h : scanPattern cs = .ok length) :
    0 < length := by
  cases cs with
  | nil => cases h
  | cons c rest =>
      simp only [scanPattern, bind, Except.bind] at h
      split at h
      · cases h
      · rename_i body hbody
        split at h
        · cases h
        · rename_i flags hflags
          have hlt := lt_of_patternBody hbody
          have hle := le_of_patternFlags hflags
          split at h
          · cases h
            omega
          · cases h

theorem le_of_wordFrom {skip n : Nat} {meant : List Nat} {cs : List Char} {word : CodeText × Nat}
    (h : wordFrom skip n meant cs = .ok word) : n ≤ word.2 := by
  fun_induction wordFrom skip n meant cs with
  | case1 =>
      cases h
      exact Nat.le_refl _
  | case2 _ _ _ _ _ ih => exact Nat.le_of_succ_le (ih h)
  | case3 _ _ _ _ _ _ ih => exact Nat.le_of_succ_le (ih h)
  | case4 => cases h
  | case5 _ _ _ _ _ _ ih => exact Nat.le_of_succ_le (ih h)
  | case6 =>
      cases h
      exact Nat.le_refl _

theorem wordKind_ne_string (word : String) : wordKind word ≠ .string := by
  unfold wordKind
  intro h
  split at h
  · cases h
  split at h
  · cases h
  split at h
  · cases h
  · cases h

/-- What passes a check is the value that was checked. -/
theorem eq_of_unless {ε α : Type} {p : Prop} [Decidable p] {e : ε} {a b : α}
    (h : (if p then .error e else .ok a : Except ε α) = .ok b) : a = b := by
  split at h
  · cases h
  · exact Except.ok.inj h

/-- A word has a character, and is no string. -/
theorem pos_of_scanWord {cs : List Char} {w : Word} (h : scanWord cs = .ok w) :
    0 < w.length ∧ w.kind ≠ .string := by
  simp only [scanWord, bind, Except.bind, pure, Except.pure] at h
  split at h
  · split at h
    · split at h
      · cases h
      · rename_i hword
        cases eq_of_unless h
        exact ⟨le_of_wordFrom hword, wordKind_ne_string _⟩
    · cases h
  · split at h
    · cases h
    · rename_i hword
      cases eq_of_unless h
      exact ⟨le_of_wordFrom hword, wordKind_ne_string _⟩
  · cases h

theorem pos_of_radixNumber {p stops : Char → Bool} {start least : Nat} {octal : Bool}
    {cs : List Char} {n : NumberLexeme} (hstart : 0 < start)
    (h : radixNumber p stops start least octal cs = .ok n) : 0 < n.length := by
  cases eq_of_unless h
  exact Nat.lt_of_lt_of_le hstart (Nat.le_add_right _ _)

/-- A decimal begins with a digit, or with a point that counts as well. -/
theorem pos_of_decimalNumber {c : Char} {rest : List Char} {n : NumberLexeme}
    (hc : isDecimalDigit c = true ∨ c = '.') (h : decimalNumber (c :: rest) = .ok n) :
    0 < n.length := by
  unfold decimalNumber at h
  extract_lets whole afterWhole fraction at h
  have hpos : 0 < whole + fraction := by
    rcases hc with hdigit | rfl
    · have hwhole : 0 < whole := by
        simp only [whole, List.takeWhile_cons_of_pos hdigit, List.length_cons]
        omega
      omega
    · have hpoint : ('.' :: rest).takeWhile isDecimalDigit = [] :=
        List.takeWhile_cons_of_neg (by decide)
      simp only [whole, fraction, afterWhole, hpoint, List.length_nil, List.drop_zero]
      omega
  split at h
  · cases h
  · cases eq_of_unless h
    show 0 < whole + fraction + _
    omega

theorem pos_of_scanNumber {c : Char} {rest : List Char} {n : NumberLexeme}
    (hc : isDecimalDigit c = true ∨ c = '.') (h : scanNumber (c :: rest) = .ok n) :
    0 < n.length := by
  unfold scanNumber at h
  split at h
  · split at h
    · exact pos_of_radixNumber (by decide) h
    split at h
    · exact pos_of_radixNumber (by decide) h
    split at h
    · exact pos_of_radixNumber (by decide) h
    split at h
    · exact pos_of_radixNumber (by decide) h
    · exact pos_of_decimalNumber hc h
  · exact pos_of_decimalNumber hc h

theorem lt_of_templateFrom {skip n length : Nat} {cs : List Char}
    (h : templateFrom skip n cs = .ok length) : n < length := by
  fun_induction templateFrom skip n cs with
  | case1 => cases h
  | case2 _ _ _ _ ih => exact Nat.lt_of_succ_lt (ih h)
  | case3 =>
      cases h
      exact Nat.lt_succ_self _
  | case4 =>
      cases h
      omega
  | case5 => cases h
  | case6 _ _ _ _ _ _ ih => exact Nat.lt_of_succ_lt (ih h)
  | case7 _ _ _ _ _ _ ih => exact Nat.lt_of_succ_lt (ih h)

theorem pos_of_scanPunctuator {cs : List Char} {p : String} (h : scanPunctuator? cs = some p) :
    0 < p.toList.length := by
  have hlong : ∀ p ∈ punctuators, 0 < p.toList.length := by decide
  exact hlong p (List.mem_of_find?_eq_some h)

/-- A token has a character, and if it is a string, it is enclosed in quotes. -/
theorem lexeme_of_scanLexeme {braces : List Brace} {cs : List Char} {l : Lexeme}
    (h : scanLexeme braces cs = .ok l) :
    0 < l.length ∧ (l.kind = .string → ∃ quote body, (quote = '\'' ∨ quote = '"') ∧
      cs.take l.length = quote :: (body ++ [quote]) ∧ Enclosed quote body) := by
  cases cs with
  | nil => cases h
  | cons c rest =>
      simp only [scanLexeme, bind, Except.bind, pure, Except.pure] at h
      split at h
      · split at h
        · cases h
        · rename_i w hw
          cases h
          exact ⟨(pos_of_scanWord hw).1, fun hkind => absurd hkind (pos_of_scanWord hw).2⟩
      split at h
      · rename_i hquote
        split at h
        · cases h
        · rename_i q hq
          cases h
          obtain ⟨body, more, hcut, hlength, hbody⟩ := enclosed_of_scanQuote hquote hq
          refine ⟨?_, fun _ => ⟨c, body, hquote, ?_, hbody⟩⟩
          · rw [hlength]
            exact Nat.succ_pos _
          · rw [hlength, hcut, List.take_left]
      split at h
      · rename_i hnumber
        split at h
        · cases h
        · rename_i n hn
          cases h
          exact ⟨pos_of_scanNumber (hnumber.imp_right And.left) hn, nofun⟩
      split at h
      · split at h
        · cases h
        · rename_i length hlength
          cases h
          exact ⟨Nat.lt_of_succ_lt (lt_of_templateFrom hlength), nofun⟩
      split at h
      · rename_i p hp
        cases h
        exact ⟨pos_of_scanPunctuator hp, nofun⟩
      · cases h

/-- A token's text is enclosed in quotes if the token is a string. -/
def Token.Quoted (t : Token) : Prop :=
  t.kind = .string → ∃ quote body, (quote = '\'' ∨ quote = '"') ∧
    t.text.toList = quote :: (body ++ [quote]) ∧ Enclosed quote body

/-- What is scanned at the front of a text: a part of it that is not empty, and if it is a string,
one that is enclosed in quotes. -/
theorem piece_of_scanPiece {x : ScanContext} {cs : List Char} {piece : Piece} {length : Nat}
    (h : scanPiece x cs = .ok (piece, length)) :
    0 < length ∧ piece.text.toList = cs.take length ∧
      ∀ t, piece.token? = some t → t.Quoted := by
  unfold scanPiece at h
  split at h
  · rename_i htrivia
    cases h
    exact ⟨pos_of_scanTrivia htrivia, String.toList_ofList, nofun⟩
  · cases h
  · split at h
    · cases h
    · rename_i hslash
      cases h
      refine ⟨?_, String.toList_ofList, ?_⟩
      · unfold scanSlash? at hslash
        split at hslash
        · split at hslash
          · cases hslash
          · cases hslash
          · split at hslash
            · rename_i hpattern
              cases hslash
              exact pos_of_scanPattern hpattern
            · cases hslash
        · cases hslash
      · rintro t ⟨⟩
        exact nofun
    · split at h
      · cases h
      · rename_i l hl
        cases h
        obtain ⟨hpos, hquoted⟩ := lexeme_of_scanLexeme hl
        refine ⟨hpos, String.toList_ofList, ?_⟩
        rintro t ⟨⟩ hkind
        obtain ⟨quote, body, hquote, htext, hbody⟩ := hquoted hkind
        exact ⟨quote, body, hquote, String.toList_ofList.trans htext, hbody⟩

/-! ## Cutting -/

/-- The text is cut into these pieces: each is what is scanned at the front of the text from there
on, in the context of those before it. -/
inductive Cut : ScanContext → List Char → List Piece → Prop where
  | done (x : ScanContext) : Cut x [] []
  | piece {x : ScanContext} {piece : Piece} {length : Nat} {rest : List Char} {more : List Piece}
      (scanned : scanPiece x (piece.text.toList ++ rest) = .ok (piece, length))
      (cut : Cut (x.push piece) rest more) : Cut x (piece.text.toList ++ rest) (piece :: more)

theorem cut_of_piecesFrom {x : ScanContext} {skip offset : Nat} {done ps : List Piece}
    {cs : List Char} (h : piecesFrom x skip offset done cs = .ok ps) :
    ∃ more, ps = done.reverse ++ more ∧ Cut x (cs.drop skip) more := by
  fun_induction piecesFrom x skip offset done cs with
  | case1 x skip offset done =>
      cases h
      rw [List.drop_nil]
      exact ⟨[], (List.append_nil _).symm, .done x⟩
  | case2 x skip offset done c rest ih => exact ih h
  | case3 => cases h
  | case4 x offset done c rest piece length hscan ih =>
      obtain ⟨more, hps, hcut⟩ := ih h
      obtain ⟨hpos, htext, _⟩ := piece_of_scanPiece hscan
      obtain ⟨n, rfl⟩ := Nat.exists_eq_succ_of_ne_zero (Nat.pos_iff_ne_zero.mp hpos)
      have hsplit : c :: rest = piece.text.toList ++ rest.drop n := by
        rw [htext, List.take_succ_cons, List.cons_append, List.take_append_drop]
      refine ⟨piece :: more, ?_, ?_⟩
      · rw [hps, List.reverse_cons, List.append_assoc, List.singleton_append]
      · rw [List.drop_zero, hsplit]
        rw [hsplit] at hscan
        exact .piece hscan hcut

/-- An accepted source is cut into its pieces. -/
theorem cut_of_pieces {source : String} {ps : List Piece} (h : pieces source = .ok ps) :
    Cut .start source.toList ps := by
  simp only [pieces] at h
  split at h
  · rename_i hpieces
    cases h
    obtain ⟨more, hmore, hcut⟩ := cut_of_piecesFrom hpieces
    rw [List.reverse_nil, List.nil_append] at hmore
    rw [hmore]
    exact hcut
  · cases h
  · cases h

/-! ## Places -/

/-- Pieces with the offsets at which they begin, the first of them at this one. -/
def located (offset : Nat) : List Piece → List (Nat × Piece)
  | [] => []
  | p :: ps => (offset, p) :: located (offset + p.text.toList.length) ps

theorem map_snd_located (offset : Nat) (ps : List Piece) : (located offset ps).map (·.2) = ps := by
  induction ps generalizing offset with
  | nil => rfl
  | cons p ps ih => rw [located, List.map_cons, ih]

theorem le_of_mem_located {offset n : Nat} {p : Piece} {ps : List Piece}
    (h : (n, p) ∈ located offset ps) : offset ≤ n := by
  induction ps generalizing offset with
  | nil => cases h
  | cons first ps ih =>
      rcases List.mem_cons.mp h with heq | hrest
      · cases heq
        exact Nat.le_refl n
      · have := ih hrest
        omega

/-- Pieces come one after the other. -/
theorem pairwise_located (offset : Nat) (ps : List Piece) :
    (located offset ps).Pairwise fun a b => a.1 + a.2.text.toList.length ≤ b.1 := by
  induction ps generalizing offset with
  | nil => exact List.Pairwise.nil
  | cons p ps ih =>
      refine List.pairwise_cons.mpr ⟨fun b hb => ?_, ih _⟩
      exact le_of_mem_located hb

/-- A piece stands at its place. -/
theorem Cut.slice {x : ScanContext} {cs : List Char} {ps : List Piece} (h : Cut x cs ps)
    {offset n : Nat} {p : Piece} (hp : (n, p) ∈ located offset ps) :
    p.text.toList <+: cs.drop (n - offset) := by
  induction h generalizing offset with
  | done => cases hp
  | @piece x first length rest more _ _ ih =>
      rcases List.mem_cons.mp hp with heq | hrest
      · cases heq
        rw [Nat.sub_self, List.drop_zero]
        exact List.prefix_append _ _
      · have hle := le_of_mem_located hrest
        have hoffset : n - offset =
            first.text.toList.length + (n - (offset + first.text.toList.length)) := by omega
        rw [hoffset, ← List.drop_drop, List.drop_left]
        exact ih hrest

/-- The strings of a text that is cut are enclosed in quotes. -/
theorem Cut.quoted {x : ScanContext} {cs : List Char} {ps : List Piece} (h : Cut x cs ps)
    {t : Token} (ht : .token t ∈ ps) : t.Quoted := by
  induction h with
  | done => cases ht
  | piece scanned _ ih =>
      rcases List.mem_cons.mp ht with rfl | hrest
      · exact (piece_of_scanPiece scanned).2.2 t rfl
      · exact ih hrest

end GoogIndex.Script
