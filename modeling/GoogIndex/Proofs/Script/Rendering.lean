/-
  Proofs/Script/Rendering.lean --- tokens written out, and scanned again.

  A list of tokens is rendered with arbitrary fillings of white space and comments before,
  between and behind them.  Scanning the rendered text gives the tokens back: a filling is
  cut into trivia only, whatever stands in its comments, and a token is measured at its own
  length, as long as what follows it directly cannot continue it.
-/
import GoogIndex.Script.Source
import Mathlib.Data.Bool.AllAny

set_option autoImplicit false

namespace GoogIndex.Script

/-! ## One piece after another -/

/-- The characters of a piece are passed over. -/
theorem piecesFrom_skip (x : ScanContext) (offset : Nat) (done : List Piece)
    (front rest : List Char) :
    piecesFrom x front.length offset done (front ++ rest) =
      piecesFrom x 0 (offset + front.length) done rest := by
  induction front generalizing offset with
  | nil => rfl
  | cons c front ih =>
      rw [List.length_cons, List.cons_append, piecesFrom, ih, Nat.add_assoc, Nat.add_comm 1]

/-- A piece is taken off the front. -/
theorem piecesFrom_piece {x : ScanContext} {front rest : List Char} {piece : Piece}
    (hne : front ≠ []) (h : scanPiece x (front ++ rest) = .ok (piece, front.length))
    (offset : Nat) (done : List Piece) :
    piecesFrom x 0 offset done (front ++ rest) =
      piecesFrom (x.push piece) 0 (offset + front.length) (piece :: done) rest := by
  cases front with
  | nil => exact absurd rfl hne
  | cons c front =>
      rw [List.cons_append] at h ⊢
      rw [piecesFrom, h]
      simp only [List.length_cons, Nat.add_sub_cancel]
      rw [piecesFrom_skip, Nat.add_assoc, Nat.add_comm 1]

/-! ## Fillings -/

/-- What may be written between two tokens: a blank, a line terminator, a comment that ends
with the first `*/` in it, or a comment up to a line feed. -/
inductive Filling where
  | space
  | tab
  | lineBreak (c : Char) (ends : isLineTerminator c = true)
  | block (text : List Char) (unclosed : ¬ ['*', '/'] <:+: text)
  | line (text : List Char) (unbroken : ∀ c ∈ text, isLineTerminator c = false)

/-- The text of a filling. -/
def Filling.chars : Filling → List Char
  | .space => [' ']
  | .tab => ['\t']
  | .lineBreak c _ => [c]
  | .block text _ => '/' :: '*' :: (text ++ ['*', '/'])
  | .line text _ => '/' :: '/' :: (text ++ ['\n'])

/-- The text of some fillings in a row. -/
def gapChars (fillings : List Filling) : List Char := fillings.flatMap Filling.chars

/-- The first `*/` behind a text without one is where the text ends. -/
theorem blockTextLength?_append {text : List Char} (h : ¬ ['*', '/'] <:+: text) (n : Nat)
    (rest : List Char) :
    blockTextLength? n (text ++ '*' :: '/' :: rest) = some (n + text.length) := by
  induction text generalizing n with
  | nil => rfl
  | cons c text ih =>
      have htext : ¬ ['*', '/'] <:+: text := fun hin =>
        h (hin.trans (List.suffix_cons c text).isInfix)
      have hfront : ¬ (c = '*' ∧ (text ++ '*' :: '/' :: rest).head? = some '/') := by
        rintro ⟨rfl, hhead⟩
        cases text with
        | nil => simp at hhead
        | cons d text =>
            simp only [List.cons_append, List.head?_cons, Option.some.injEq] at hhead
            subst hhead
            exact h ⟨[], text, rfl⟩
      rw [List.cons_append, blockTextLength?]
      · rw [ih htext, List.length_cons, Nat.add_assoc, Nat.add_comm 1]
      · rintro more rfl heq
        exact hfront ⟨rfl, by rw [heq]; rfl⟩

/-- A line terminator is no other blank. -/
theorem isSpace_of_isLineTerminator {c : Char} (h : isLineTerminator c = true) :
    isSpace c = false := by
  simp only [isLineTerminator, Bool.or_eq_true, decide_eq_true_eq] at h
  rcases h with ((rfl | rfl) | rfl) | rfl <;> decide

theorem scanTrivia_lineBreak {c : Char} (h : isLineTerminator c = true) (lineStart : Bool)
    (rest : List Char) :
    scanTrivia lineStart (c :: rest) = .piece .lineBreak (terminatorLength c rest) := by
  have hspace := isSpace_of_isLineTerminator h
  unfold scanTrivia
  split
  · rename_i heq
    cases heq
    cases h
  · rename_i heq
    cases heq
    cases h
  · rename_i heq
    cases heq
    cases h
  · rename_i heq
    cases heq
    cases h
  · rename_i heq
    cases heq
    rw [hspace, h]
    rfl
  · rename_i heq
    cases heq

/-- What a filling is when it is scanned. -/
def Filling.trivia : Filling → Trivia
  | .space => .space
  | .tab => .space
  | .lineBreak _ _ => .lineBreak
  | .block text _ => .comment ⟨.block, .ofList text⟩
  | .line text _ => .comment ⟨.line, .ofList text⟩

/-- A filling is one piece, unless it is a carriage return with a line feed behind it. -/
theorem scanTrivia_filling (f : Filling) (lineStart : Bool) {rest : List Char}
    (h : ¬ (f.chars = ['\r'] ∧ rest.head? = some '\n')) :
    scanTrivia lineStart (f.chars ++ rest) = .piece f.trivia f.chars.length := by
  cases f with
  | space => rfl
  | tab => rfl
  | lineBreak c ends =>
      have hlength : terminatorLength c rest = 1 := if_neg fun hc => h ⟨by rw [← hc.1]; rfl, hc.2⟩
      rw [Filling.chars, List.singleton_append, scanTrivia_lineBreak ends, hlength]
      rfl
  | block text unclosed =>
      rw [Filling.chars, List.cons_append, List.cons_append, List.append_assoc, scanTrivia]
      rw [List.cons_append, List.cons_append, List.nil_append, blockTextLength?_append unclosed]
      simp [Filling.trivia]
  | line text unbroken =>
      have htext : (text ++ '\n' :: rest).takeWhile (fun c => !isLineTerminator c) = text := by
        rw [List.takeWhile_append_of_pos fun c hc => by rw [unbroken c hc]; rfl]
        simp [isLineTerminator]
      have hfeed : terminatorLength '\n' rest = 1 := if_neg fun hr => absurd hr.1 (by decide)
      rw [Filling.chars, List.cons_append, List.cons_append, List.append_assoc, scanTrivia]
      rw [List.singleton_append, lineComment, htext, List.drop_left]
      simp only [hfeed, Filling.trivia, List.length_cons, List.length_append, List.length_nil]
      rw [Nat.add_comm 2, Nat.add_right_comm]

theorem scanPiece_of_scanTrivia {x : ScanContext} {front rest : List Char} {t : Trivia}
    (h : scanTrivia x.lineStart (front ++ rest) = .piece t front.length) :
    scanPiece x (front ++ rest) = .ok (.trivia t (.ofList front), front.length) := by
  rw [scanPiece, h]
  simp only [List.take_left]

theorem chars_ne_nil (f : Filling) : f.chars ≠ [] := by
  cases f <;> simp [Filling.chars]

/-- Only a line feed begins with one. -/
theorem head?_gapChars {fillings : List Filling} (h : (gapChars fillings).head? = some '\n') :
    ∃ ends rest, fillings = .lineBreak '\n' ends :: rest := by
  cases fillings with
  | nil => cases h
  | cons f rest =>
      cases f with
      | lineBreak c ends =>
          cases h
          exact ⟨ends, rest, rfl⟩
      | space => cases h
      | tab => cases h
      | block text _ => cases h
      | line text _ => cases h

/-- Fillings are cut into pieces that are no tokens, if the text behind them does not begin
with a line feed. -/
theorem piecesFrom_gap (fillings : List Filling) (rest : List Char)
    (hrest : rest.head? ≠ some '\n') (x : ScanContext) (offset : Nat) (done : List Piece) :
    ∃ x' offset' trivia, trivia.filterMap Piece.token? = [] ∧
      piecesFrom x 0 offset done (gapChars fillings ++ rest) =
        piecesFrom x' 0 offset' (trivia ++ done) rest := by
  -- a carriage return and a line feed behind it are two fillings and one piece
  induction hn : fillings.length using Nat.strongRecOn
    generalizing fillings x offset done with
  | ind n ih =>
    subst hn
    cases fillings with
    | nil => exact ⟨x, offset, [], rfl, rfl⟩
    | cons f more =>
        have hmore : ∀ x' offset' piece fillings', piece.token? = none →
            fillings'.length < (f :: more).length →
            piecesFrom x 0 offset done (gapChars (f :: more) ++ rest) =
              piecesFrom x' 0 offset' (piece :: done) (gapChars fillings' ++ rest) →
            ∃ x' offset' trivia, trivia.filterMap Piece.token? = [] ∧
              piecesFrom x 0 offset done (gapChars (f :: more) ++ rest) =
                piecesFrom x' 0 offset' (trivia ++ done) rest := by
          intro x' offset' piece fillings' hpiece hless hcut
          obtain ⟨x'', offset'', trivia, htrivia, heq⟩ :=
            ih _ hless fillings' x' offset' (piece :: done) rfl
          refine ⟨x'', offset'', trivia ++ [piece], ?_, ?_⟩
          · rw [List.filterMap_append, htrivia, List.filterMap_cons_none hpiece]
            rfl
          · rw [hcut, heq, List.append_assoc, List.singleton_append]
        have hchars : gapChars (f :: more) ++ rest = f.chars ++ (gapChars more ++ rest) := by
          rw [gapChars, List.flatMap_cons, List.append_assoc, gapChars]
        by_cases hpair : f.chars = ['\r'] ∧ (gapChars more ++ rest).head? = some '\n'
        · obtain ⟨hreturn, hfeed⟩ := hpair
          rw [List.head?_append, Option.or_eq_some_iff] at hfeed
          obtain ⟨ends, later, rfl⟩ := head?_gapChars (hfeed.resolve_right fun h => hrest h.2)
          have hboth : f.chars ++ (gapChars (.lineBreak '\n' ends :: later) ++ rest) =
              ['\r', '\n'] ++ (gapChars later ++ rest) := by
            rw [hreturn]
            rfl
          have hscan : scanTrivia x.lineStart (['\r', '\n'] ++ (gapChars later ++ rest)) =
              .piece .lineBreak 2 := scanTrivia_lineBreak (by decide) _ _
          have hcut := piecesFrom_piece (by simp) (scanPiece_of_scanTrivia hscan) offset done
          rw [← hboth, ← hchars] at hcut
          exact hmore _ _ _ later rfl (Nat.lt_succ_of_lt (Nat.lt_succ_self _)) hcut
        · have hscan := scanTrivia_filling f x.lineStart hpair
          have hcut :=
            piecesFrom_piece (chars_ne_nil f) (scanPiece_of_scanTrivia hscan) offset done
          rw [← hchars] at hcut
          exact hmore _ _ _ more rfl (Nat.lt_succ_self _) hcut

/-! ## Tokens -/

/-- The quote of a string literal. -/
inductive QuoteMark where
  | single
  | double
  deriving DecidableEq, Repr, Inhabited

/-- The character of a quote. -/
def QuoteMark.char : QuoteMark → Char
  | .single => '\''
  | .double => '"'

/-- A string literal in which every character stands for itself. -/
structure PlainLiteral where
  mark : QuoteMark
  text : String
  plain : ∀ c ∈ text.toList, c ≠ mark.char ∧ c ≠ '\\' ∧ isLineTerminator c = false

namespace PlainLiteral

/-- The source text of a literal. -/
def source (l : PlainLiteral) : String :=
  .ofList (l.mark.char :: (l.text.toList ++ [l.mark.char]))

theorem toList_source (l : PlainLiteral) :
    l.source.toList = l.mark.char :: (l.text.toList ++ [l.mark.char]) := String.toList_ofList

/-- The token of a literal. -/
def token (l : PlainLiteral) : Token := ⟨.string, l.source⟩

/-- Characters that stand for themselves are read up to the quote. -/
theorem quoteFrom_plain {mark : Char} {text : List Char}
    (h : ∀ c ∈ text, c ≠ mark ∧ c ≠ '\\' ∧ isLineTerminator c = false) (n : Nat)
    (meant : List Nat) (rest : List Char) :
    ∃ meaning, quoteFrom mark 0 n meant false (text ++ mark :: rest) =
      .ok ⟨n + text.length + 1, meaning, false⟩ := by
  induction text generalizing n meant with
  | nil => exact ⟨⟨meant.reverse⟩, by rw [List.nil_append, quoteFrom, if_pos rfl]; rfl⟩
  | cons c text ih =>
      obtain ⟨hmark, hslash, hline⟩ := h c List.mem_cons_self
      obtain ⟨meaning, heq⟩ :=
        ih (fun d hd => h d (List.mem_cons_of_mem c hd)) (n + 1) (c.toNat :: meant)
      refine ⟨meaning, ?_⟩
      rw [List.cons_append, quoteFrom, if_neg hmark, if_neg hslash, hline]
      rw [if_neg Bool.false_ne_true, heq, List.length_cons, Nat.add_right_comm n 1]
      rfl

end PlainLiteral

/-- The tokens that rendered sources are made of: words of letters, four punctuators and
literals. -/
inductive Token.Plain : Token → Prop where
  | word {text : String} (nonempty : text.toList ≠ [])
      (letters : ∀ c ∈ text.toList, c.isAlpha = true)
      (free : wordKind text = .identifier) : Token.Plain ⟨.identifier, text⟩
  | mark {text : String} (listed : text ∈ [".", "(", ")", ";"]) : Token.Plain ⟨.punctuator, text⟩
  | literal (l : PlainLiteral) : Token.Plain l.token

/-- Whether a character may come directly behind a token without continuing it. -/
def Token.endsBefore (t : Token) (c : Char) : Bool :=
  match t.kind with
  | .identifier => !isIdentifierPart c
  | .punctuator => c != '.' && !isDecimalDigit c
  | _ => true

/-- Whether a token ends where this text begins. -/
def Token.EndsBefore (t : Token) (rest : List Char) : Prop :=
  ∀ c, rest.head? = some c → t.endsBefore c = true

theorem isIdentifierStart_of_isAlpha {c : Char} (h : c.isAlpha = true) :
    isIdentifierStart c = true := by
  simp [isIdentifierStart, isAsciiIdentifierStart, h]

theorem isIdentifierPart_of_isAlpha {c : Char} (h : c.isAlpha = true) :
    isIdentifierPart c = true := by
  simp [isIdentifierPart, isAsciiIdentifierStart, h]

/-- A word is read up to the first character that is no part of one. -/
theorem wordFrom_letters {text : List Char} (h : ∀ c ∈ text, c.isAlpha = true) (n : Nat)
    (meant : List Nat) {rest : List Char}
    (hrest : ∀ c, rest.head? = some c → isIdentifierPart c = false) :
    wordFrom 0 n meant (text ++ rest) =
      .ok (⟨meant.reverse ++ text.map Char.toNat⟩, n + text.length) := by
  induction text generalizing n meant with
  | nil =>
      cases rest with
      | nil => simp [wordFrom]
      | cons c rest =>
          have hc := hrest c rfl
          have hslash : c ≠ '\\' := by
            rintro rfl
            cases hc
          simp [wordFrom, hc, hslash]
  | cons c text ih =>
      have hletter := h c List.mem_cons_self
      have hslash : c ≠ '\\' := by
        rintro rfl
        cases hletter
      rw [List.cons_append, wordFrom, if_neg hslash,
        if_pos (isIdentifierPart_of_isAlpha hletter),
        ih fun d hd => h d (List.mem_cons_of_mem c hd)]
      simp [Nat.add_assoc, Nat.add_comm 1]

/-- A word of letters is scanned as it stands, unless it is reserved. -/
theorem scanWord_letters {text : String} (hne : text.toList ≠ [])
    (h : ∀ c ∈ text.toList, c.isAlpha = true) (free : wordKind text = .identifier)
    {rest : List Char} (hrest : ∀ c, rest.head? = some c → isIdentifierPart c = false) :
    scanWord (text.toList ++ rest) =
      .ok ⟨.identifier, .ofString text, text.toList.length⟩ := by
  cases hcs : text.toList with
  | nil => exact absurd hcs hne
  | cons c cs =>
      rw [hcs] at h
      have hslash : c ≠ '\\' := by
        rintro rfl
        cases h _ List.mem_cons_self
      have hfrom := wordFrom_letters (fun d hd => h d (List.mem_cons_of_mem c hd)) 1 [c.toNat] hrest
      have hmeaning : (⟨[c.toNat].reverse ++ cs.map Char.toNat⟩ : CodeText) = .ofString text := by
        rw [CodeText.ofString, hcs]
        rfl
      rw [List.cons_append, scanWord, hfrom, hmeaning]
      · simp [bind, Except.bind, CodeText.text_ofString, free, Nat.add_comm 1]
        rfl
      · exact hslash

/-- What begins like a token is no trivia and no regular expression. -/
theorem scanPiece_of_scanLexeme {x : ScanContext} {c : Char} {cs : List Char} {l : Lexeme}
    (hspace : isSpace c = false) (hline : isLineTerminator c = false)
    (hc : c ≠ '/' ∧ c ≠ '<' ∧ c ≠ '-') (h : scanLexeme x.braces (c :: cs) = .ok l) :
    scanPiece x (c :: cs) = .ok (.token ⟨l.kind, .ofList ((c :: cs).take l.length)⟩, l.length) := by
  obtain ⟨hslash, hless, hminus⟩ := hc
  have htrivia : scanTrivia x.lineStart (c :: cs) = .token := by
    unfold scanTrivia
    split <;> rename_i heq <;> cases heq
    · exact absurd rfl hslash
    · exact absurd rfl hslash
    · exact absurd rfl hless
    · exact absurd rfl hminus
    · rw [hspace, hline]
      rfl
  have hpattern : scanSlash? x.slash (c :: cs) = .ok none := if_neg fun heq => by
    cases heq
    exact hslash rfl
  rw [scanPiece, htrivia, hpattern, h]

/-- A letter is no blank. -/
theorem isSpace_of_isAlpha {c : Char} (h : c.isAlpha = true) : isSpace c = false := by
  have hrange : (65 ≤ c.toNat ∧ c.toNat ≤ 90) ∨ (97 ≤ c.toNat ∧ c.toNat ≤ 122) := by
    have hletter : decide (65 ≤ c.val ∧ c.val ≤ 90) = true ∨
        (decide (97 ≤ c.val) && decide (c.val ≤ 122)) = true := (Bool.or_eq_true _ _).mp h
    simpa [UInt32.le_iff_toNat_le] using hletter
  cases hc : isSpace c with
  | false => rfl
  | true =>
      simp only [isSpace, Bool.or_eq_true, Bool.and_eq_true, beq_iff_eq, decide_eq_true_eq] at hc
      omega

/-- A letter ends no line. -/
theorem isLineTerminator_of_isAlpha {c : Char} (h : c.isAlpha = true) :
    isLineTerminator c = false := by
  cases hc : isLineTerminator c with
  | false => rfl
  | true =>
      simp only [isLineTerminator, Bool.or_eq_true, decide_eq_true_eq] at hc
      rcases hc with ((rfl | rfl) | rfl) | rfl <;> cases h

/-- A word of letters is a piece of its own. -/
theorem scanPiece_word {text : String} (hne : text.toList ≠ [])
    (h : ∀ c ∈ text.toList, c.isAlpha = true) (free : wordKind text = .identifier)
    (x : ScanContext) {rest : List Char}
    (hrest : ∀ c, rest.head? = some c → isIdentifierPart c = false) :
    scanPiece x (text.toList ++ rest) =
      .ok (.token ⟨.identifier, text⟩, text.toList.length) := by
  have hword := scanWord_letters hne h free hrest
  have htext : String.ofList ((text.toList ++ rest).take text.toList.length) = text := by
    rw [List.take_left, String.ofList_toList]
  cases hcs : text.toList with
  | nil => exact absurd hcs hne
  | cons c cs =>
      have hletter : c.isAlpha = true := h c (by rw [hcs]; exact List.mem_cons_self)
      have hnot : c ≠ '/' ∧ c ≠ '<' ∧ c ≠ '-' := by
        refine ⟨?_, ?_, ?_⟩ <;> rintro rfl <;> cases hletter
      have hlexeme : scanLexeme x.braces (c :: (cs ++ rest)) =
          .ok ⟨.identifier, text.toList.length, .ofString text, false⟩ := by
        rw [scanLexeme, if_pos (isIdentifierStart_of_isAlpha hletter), ← List.cons_append, ← hcs,
          hword]
        rfl
      have hpiece := scanPiece_of_scanLexeme (isSpace_of_isAlpha hletter)
        (isLineTerminator_of_isAlpha hletter) hnot hlexeme
      rw [← List.cons_append, ← hcs, htext] at hpiece
      rw [← hcs, hpiece]

/-- A literal is a piece of its own, whatever stands behind it. -/
theorem scanPiece_literal (l : PlainLiteral) (x : ScanContext) (rest : List Char) :
    scanPiece x (l.source.toList ++ rest) = .ok (.token l.token, l.source.toList.length) := by
  have hchars : l.source.toList ++ rest =
      l.mark.char :: (l.text.toList ++ l.mark.char :: rest) := by
    rw [l.toList_source, List.cons_append, List.append_assoc, List.singleton_append]
  have hlength : l.source.toList.length = 1 + l.text.toList.length + 1 := by
    simp [l.toList_source, Nat.add_comm 1]
  obtain ⟨meaning, hquote⟩ := PlainLiteral.quoteFrom_plain l.plain 1 [] rest
  have hlexeme : scanLexeme x.braces (l.mark.char :: (l.text.toList ++ l.mark.char :: rest)) =
      .ok ⟨.string, 1 + l.text.toList.length + 1, meaning, false⟩ := by
    have hstart : ¬ isIdentifierStart l.mark.char = true := by cases l.mark <;> decide
    have hmark : l.mark.char = '\'' ∨ l.mark.char = '"' := by cases l.mark <;> decide
    rw [scanLexeme, if_neg hstart, if_pos hmark, scanQuote, hquote]
    rfl
  have hpiece := scanPiece_of_scanLexeme (by cases l.mark <;> decide) (by cases l.mark <;> decide)
    (by cases l.mark <;> decide) hlexeme
  rw [← hchars, ← hlength, List.take_left, String.ofList_toList] at hpiece
  exact hpiece

/-- The four punctuators are found in front of what is no point. -/
theorem scanPunctuator?_mark {text : String} (listed : text ∈ [".", "(", ")", ";"])
    {rest : List Char} (hrest : rest.head? ≠ some '.') :
    scanPunctuator? (text.toList ++ rest) = some text := by
  simp only [List.mem_cons, List.not_mem_nil, or_false] at listed
  rcases listed with rfl | rfl | rfl | rfl
  · cases rest with
    | nil => decide
    | cons c rest =>
        have hc : ('.' == c) = false := by
          rw [beq_eq_false_iff_ne]
          rintro rfl
          exact hrest rfl
        simp [scanPunctuator?, punctuators, List.isPrefixOf, hc]
  · rfl
  · rfl
  · rfl

/-- A punctuator of rendered sources is a piece of its own in front of what is neither a
point nor a digit. -/
theorem scanPiece_mark {text : String} (listed : text ∈ [".", "(", ")", ";"]) (x : ScanContext)
    {rest : List Char} (hrest : ∀ c, rest.head? = some c → c ≠ '.' ∧ isDecimalDigit c = false) :
    scanPiece x (text.toList ++ rest) =
      .ok (.token ⟨.punctuator, text⟩, text.toList.length) := by
  have hdigit : nextIs isDecimalDigit rest = false := by
    cases rest with
    | nil => rfl
    | cons c rest => exact (hrest c rfl).2
  have hfound := scanPunctuator?_mark listed fun hpoint => (hrest '.' hpoint).1 rfl
  obtain ⟨c, hc, htext⟩ : ∃ c ∈ ['.', '(', ')', ';'], text.toList = [c] := by
    simp only [List.mem_cons, List.not_mem_nil, or_false] at listed
    rcases listed with rfl | rfl | rfl | rfl <;> exact ⟨_, by decide, rfl⟩
  have hstart : ∀ c ∈ ['.', '(', ')', ';'], ¬ isIdentifierStart c = true :=
    List.all_iff_forall_prop.mp (by decide)
  have hopens : ∀ c ∈ ['.', '(', ')', ';'], ¬ (c = '\'' ∨ c = '"') ∧ isDecimalDigit c = false ∧
      c ≠ '\x60' ∧ c ≠ '\x7d' := List.all_iff_forall_prop.mp (by decide)
  have hblank : ∀ c ∈ ['.', '(', ')', ';'], isSpace c = false ∧ isLineTerminator c = false ∧
      c ≠ '/' ∧ c ≠ '<' ∧ c ≠ '-' := List.all_iff_forall_prop.mp (by decide)
  obtain ⟨hquote, hfirst, hgrave, hbrace⟩ := hopens c hc
  obtain ⟨hspace, hline, hnot⟩ := hblank c hc
  have hnumber : ¬ (isDecimalDigit c = true ∨ (c = '.' ∧ nextIs isDecimalDigit rest = true)) := by
    simp [hfirst, hdigit]
  have htemplate : ¬ (c = '\x60' ∨ (c = '\x7d' ∧ x.braces.head? = some .substitution)) := by
    simp [hgrave, hbrace]
  rw [htext] at hfound ⊢
  have hlexeme : scanLexeme x.braces (c :: rest) =
      .ok ⟨.punctuator, text.toList.length, .ofString text, false⟩ := by
    rw [scanLexeme, if_neg (hstart c hc), if_neg hquote, if_neg hnumber, if_neg htemplate]
    rw [← List.singleton_append, hfound]
  have hpiece := scanPiece_of_scanLexeme hspace hline hnot hlexeme
  rw [htext] at hpiece
  rw [List.singleton_append, hpiece, ← htext, ← List.singleton_append, ← htext, List.take_left,
    String.ofList_toList]

/-- A token of a rendered source is scanned at its own length in front of a text that does
not continue it. -/
theorem scanPiece_plain {t : Token} (h : t.Plain) (x : ScanContext) {rest : List Char}
    (hrest : t.EndsBefore rest) :
    scanPiece x (t.text.toList ++ rest) = .ok (.token t, t.text.toList.length) := by
  cases h with
  | word hne letters free =>
      refine scanPiece_word hne letters free x fun c hc => ?_
      simpa [Token.endsBefore] using hrest c hc
  | mark listed =>
      refine scanPiece_mark listed x fun c hc => ?_
      simpa [Token.endsBefore] using hrest c hc
  | literal l => exact scanPiece_literal l x rest

/-! ## Rendered tokens -/

/-- Tokens written out, with fillings before each and behind the last. -/
def render (gap : Nat → List Filling) : List Token → List Char
  | [] => gapChars (gap 0)
  | t :: ts => gapChars (gap 0) ++ (t.text.toList ++ render (fun n => gap (n + 1)) ts)

/-- Tokens of rendered sources of which each may stand directly behind the one before. -/
inductive Spaced : List Token → Prop where
  | nil : Spaced []
  | cons {t : Token} {ts : List Token} (plain : t.Plain)
      (ends : ∀ next, ts.head? = some next → t.EndsBefore next.text.toList) (rest : Spaced ts) :
      Spaced (t :: ts)

/-- The characters that a filling may begin with. -/
def fillingFronts : List Char := [' ', '\t', '\n', '\r', '\u2028', '\u2029', '/']

theorem head?_filling (f : Filling) : ∃ c ∈ fillingFronts, f.chars.head? = some c := by
  cases f with
  | space => exact ⟨' ', by decide, rfl⟩
  | tab => exact ⟨'\t', by decide, rfl⟩
  | lineBreak c ends =>
      refine ⟨c, ?_, rfl⟩
      simp only [isLineTerminator, Bool.or_eq_true, decide_eq_true_eq] at ends
      rcases ends with ((rfl | rfl) | rfl) | rfl <;> decide
  | block text unclosed => exact ⟨'/', by decide, rfl⟩
  | line text unbroken => exact ⟨'/', by decide, rfl⟩

/-- A filling continues no token. -/
theorem endsBefore_filling (t : Token) {c : Char} (hc : c ∈ fillingFronts) :
    t.endsBefore c = true := by
  have hends : ∀ c ∈ fillingFronts, isIdentifierPart c = false ∧ c ≠ '.' ∧
      isDecimalDigit c = false := List.all_iff_forall_prop.mp (by decide +kernel)
  obtain ⟨hpart, hpoint, hdigit⟩ := hends c hc
  unfold Token.endsBefore
  split
  · rw [hpart]
    rfl
  · rw [hdigit, bne_iff_ne.2 hpoint]
    rfl
  · rfl

/-- A token is not empty and begins with no line feed. -/
theorem Token.Plain.head {t : Token} (h : t.Plain) :
    ∃ c cs, t.text.toList = c :: cs ∧ c ≠ '\n' := by
  cases h with
  | @word text hne letters free =>
      cases hcs : text.toList with
      | nil => exact absurd hcs hne
      | cons c cs =>
          refine ⟨c, cs, rfl, ?_⟩
          rintro rfl
          cases letters '\n' (by rw [hcs]; exact List.mem_cons_self)
  | mark listed =>
      simp only [List.mem_cons, List.not_mem_nil, or_false] at listed
      rcases listed with rfl | rfl | rfl | rfl <;> exact ⟨_, _, rfl, by decide⟩
  | literal l =>
      exact ⟨_, _, l.toList_source, by cases l.mark <;> decide⟩

/-- A token ends where the rest is rendered, if it ends before the next one. -/
theorem endsBefore_render {t : Token} {ts : List Token} (hts : Spaced ts)
    (hnext : ∀ next, ts.head? = some next → t.EndsBefore next.text.toList)
    (gap : Nat → List Filling) : t.EndsBefore (render gap ts) := by
  intro c hc
  cases hgap : gap 0 with
  | cons f more =>
      obtain ⟨front, hfront, hhead⟩ := head?_filling f
      have hfirst : (render gap ts).head? = some front := by
        cases ts <;> simp [render, hgap, gapChars, hhead]
      rw [hfirst, Option.some.injEq] at hc
      exact hc ▸ endsBefore_filling t hfront
  | nil =>
      cases hts with
      | nil => simp [render, hgap, gapChars] at hc
      | @cons next later plain _ _ =>
          obtain ⟨d, ds, hchars, -⟩ := plain.head
          refine hnext next rfl c ?_
          simpa [render, hgap, gapChars, hchars] using hc

/-- The pieces of rendered tokens that are no trivia are the tokens. -/
theorem piecesFrom_render {ts : List Token} (h : Spaced ts) (gap : Nat → List Filling)
    (x : ScanContext) (offset : Nat) (done : List Piece) :
    ∃ ps, piecesFrom x 0 offset done (render gap ts) = .ok ps ∧
      ps.filterMap Piece.token? = (done.filterMap Piece.token?).reverse ++ ts := by
  induction h generalizing gap x offset done with
  | nil =>
      obtain ⟨x', offset', trivia, htrivia, heq⟩ :=
        piecesFrom_gap (gap 0) [] (by simp) x offset done
      rw [List.append_nil] at heq
      refine ⟨(trivia ++ done).reverse, ?_, ?_⟩
      · rw [render, heq, piecesFrom]
      · simp [List.filterMap_reverse, htrivia]
  | @cons t ts hplain hnext hts ih =>
      have hends := endsBefore_render hts hnext fun n => gap (n + 1)
      obtain ⟨c, cs, hchars, hfeed⟩ := hplain.head
      have hne : t.text.toList ≠ [] := by simp [hchars]
      obtain ⟨x', offset', trivia, htrivia, hgap⟩ :=
        piecesFrom_gap (gap 0) (t.text.toList ++ render (fun n => gap (n + 1)) ts)
          (by simpa [hchars] using hfeed) x offset done
      obtain ⟨ps, hps, htokens⟩ := ih (fun n => gap (n + 1)) (x'.push (.token t))
        (offset' + t.text.toList.length) (.token t :: (trivia ++ done))
      refine ⟨ps, ?_, ?_⟩
      · rw [render, hgap, piecesFrom_piece hne (scanPiece_plain hplain x' hends), hps]
      · simp [htokens, htrivia, Piece.token?]

/-- Scanning rendered tokens gives them back, whatever the fillings are. -/
theorem tokenize_render {ts : List Token} (h : Spaced ts) (gap : Nat → List Filling) :
    tokenize (.ofList (render gap ts)) = .ok ts := by
  obtain ⟨ps, hps, htokens⟩ := piecesFrom_render h gap .start 0 []
  rw [tokenize, pieces, String.toList_ofList, hps]
  exact congrArg Except.ok htokens

end GoogIndex.Script
