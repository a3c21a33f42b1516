/-
  Proofs/Script/Literals.lean --- the shape of a string literal.

  A string ends with the first quote of its kind that is not part of an escape.  Scanning
  passes over an escape at its full length, which may be several characters; none of those
  behind the first is a quote or a backslash, so nothing is missed if an escape is taken to
  be a backslash and the one character behind it (`Enclosed`).
-/
import GoogIndex.Script.Source

set_option autoImplicit false

namespace GoogIndex.Script

/-- The quote does not stand in the text, escapes left out, and the text ends with no escape that
is cut off: with a quote on both sides the text is one literal. -/
def Enclosed (quote : Char) : List Char → Prop
  | [] => True
  | ['\\'] => False
  | '\\' :: _ :: rest => Enclosed quote rest
  | c :: rest => c ≠ quote ∧ Enclosed quote rest

theorem enclosed_cons {quote c : Char} {rest : List Char} (h : c ≠ '\\') :
    Enclosed quote (c :: rest) ↔ c ≠ quote ∧ Enclosed quote rest := by
  rw [Enclosed]
  · rintro rfl
    exact absurd rfl h
  · rintro _ _ rfl
    exact absurd rfl h

/-! ## Escapes -/

/-- What stands in an escape behind its first character: neither a quote nor a backslash. -/
def isEscapeTail (c : Char) : Bool := c != '\\' && c != '\'' && c != '"'

theorem isEscapeTail_of_isHexDigit {c : Char} (h : isHexDigit c = true) :
    isEscapeTail c = true := by
  simp only [isEscapeTail, Bool.and_eq_true, bne_iff_ne, ne_eq]
  refine ⟨⟨?_, ?_⟩, ?_⟩ <;> · rintro rfl; exact absurd h (by decide)

theorem isEscapeTail_of_isOctalDigit {c : Char} (h : isOctalDigit c = true) :
    isEscapeTail c = true := by
  simp only [isEscapeTail, Bool.and_eq_true, bne_iff_ne, ne_eq]
  refine ⟨⟨?_, ?_⟩, ?_⟩ <;> · rintro rfl; exact absurd h (by decide)

/-- The text begins with a tail of this length. -/
def TailAt (length : Nat) (cs : List Char) : Prop :=
  ∃ tail rest, cs = tail ++ rest ∧ tail.length = length ∧ ∀ d ∈ tail, isEscapeTail d = true

theorem tailAt_zero (cs : List Char) : TailAt 0 cs := ⟨[], cs, rfl, rfl, by simp⟩

theorem TailAt.cons {length : Nat} {c : Char} {cs : List Char} (h : TailAt length cs)
    (hc : isEscapeTail c = true) : TailAt (length + 1) (c :: cs) := by
  obtain ⟨tail, rest, rfl, hlength, htail⟩ := h
  refine ⟨c :: tail, rest, rfl, ?_, List.forall_mem_cons.mpr ⟨hc, htail⟩⟩
  rw [List.length_cons, hlength]

theorem tailAt_of_prefix {tail cs : List Char} (h : tail <+: cs)
    (htail : ∀ d ∈ tail, isEscapeTail d = true) : TailAt tail.length cs := by
  obtain ⟨rest, rfl⟩ := h
  exact ⟨tail, rest, rfl, rfl, htail⟩

theorem tailAt_of_hexDigits {count code : Nat} {cs : List Char}
    (h : hexDigits? count cs = some code) : TailAt count cs := by
  simp only [hexDigits?] at h
  split at h
  · rename_i hdigits
    have htail := tailAt_of_prefix (List.take_prefix count cs) fun d hd =>
      isEscapeTail_of_isHexDigit (List.all_eq_true.mp hdigits.2 d hd)
    rwa [hdigits.1] at htail
  · cases h

theorem tailAt_of_bracedCode {code length : Nat} {cs : List Char}
    (h : bracedCode? cs = some (code, length)) : TailAt length cs := by
  have hdigits : ∀ d ∈ cs.takeWhile isHexDigit, isEscapeTail d = true := fun d hd =>
    isEscapeTail_of_isHexDigit (List.all_eq_true.mp List.all_takeWhile d hd)
  obtain ⟨rest, hrest⟩ := List.takeWhile_prefix (l := cs) isHexDigit
  simp only [bracedCode?] at h
  generalize cs.takeWhile isHexDigit = digits at h hdigits hrest
  subst hrest
  rw [List.drop_left] at h
  split at h
  · cases h
  · split at h
    · rename_i hclosed
      cases h
      obtain ⟨rest, rfl⟩ := List.head?_eq_some_iff.mp hclosed
      refine ⟨digits ++ ['\x7d'], rest, by simp, by simp, ?_⟩
      intro d hd
      rcases List.mem_append.mp hd with hdigit | hbrace
      · exact hdigits d hdigit
      · rw [List.mem_singleton.mp hbrace]
        decide
    · cases h

/-- What an escape with a number takes of the text behind its letter. -/
theorem tailAt_of_unicodeEscape {code length : Nat} {cs : List Char}
    (h : unicodeEscape cs = .plain code length ∨ unicodeEscape cs = .braced code length) :
    TailAt length cs := by
  unfold unicodeEscape at h
  split at h
  · split at h
    · rename_i hbraced
      rcases h with h | h
      · cases h
      · cases h
        exact (tailAt_of_bracedCode hbraced).cons (by decide)
    · rcases h with h | h <;> cases h
  · split at h
    · rename_i hdigits
      rcases h with h | h
      · cases h
        exact tailAt_of_hexDigits hdigits
      · cases h
    · rcases h with h | h <;> cases h

theorem tailAt_of_octalEscape {c : Char} (rest : List Char) (h : isOctalDigit c = true) :
    ∃ length, (octalEscape (c :: rest)).length = length + 1 ∧ TailAt length rest := by
  obtain ⟨most, hmost⟩ :
      ∃ most, (if nextIs (fun c => '0' ≤ c && c ≤ '3') (c :: rest) then 3 else 2) =
        most + 1 := by
    split
    · exact ⟨2, rfl⟩
    · exact ⟨1, rfl⟩
  refine ⟨((rest.take most).takeWhile isOctalDigit).length, ?_, ?_⟩
  · simp only [octalEscape, hmost, List.take_succ_cons, List.takeWhile_cons_of_pos h,
      List.length_cons]
  · refine tailAt_of_prefix ((List.takeWhile_prefix _).trans (List.take_prefix _ _)) fun d hd => ?_
    exact isEscapeTail_of_isOctalDigit (List.all_eq_true.mp List.all_takeWhile d hd)

/-- Behind its first character an escape goes on with a tail. -/
theorem tailAt_of_stringEscape {cs : List Char} {e : StringEscape} (h : stringEscape cs = .ok e) :
    ∃ c rest length, cs = c :: rest ∧ e.length = length + 1 ∧ TailAt length rest := by
  cases cs with
  | nil => cases h
  | cons c rest =>
      simp only [stringEscape] at h
      split at h
      · -- a line terminator; a carriage return takes its line feed along
        cases h
        by_cases hpair : c = '\r' ∧ rest.head? = some '\n'
        · obtain ⟨rest, rfl⟩ := List.head?_eq_some_iff.mp hpair.2
          refine ⟨c, _, 1, rfl, ?_, (tailAt_zero rest).cons (by decide)⟩
          rw [terminatorLength, if_pos hpair]
        · refine ⟨c, rest, 0, rfl, ?_, tailAt_zero rest⟩
          rw [terminatorLength, if_neg hpair]
      split at h
      · split at h
        · rename_i code length hcode
          cases h
          exact ⟨c, rest, length, rfl, rfl, tailAt_of_unicodeEscape (.inl hcode)⟩
        · rename_i code length hcode
          cases h
          exact ⟨c, rest, length, rfl, rfl, tailAt_of_unicodeEscape (.inr hcode)⟩
        · cases h
        · cases h
      split at h
      · split at h
        · rename_i code hcode
          cases h
          exact ⟨c, rest, 2, rfl, rfl, tailAt_of_hexDigits hcode⟩
        · cases h
      split at h
      · cases h
      split at h
      · rename_i hoctal
        cases h
        obtain ⟨length, hlength, htail⟩ := tailAt_of_octalEscape rest hoctal
        exact ⟨c, rest, length, rfl, hlength, htail⟩
      split at h
      · cases h
        exact ⟨c, rest, 0, rfl, rfl, tailAt_zero rest⟩
      · cases h
        exact ⟨c, rest, 0, rfl, rfl, tailAt_zero rest⟩

/-! ## Literals -/

/-- A tail in front of an enclosed text leaves it enclosed. -/
theorem enclosed_append {quote : Char} (hquote : quote = '\'' ∨ quote = '"') {tail body : List Char}
    (htail : ∀ d ∈ tail, isEscapeTail d = true) (h : Enclosed quote body) :
    Enclosed quote (tail ++ body) := by
  induction tail with
  | nil => exact h
  | cons d tail ih =>
      obtain ⟨hd, htail⟩ := List.forall_mem_cons.mp htail
      simp only [isEscapeTail, Bool.and_eq_true, bne_iff_ne, ne_eq] at hd
      refine (enclosed_cons hd.1.1).mpr ⟨?_, ih htail⟩
      rcases hquote with rfl | rfl
      · exact hd.1.2
      · exact hd.2

/-- A string is read up to the quote that encloses what stands in front of it. -/
theorem enclosed_of_quoteFrom {quote : Char} (hquote : quote = '\'' ∨ quote = '"')
    {skip n : Nat} {meant : List Nat} {octal : Bool} {cs : List Char} {q : QuoteLexeme}
    (h : quoteFrom quote skip n meant octal cs = .ok q) :
    ∃ body rest, cs.drop skip = body ++ quote :: rest ∧ q.length = n + skip + body.length + 1 ∧
      Enclosed quote body := by
  fun_induction quoteFrom quote skip n meant octal cs with
  | case1 => cases h
  | case2 skip n meant octal c rest ih =>
      obtain ⟨body, more, hcut, hlength, hbody⟩ := ih h
      refine ⟨body, more, hcut, ?_, hbody⟩
      omega
  | case3 n meant octal rest =>
      cases h
      exact ⟨[], rest, rfl, rfl, trivial⟩
  | case4 => cases h
  | case5 n meant octal rest e hescape _ ih =>
      obtain ⟨body, more, hcut, hlength, hbody⟩ := ih h
      obtain ⟨c, after, length, rfl, helength, tail, behind, rfl, rfl, htail⟩ :=
        tailAt_of_stringEscape hescape
      rw [helength, List.drop_succ_cons, List.drop_left] at hcut
      refine ⟨'\\' :: c :: (tail ++ body), more, ?_, ?_, ?_⟩
      · simp [hcut]
      · simp only [List.length_cons, List.length_append]
        omega
      · rw [Enclosed]
        exact enclosed_append hquote htail hbody
  | case6 => cases h
  | case7 n meant octal c rest hne hplain _ ih =>
      obtain ⟨body, more, hcut, hlength, hbody⟩ := ih h
      rw [List.drop_zero] at hcut
      refine ⟨c :: body, more, ?_, ?_, (enclosed_cons hplain).mpr ⟨hne, hbody⟩⟩
      · rw [List.drop_zero, hcut, List.cons_append]
      · rw [List.length_cons]
        omega

/-- What is scanned as a string: a text with the quote on both sides that encloses it. -/
theorem enclosed_of_scanQuote {quote : Char} (hquote : quote = '\'' ∨ quote = '"')
    {cs : List Char} {q : QuoteLexeme} (h : scanQuote (quote :: cs) = .ok q) :
    ∃ body rest, quote :: cs = quote :: (body ++ [quote]) ++ rest ∧
      q.length = (quote :: (body ++ [quote])).length ∧ Enclosed quote body := by
  obtain ⟨body, rest, hcut, hlength, hbody⟩ := enclosed_of_quoteFrom hquote h
  refine ⟨body, rest, ?_, ?_, hbody⟩
  · rw [List.drop_zero] at hcut
    simp [hcut]
  · simp only [List.length_cons, List.length_append, List.length_nil]
    omega

end GoogIndex.Script
