/-
  Proofs/Json/RoundTrip.lean --- what is written is read back.

  The reader is a machine that goes over the characters with a stack of open
  containers.  Every lemma here has one shape: from a state in which a part may begin,
  the machine passes over the written form of the part and stands behind it, with the
  part as its value and the stack as it was.  The text that follows is arbitrary as
  long as it cannot continue the part.

  Three things a value may hold are not read back: floating-point numbers are left out
  here, an integer may have too many digits, and the containers may be nested too deeply.
  `Plain` excludes them, and repeated keys.  Two halves of one surrogate pair that stand
  side by side are read back as the character that they make, and nothing else changes.
-/
import GoogIndex.Json.Reader
import GoogIndex.Proofs.Json.Printable

set_option autoImplicit false

namespace GoogIndex.Json

open GoogIndex.Text

variable {limit : Nat}

/-! ## Steps of the machine -/

/-- Characters that are accounted for are passed over. -/
theorem run_skip (m : Machine) (passed rest : List Char) (offset : Nat) :
    run limit m passed.length offset (passed ++ rest) =
      run limit m 0 (offset + passed.length) rest := by
  induction passed generalizing offset with
  | nil => rfl
  | cons c cs ih =>
      rw [List.length_cons, List.cons_append, run, ih]
      congr 1
      omega

/-- A blank is passed over. -/
theorem run_blank (m : Machine) (offset : Nat) (rest : List Char) :
    run limit m 0 offset (' ' :: rest) = run limit m 0 (offset + 1) rest := by
  simp [run, isSpace]

/-- A step that consumes the front of the text. -/
theorem run_of_step {m m' : Machine} {offset : Nat} {c : Char} (front : List Char)
    {rest : List Char} (hc : isSpace c = false)
    (hs : step limit m offset c (c :: (front ++ rest)) = .ok (m', front.length + 1)) :
    run limit m 0 offset (c :: (front ++ rest)) =
      run limit m' 0 (offset + 1 + front.length) rest := by
  rw [run]
  simp only [hc, Bool.false_eq_true, if_false, hs, Nat.add_sub_cancel]
  exact run_skip m' front rest (offset + 1)

/-- A step that consumes one character. -/
theorem run_of_step_one {m m' : Machine} {offset : Nat} {c : Char} {rest : List Char}
    (hc : isSpace c = false) (hs : step limit m offset c (c :: rest) = .ok (m', 1)) :
    run limit m 0 offset (c :: rest) = run limit m' 0 (offset + 1) rest :=
  run_of_step [] hc hs

/-! ## Texts -/

theorem hexValue?_hexDigit : ∀ d, d < 16 → hexValue? (hexDigit d) = some d := by
  decide

/-- Four hexadecimal digits spell the unit they were made from. -/
theorem unit?_hexDigits {n : Nat} (hn : n < 0x10000) :
    ∃ a b c d, hexDigits 4 n = [a, b, c, d] ∧ unit? a b c d = some n := by
  refine ⟨hexDigit (n / 16 / 16 / 16 % 16), hexDigit (n / 16 / 16 % 16), hexDigit (n / 16 % 16),
    hexDigit (n % 16), rfl, ?_⟩
  unfold unit?
  rw [hexValue?_hexDigit _ (Nat.mod_lt _ (by decide)),
    hexValue?_hexDigit _ (Nat.mod_lt _ (by decide)),
    hexValue?_hexDigit _ (Nat.mod_lt _ (by decide)),
    hexValue?_hexDigit _ (Nat.mod_lt _ (by decide))]
  show some _ = some n
  congr 1
  omega

/-- A character is no surrogate. -/
theorem not_surrogate (c : Char) : ¬ (0xD800 ≤ c.toNat ∧ c.toNat ≤ 0xDFFF) := by
  have h := c.valid
  simp only [UInt32.isValidChar, Nat.isValidChar] at h
  show ¬ (0xD800 ≤ c.val.toNat ∧ c.val.toNat ≤ 0xDFFF)
  omega

theorem toNat_lt (c : Char) : c.toNat < 0x110000 := by
  have h := c.valid
  simp only [UInt32.isValidChar, Nat.isValidChar] at h
  show c.val.toNat < 0x110000
  omega

theorem Point.ofNat_toNat (p : Point) : Point.ofNat p.toNat = p := by
  cases p with
  | char c =>
      have h := not_surrogate c
      rw [Point.toNat, Point.ofNat, dif_neg (by omega), Char.ofNat_toNat]
  | lone half =>
      have h := half.isLt
      rw [Point.toNat, Point.ofNat, dif_pos (by omega)]
      exact congrArg Point.lone (Fin.ext (Nat.add_sub_cancel_left 0xD800 half.val))

/-- An escaped unit that is no high surrogate is read as its code point. -/
theorem escape_unit (quoteOffset offset : Nat) {n : Nat} (hn : n < 0x10000)
    (hns : ¬ (0xD800 ≤ n ∧ n ≤ 0xDBFF)) (e : Char) (rest : List Char) :
    escape quoteOffset offset ('u' :: (hexDigits 4 n ++ e :: rest)) = .ok (.ofNat n, 5) := by
  obtain ⟨d₁, d₂, d₃, d₄, hd, hu⟩ := unit?_hexDigits hn
  rw [hd]
  simp only [List.cons_append, List.nil_append, escape, hu]
  rw [if_neg hns]

/-- An escaped high surrogate with no low one behind it is read as half of a pair. -/
theorem escape_high (quoteOffset offset : Nat) {n : Nat} (hhigh : 0xD800 ≤ n ∧ n ≤ 0xDBFF)
    {e : Char} {rest : List Char} (hlow : lowUnit n (e :: rest) = .separate) :
    escape quoteOffset offset ('u' :: (hexDigits 4 n ++ e :: rest)) = .ok (.ofNat n, 5) := by
  obtain ⟨d₁, d₂, d₃, d₄, hd, hu⟩ := unit?_hexDigits (Nat.lt_of_le_of_lt hhigh.2 (by decide))
  rw [hd]
  simp only [List.cons_append, List.nil_append, escape, hu]
  rw [if_pos hhigh, hlow]

/-- Two escaped surrogates are read as the character that they make. -/
theorem escape_pair (quoteOffset offset : Nat) {k : Nat} (hk : k < 0x100000) (e : Char)
    (rest : List Char) :
    escape quoteOffset offset
      ('u' :: (hexDigits 4 (0xD800 + k / 0x400) ++
        '\\' :: 'u' :: (hexDigits 4 (0xDC00 + k % 0x400) ++ e :: rest))) =
      .ok (Char.ofNat (0x10000 + k), 11) := by
  have hhigh : 0xD800 ≤ 0xD800 + k / 0x400 ∧ 0xD800 + k / 0x400 ≤ 0xDBFF := by omega
  have hlow : 0xDC00 ≤ 0xDC00 + k % 0x400 ∧ 0xDC00 + k % 0x400 ≤ 0xDFFF := by omega
  have hsum : 0x10000 + (0xD800 + k / 0x400 - 0xD800) * 0x400 + (0xDC00 + k % 0x400 - 0xDC00) =
      0x10000 + k := by omega
  obtain ⟨d₁, d₂, d₃, d₄, hd, hu⟩ := unit?_hexDigits (Nat.lt_of_le_of_lt hhigh.2 (by decide))
  obtain ⟨g₁, g₂, g₃, g₄, hg, hv⟩ := unit?_hexDigits (Nat.lt_of_le_of_lt hlow.2 (by decide))
  rw [hd, hg]
  simp only [List.cons_append, List.nil_append, escape, hu]
  rw [if_pos hhigh]
  simp only [lowUnit, hv]
  rw [if_pos hlow, hsum]

/-- An escaped unit that is no low surrogate makes no pair with one before it. -/
theorem lowUnit_unitEscape (high : Nat) {n : Nat} (hn : n < 0x10000)
    (hlow : ¬ (0xDC00 ≤ n ∧ n ≤ 0xDFFF)) (rest : List Char) :
    lowUnit high (unitEscape n ++ rest) = .separate := by
  obtain ⟨d₁, d₂, d₃, d₄, hd, hu⟩ := unit?_hexDigits hn
  rw [unitEscape, hd]
  cases rest with
  | nil => rfl
  | cons e rest =>
      simp only [List.cons_append, List.nil_append, lowUnit, hu]
      rw [if_neg hlow]

theorem lowUnit_of_ne (high : Nat) {c : Char} (hc : c ≠ '\\') (rest : List Char) :
    lowUnit high (c :: rest) = .separate := by
  unfold lowUnit
  split
  · rename_i heq
    exact absurd (List.cons.inj heq).1 hc
  · rfl

theorem lowUnit_of_letter_ne (high : Nat) {letter : Char} (h : letter ≠ 'u') (rest : List Char) :
    lowUnit high ('\\' :: letter :: rest) = .separate := by
  unfold lowUnit
  split
  · rename_i heq
    exact absurd (List.cons.inj (List.cons.inj heq).2).1 h
  · rfl

/-- The written form of a code point that is no low half makes no pair with what is before it. -/
theorem lowUnit_escapePoint (high : Nat) {p : Point} (hp : p.isLow = false) (rest : List Char) :
    lowUnit high (escapePoint p ++ rest) = .separate := by
  cases p with
  | lone half =>
      have hhalf := half.isLt
      have hlow : ¬ (0xDC00 ≤ (Point.lone half).toNat ∧ (Point.lone half).toNat ≤ 0xDFFF) := by
        simpa [Point.isLow] using hp
      exact lowUnit_unitEscape high (by rw [Point.toNat]; omega) hlow rest
  | char c =>
      have h := escapedAs_escapeChar c
      rw [escapePoint]
      generalize escapeChar c = cs at h ⊢
      cases h with
      | short listed =>
          have hletter : ∀ pair ∈ shortEscapes, pair.1 ≠ 'u' := by decide
          exact lowUnit_of_letter_ne high (hletter _ listed) rest
      | itself _ _ ne_escape => exact lowUnit_of_ne high ne_escape rest
      | unit small =>
          have := not_surrogate c
          exact lowUnit_unitEscape high small (by omega) rest
      | pair large =>
          have := toNat_lt c
          rw [List.append_assoc]
          exact lowUnit_unitEscape high (by omega) (by omega) _

/-- Characters of an escape are passed over. -/
theorem textFrom_skip (quoteOffset offset : Nat) (done : List Point) (passed rest : List Char) :
    textFrom quoteOffset passed.length offset done (passed ++ rest) =
      textFrom quoteOffset 0 (offset + passed.length) done rest := by
  induction passed generalizing offset with
  | nil => rfl
  | cons c cs ih =>
      rw [List.length_cons, List.cons_append, textFrom, ih]
      congr 1
      omega

/-- The reader passes over an escape as a whole. -/
theorem textFrom_escape {quoteOffset offset : Nat} (done : List Point) (front : List Char)
    {rest : List Char} {p : Point}
    (h : escape quoteOffset offset (front ++ rest) = .ok (p, front.length)) :
    textFrom quoteOffset 0 offset done ('\\' :: (front ++ rest)) =
      textFrom quoteOffset 0 (offset + ('\\' :: front).length) (p :: done) rest := by
  rw [textFrom]
  simp only [h, Char.reduceEq, if_false, if_true]
  rw [textFrom_skip, List.length_cons]
  congr 1
  omega

theorem textFrom_unitEscape {quoteOffset offset : Nat} (done : List Point) {p : Point} {e : Char}
    {rest : List Char}
    (h : escape quoteOffset offset ('u' :: (hexDigits 4 p.toNat ++ e :: rest)) = .ok (p, 5)) :
    textFrom quoteOffset 0 offset done (unitEscape p.toNat ++ e :: rest) =
      textFrom quoteOffset 0 (offset + (unitEscape p.toNat).length) (p :: done) (e :: rest) :=
  textFrom_escape done ('u' :: hexDigits 4 p.toNat) (by simpa using h)

/-- The escapes of two halves of one pair are read as the character that they make. -/
theorem textFrom_pair (quoteOffset offset : Nat) (done : List Point) {k : Nat} (hk : k < 0x100000)
    (e : Char) (rest : List Char) :
    textFrom quoteOffset 0 offset done
        (unitEscape (0xD800 + k / 0x400) ++ (unitEscape (0xDC00 + k % 0x400) ++ e :: rest)) =
      textFrom quoteOffset 0
        (offset + (unitEscape (0xD800 + k / 0x400) ++ unitEscape (0xDC00 + k % 0x400)).length)
        (.char (Char.ofNat (0x10000 + k)) :: done) (e :: rest) := by
  have hread := escape_pair quoteOffset offset hk e rest
  have htext := textFrom_escape done ('u' :: (hexDigits 4 (0xD800 + k / 0x400) ++
    '\\' :: 'u' :: hexDigits 4 (0xDC00 + k % 0x400))) (by simpa using hread)
  simpa [unitEscape] using htext

/-- The written form of a character inside a text is read as the character. -/
theorem textFrom_escapeChar (quoteOffset offset : Nat) (done : List Point) (c e : Char)
    (rest : List Char) :
    textFrom quoteOffset 0 offset done (escapeChar c ++ e :: rest) =
      textFrom quoteOffset 0 (offset + (escapeChar c).length) (.char c :: done) (e :: rest) := by
  have h := escapedAs_escapeChar c
  generalize escapeChar c = cs at h ⊢
  cases h with
  | @short letter listed =>
      have hread : escape quoteOffset offset ([letter] ++ e :: rest) = .ok (.char c, 1) := by
        simp only [shortEscapes, List.mem_cons, Prod.mk.injEq, List.not_mem_nil, or_false] at listed
        rcases listed with ⟨rfl, rfl⟩ | ⟨rfl, rfl⟩ | ⟨rfl, rfl⟩ | ⟨rfl, rfl⟩ | ⟨rfl, rfl⟩ |
          ⟨rfl, rfl⟩ | ⟨rfl, rfl⟩ <;> rfl
      exact textFrom_escape done [letter] hread
  | itself printable ne_quote ne_escape =>
      have hvisible : ¬ c.toNat < 0x20 := Nat.not_lt.mpr printable.1
      simp only [List.cons_append, List.nil_append, textFrom, ne_quote, ne_escape, hvisible,
        if_false]
      rfl
  | unit small =>
      have hhigh : ¬ (0xD800 ≤ c.toNat ∧ c.toNat ≤ 0xDBFF) := by
        have := not_surrogate c
        omega
      have hread := escape_unit quoteOffset offset small hhigh e rest
      rw [show Point.ofNat c.toNat = .char c from Point.ofNat_toNat (.char c)] at hread
      exact textFrom_unitEscape (p := .char c) done hread
  | pair large =>
      have hlt := toNat_lt c
      have hcode : 0x10000 + (c.toNat - 0x10000) = c.toNat := by omega
      have htext := textFrom_pair quoteOffset offset done (k := c.toNat - 0x10000) (by omega) e rest
      rwa [hcode, Char.ofNat_toNat, ← List.append_assoc] at htext

/-- The written form of a code point inside a text is read as the code point, if what follows
makes no pair with it. -/
theorem textFrom_escapePoint (quoteOffset offset : Nat) (done : List Point) (p : Point) {e : Char}
    {rest : List Char}
    (hnext : p.isHigh = true → lowUnit p.toNat (e :: rest) = .separate) :
    textFrom quoteOffset 0 offset done (escapePoint p ++ e :: rest) =
      textFrom quoteOffset 0 (offset + (escapePoint p).length) (p :: done) (e :: rest) := by
  cases p with
  | char c => exact textFrom_escapeChar quoteOffset offset done c e rest
  | lone half =>
      have hhalf := half.isLt
      refine textFrom_unitEscape done ?_
      by_cases hhigh : 0xD800 ≤ (Point.lone half).toNat ∧ (Point.lone half).toNat ≤ 0xDBFF
      · have hread := escape_high quoteOffset offset hhigh (hnext (by simpa [Point.isHigh]))
        rwa [Point.ofNat_toNat] at hread
      · have hread := escape_unit quoteOffset offset (n := (Point.lone half).toNat)
          (by rw [Point.toNat]; omega) hhigh e rest
        rwa [Point.ofNat_toNat] at hread

/-- Code points in which two halves of one pair that stand side by side are one character. -/
def joinHalves : List Point → List Point
  | p :: q :: rest =>
      if p.Pairs q then
        .char (Char.ofNat (0x10000 + ((p.toNat - 0xD800) * 0x400 + (q.toNat - 0xDC00)))) ::
          joinHalves rest
      else p :: joinHalves (q :: rest)
  | ps => ps

/-- The text that is read where a text was written. -/
def joinText (s : Text) : Text := .ofList (joinHalves s.toList)

/-- Two halves of one pair have the numbers that the character is written with. -/
theorem eq_halves_of_pairs {p q : Point} (h : p.Pairs q) :
    ∃ k < 0x100000, (p.toNat - 0xD800) * 0x400 + (q.toNat - 0xDC00) = k ∧
      escapePoint p = unitEscape (0xD800 + k / 0x400) ∧
      escapePoint q = unitEscape (0xDC00 + k % 0x400) := by
  obtain ⟨hhigh, hlow⟩ := h
  simp only [Point.isHigh, Point.isLow, Bool.and_eq_true, decide_eq_true_eq] at hhigh hlow
  have hlone : ∀ r : Point, 0xD800 ≤ r.toNat ∧ r.toNat ≤ 0xDFFF →
      escapePoint r = unitEscape r.toNat := by
    rintro (c | half) hr
    · exact absurd hr (not_surrogate c)
    · rfl
  refine ⟨_, by omega, rfl, ?_, ?_⟩
  · exact (hlone p (by omega)).trans (congrArg unitEscape (by omega))
  · exact (hlone q (by omega)).trans (congrArg unitEscape (by omega))

/-- The inside of a written text is read back up to its closing quote, with its halves joined. -/
theorem textFrom_escapePoints (quoteOffset offset : Nat) (done ps : List Point)
    (rest : List Char) :
    textFrom quoteOffset 0 offset done (ps.flatMap escapePoint ++ '"' :: rest) =
      .ok (.ofList (done.reverse ++ joinHalves ps),
        offset + (ps.flatMap escapePoint).length + 1) := by
  fun_induction joinHalves ps generalizing offset done with
  | case1 p q ps hpairs ih =>
      obtain ⟨k, hk, hcode, hp, hq⟩ := eq_halves_of_pairs hpairs
      obtain ⟨e, tail, he⟩ := List.exists_cons_of_ne_nil
        (l := ps.flatMap escapePoint ++ '"' :: rest) (by simp)
      rw [List.flatMap_cons, List.flatMap_cons, List.append_assoc, List.append_assoc, he, hp, hq,
        hcode, textFrom_pair _ _ _ hk, ← he, ih]
      simp only [List.reverse_cons, List.append_assoc, List.singleton_append, List.length_append,
        Nat.add_assoc]
  | case2 p q ps hpairs ih =>
      have hq : p.isHigh = true → q.isLow = false := fun hhigh =>
        Bool.eq_false_iff.mpr fun hlow => hpairs ⟨hhigh, hlow⟩
      obtain ⟨e, tail, he⟩ := List.exists_cons_of_ne_nil
        (l := (q :: ps).flatMap escapePoint ++ '"' :: rest) (by simp)
      have hseparate : p.isHigh = true → lowUnit p.toNat (e :: tail) = .separate := by
        intro hhigh
        rw [← he, List.flatMap_cons, List.append_assoc]
        exact lowUnit_escapePoint _ (hq hhigh) _
      rw [List.flatMap_cons, List.append_assoc, he, textFrom_escapePoint _ _ _ _ hseparate, ← he,
        ih]
      simp only [List.reverse_cons, List.append_assoc, List.singleton_append, List.length_append]
      congr 2
      omega
  | case3 ps hps =>
      -- at most one code point, and behind it comes the quote
      match ps, hps with
      | [], _ => simp [textFrom]
      | [p], _ =>
          have hquote := lowUnit_of_ne p.toNat (c := '"') (by decide) rest
          rw [List.flatMap_singleton, textFrom_escapePoint _ _ _ _ fun _ => hquote]
          simp [textFrom]
      | p :: q :: more, hps => exact absurd rfl (hps p q more)

/-- The inside of a text, with its quotes, is read as the text with its halves joined. -/
theorem textFrom_stringText (offset : Nat) (s : Text) (rest : List Char) :
    textFrom offset 0 (offset + 1) [] (s.toList.flatMap escapePoint ++ '"' :: rest) =
      .ok (joinText s, offset + 1 + (s.toList.flatMap escapePoint).length + 1) := by
  rw [textFrom_escapePoints, List.reverse_nil, List.nil_append, joinText]

/-! ## Numbers -/

/-- Only zero is written with a zero in front. -/
theorem eq_zero_of_head?_toDigits {n : Nat} (h : (Nat.toDigits 10 n).head? = some '0') : n = 0 := by
  induction n using Nat.strongRecOn with
  | ind n ih =>
      by_cases hn : n < 10
      · rw [Nat.toDigits_of_lt_base hn] at h
        have hdigit : ∀ k, k < 10 → [Nat.digitChar k].head? = some '0' → k = 0 := by decide
        exact hdigit n hn h
      · rw [Nat.toDigits_of_base_le (by decide) (Nat.le_of_not_lt hn), List.head?_append] at h
        cases hfront : (Nat.toDigits 10 (n / 10)).head? with
        | none => exact absurd (List.head?_eq_none_iff.mp hfront) Nat.toDigits_ne_nil
        | some d =>
            rw [hfront] at h
            have hd : d = '0' := by simpa using h
            have := ih (n / 10) (by omega) (by rw [hfront, hd])
            omega

/-- A text that cannot continue a value: it is empty or starts with what ends one. -/
def Delimited : List Char → Prop
  | [] => True
  | c :: _ => c = ',' ∨ c = ']' ∨ c = '\x7d'

theorem digitsOf_of_delimited {rest : List Char} (h : Delimited rest) : digitsOf rest = [] := by
  cases rest with
  | nil => rfl
  | cons c cs => rcases h with rfl | rfl | rfl <;> rfl

theorem exponentOf_of_delimited {rest : List Char} (h : Delimited rest) :
    exponentOf rest = none := by
  cases rest with
  | nil => rfl
  | cons c cs => rcases h with rfl | rfl | rfl <;> rfl

/-- The digits of a decimal end where the decimal ends. -/
theorem digitsOf_toDigits (n : Nat) {rest : List Char} (h : Delimited rest) :
    digitsOf (Nat.toDigits 10 n ++ rest) = Nat.toDigits 10 n := by
  unfold digitsOf
  have hrest : List.takeWhile Char.isDigit rest = [] := digitsOf_of_delimited h
  rw [List.takeWhile_append_of_pos
    (fun c hc => Nat.isDigit_of_mem_toDigits (by decide) (by decide) hc), hrest, List.append_nil]

/-- All digits of a decimal count: a zero in front stands alone. -/
theorem whole_toDigits (n : Nat) :
    (if (Nat.toDigits 10 n).head? = some '0' then ['0'] else Nat.toDigits 10 n) =
      Nat.toDigits 10 n := by
  by_cases h : (Nat.toDigits 10 n).head? = some '0'
  · rw [if_pos h, eq_zero_of_head?_toDigits h]
    rfl
  · rw [if_neg h]

/-- A decimal starts with a digit. -/
theorem toDigits_eq_cons (n : Nat) :
    ∃ d ds, Nat.toDigits 10 n = d :: ds ∧ d.isDigit = true := by
  cases h : Nat.toDigits 10 n with
  | nil => exact absurd h Nat.toDigits_ne_nil
  | cons d ds =>
      refine ⟨d, ds, rfl, Nat.isDigit_of_mem_toDigits (b := 10) (n := n) (by decide) (by decide) ?_⟩
      rw [h]
      exact List.mem_cons_self

/-- The decimal of an integer is read as the sign and the digits that it has. -/
theorem numberOf_intText (n : Int) {rest : List Char} (h : Delimited rest) :
    numberOf (intText n ++ rest) =
      some ⟨decide (n < 0), Nat.toDigits 10 n.natAbs, [], none, (intText n).length⟩ := by
  have hne : Nat.toDigits 10 n.natAbs ≠ [] := Nat.toDigits_ne_nil
  have hdigits := digitsOf_toDigits n.natAbs h
  have hwhole := whole_toDigits n.natAbs
  have hexponent := exponentOf_of_delimited h
  by_cases hn : n < 0
  · simp only [intText, hn, if_true, List.cons_append, numberOf, hdigits, hwhole]
    cases rest with
    | nil => simp [hne, exponentOf, Nat.add_comm]
    | cons c cs => rcases h with rfl | rfl | rfl <;> simp [hne, hexponent, Nat.add_comm]
  · simp only [intText, hn, if_false, numberOf]
    split
    · rename_i body heq
      obtain ⟨d, ds, hd, hdigit⟩ := toDigits_eq_cons n.natAbs
      rw [hd, List.cons_append] at heq
      obtain ⟨rfl, _⟩ := List.cons.inj heq
      exact absurd hdigit (by decide)
    · simp only [hdigits, hwhole]
      cases rest with
      | nil => simp [hne, exponentOf]
      | cons c cs => rcases h with rfl | rfl | rfl <;> simp [hne, hexponent]

/-- The text of an integer starts with a digit, or with a sign and a digit. -/
theorem intText_eq_cons (n : Int) :
    ∃ d ds, d.isDigit = true ∧ (intText n = d :: ds ∨ intText n = '-' :: d :: ds) := by
  obtain ⟨d, ds, hd, hdigit⟩ := toDigits_eq_cons n.natAbs
  refine ⟨d, ds, hdigit, ?_⟩
  unfold intText
  by_cases hn : n < 0
  · exact .inr (by rw [if_pos hn, hd])
  · exact .inl (by rw [if_neg hn, hd])

/-- A value that starts with no quote and no bracket, and is no constant, is a number. -/
theorem beginValue_of_number (stack : List Frame) (offset : Nat) {c : Char} {cs : List Char}
    {parts : NumberParts} {v : Json} (hc : c ≠ '"' ∧ c ≠ '[' ∧ c ≠ '\x7b')
    (hconstants : constants.find? (fun k => k.1.isPrefixOf (c :: cs)) = none)
    (hparts : numberOf (c :: cs) = some parts) (hvalue : parts.value = .ok v) :
    beginValue limit stack offset (c :: cs) = .ok (⟨.done v, stack⟩, parts.length) := by
  unfold beginValue
  split
  · rename_i heq
    exact absurd (List.cons.inj heq).1 hc.1
  · rename_i heq
    exact absurd (List.cons.inj heq).1 hc.2.1
  · rename_i heq
    exact absurd (List.cons.inj heq).1 hc.2.2
  · simp only [hconstants, hparts, hvalue]
    rfl

theorem ne_of_isDigit {c d : Char} (hd : d.isDigit = true) (hc : c.isDigit = false) : d ≠ c := by
  rintro rfl
  rw [hd] at hc
  exact absurd hc (by decide)

/-- An integer with few enough digits is read back. -/
theorem beginValue_intText (stack : List Frame) (offset : Nat) {n : Int}
    (hn : (Nat.toDigits 10 n.natAbs).length ≤ digitLimit) {rest : List Char} (h : Delimited rest) :
    beginValue limit stack offset (intText n ++ rest) =
      .ok (⟨.done (.int n), stack⟩, (intText n).length) := by
  have hparts := numberOf_intText n h
  have hvalue : NumberParts.value
      ⟨decide (n < 0), Nat.toDigits 10 n.natAbs, [], none, (intText n).length⟩ = .ok (.int n) := by
    have hint : (if n < 0 then -(n.natAbs : Int) else n.natAbs) = n := by omega
    simp only [NumberParts.value, Nat.not_lt.mpr hn, if_false, natOf,
      Nat.ofDigitChars_ten_toDigits, decide_eq_true_eq, hint]
  obtain ⟨d, ds, hd, hcons⟩ := intText_eq_cons n
  have hne : ∀ c : Char, c.isDigit = false → d ≠ c := fun c hc => ne_of_isDigit hd hc
  rcases hcons with hcons | hcons
  · rw [hcons, List.cons_append] at hparts ⊢
    rw [← hcons] at hparts
    rw [beginValue_of_number stack offset ⟨hne _ rfl, hne _ rfl, hne _ rfl⟩ ?_ hparts hvalue, hcons]
    simp [constants, List.isPrefixOf, (hne 'n' rfl).symm, (hne 't' rfl).symm, (hne 'f' rfl).symm,
      (hne 'N' rfl).symm, (hne 'I' rfl).symm, (hne '-' rfl).symm]
  · rw [hcons, List.cons_append, List.cons_append] at hparts ⊢
    rw [← hcons] at hparts
    rw [beginValue_of_number stack offset (by decide) ?_ hparts hvalue, hcons]
    simp [constants, List.isPrefixOf, (hne 'I' rfl).symm]

/-! ## Values -/

mutual
/-- The value that is read where a value was written. -/
def joined : Json → Json
  | .str s => .str (joinText s)
  | .arr items => .arr (joinedItems items)
  | .obj members => .obj (joinedMembers members)
  | .null => .null
  | .bool b => .bool b
  | .int n => .int n
  | .real x => .real x

/-- The items, each as it is read. -/
def joinedItems : List Json → List Json
  | [] => []
  | v :: rest => v.joined :: joinedItems rest

/-- The members, each with its key and its value as they are read. -/
def joinedMembers : List (Text × Json) → List (Text × Json)
  | [] => []
  | (k, v) :: rest => (joinText k, v.joined) :: joinedMembers rest
end

mutual
/-- A value that can be read back, inside so much room for containers. -/
def Plain : Nat → Json → Prop
  | _, .null => True
  | _, .bool _ => True
  | _, .int n => (Nat.toDigits 10 n.natAbs).length ≤ digitLimit
  | _, .real _ => False
  | _, .str _ => True
  | 0, .arr _ => False
  | room + 1, .arr items => PlainItems room items
  | 0, .obj _ => False
  | room + 1, .obj members =>
      ((joinedMembers members).map (·.1)).Nodup ∧ PlainMembers room members

/-- All items are plain. -/
def PlainItems : Nat → List Json → Prop
  | _, [] => True
  | room, v :: rest => Plain room v ∧ PlainItems room rest

/-- The values of all members are plain. -/
def PlainMembers : Nat → List (Text × Json) → Prop
  | _, [] => True
  | room, (_, v) :: rest => Plain room v ∧ PlainMembers room rest
end

/-- A machine that may begin a value inside these containers. -/
def Machine.Begins (m : Machine) (stack : List Frame) : Prop :=
  m = ⟨.value, stack⟩ ∨ m = ⟨.firstItem, stack⟩

theorem step_of_begins {m : Machine} {stack : List Frame} (hm : m.Begins stack) (offset : Nat)
    {c : Char} (hc : c ≠ ']') (cs : List Char) :
    step limit m offset c cs = beginValue limit stack offset cs := by
  rcases hm with rfl | rfl
  · rfl
  · simp only [step]
    split
    · exact absurd rfl hc
    · rfl

/-- A machine that may begin a key of an object with these members. -/
def Machine.BeginsKey (m : Machine) (members : List (Text × Json)) (stack : List Frame) : Prop :=
  m = ⟨.key members, stack⟩ ∨ members = [] ∧ m = ⟨.firstKey, stack⟩

theorem step_of_beginsKey {m : Machine} {members : List (Text × Json)} {stack : List Frame}
    (hm : m.BeginsKey members stack) (offset : Nat) {c : Char} (hc : c ≠ '\x7d') (cs : List Char) :
    step limit m offset c cs = beginKey members stack offset cs := by
  rcases hm with rfl | ⟨rfl, rfl⟩
  · rfl
  · simp [step, hc]

/-- A text is passed over by a machine that reads one next, as a value or as a key. -/
theorem run_stringText {m : Machine} (next : Text → Machine)
    (hm : ∀ offset cs, step limit m offset '"' ('"' :: cs) = (do
      let (s, stop) ← textFrom offset 0 (offset + 1) [] cs
      return (next s, stop - offset)))
    (offset : Nat) (s : Text) (rest : List Char) :
    ∃ stop, run limit m 0 offset (stringText s ++ rest) =
      run limit (next (joinText s)) 0 stop rest := by
  have htext := textFrom_stringText offset s rest
  have hfront : stringText s ++ rest =
      '"' :: ((s.toList.flatMap escapePoint ++ ['"']) ++ rest) := by simp [stringText]
  rw [hfront]
  refine ⟨_, run_of_step _ rfl ?_⟩
  rw [hm, List.append_assoc, List.singleton_append, htext]
  show Except.ok _ = Except.ok _
  simp only [List.length_append, List.length_singleton]
  congr 2
  omega

/-- An integer is passed over. -/
theorem run_intText {m : Machine} {stack : List Frame} (hm : m.Begins stack) (offset : Nat)
    {n : Int}
    (hn : (Nat.toDigits 10 n.natAbs).length ≤ digitLimit) {rest : List Char} (h : Delimited rest) :
    ∃ stop, run limit m 0 offset (intText n ++ rest) =
      run limit ⟨.done (.int n), stack⟩ 0 stop rest := by
  have hbegin : beginValue limit stack offset _ = _ := beginValue_intText stack offset hn h
  obtain ⟨d, ds, hd, hcons⟩ := intText_eq_cons n
  have hfirst : ∃ c cs, intText n = c :: cs ∧ isSpace c = false ∧ c ≠ ']' := by
    rcases hcons with hcons | hcons
    · refine ⟨d, ds, hcons, ?_, ne_of_isDigit hd rfl⟩
      simp [isSpace, ne_of_isDigit hd (c := ' ') rfl, ne_of_isDigit hd (c := '\t') rfl,
        ne_of_isDigit hd (c := '\n') rfl, ne_of_isDigit hd (c := '\r') rfl]
    · exact ⟨'-', d :: ds, hcons, by decide, by decide⟩
  obtain ⟨c, cs, hcs, hspace, hclose⟩ := hfirst
  rw [hcs, List.cons_append] at hbegin ⊢
  refine ⟨_, run_of_step cs hspace ?_⟩
  rw [step_of_begins hm offset hclose, hbegin, List.length_cons]

/-- A word that stands for a constant is passed over. -/
theorem run_constant {m : Machine} {stack : List Frame} (hm : m.Begins stack) (offset : Nat)
    {c : Char} {cs : List Char} {v : Json} (rest : List Char) (hspace : isSpace c = false)
    (hc : c ≠ ']')
    (hv :
      beginValue limit stack offset (c :: (cs ++ rest)) = .ok (⟨.done v, stack⟩, cs.length + 1)) :
    ∃ stop, run limit m 0 offset (c :: cs ++ rest) = run limit ⟨.done v, stack⟩ 0 stop rest :=
  ⟨_, run_of_step cs hspace (by rw [step_of_begins hm offset hc, hv])⟩

/-- Where a list goes on or ends after an item. -/
theorem delimited_comma (rest : List Char) : Delimited (',' :: rest) := .inl rfl

theorem delimited_bracket (rest : List Char) : Delimited (']' :: rest) := .inr (.inl rfl)

theorem delimited_brace (rest : List Char) : Delimited ('\x7d' :: rest) := .inr (.inr rfl)

/-- A key and its colon are passed over. -/
theorem run_key {m : Machine} {members : List (Text × Json)} {stack : List Frame}
    (hm : m.BeginsKey members stack) (offset : Nat) (key : Text) (rest : List Char) :
    ∃ stop, run limit m 0 offset (stringText key ++ ':' :: ' ' :: rest) =
      run limit ⟨.value, .object members (joinText key) :: stack⟩ 0 stop rest := by
  have hquote (offset : Nat) (cs : List Char) :
      step limit m offset '"' cs = beginKey members stack offset cs :=
    step_of_beginsKey hm offset (by decide) cs
  obtain ⟨stop, hrun⟩ := run_stringText (fun s => ⟨.colon members s, stack⟩)
    (fun offset cs => by rw [hquote]; rfl) offset key (':' :: ' ' :: rest)
  refine ⟨stop + 1 + 1, ?_⟩
  rw [hrun, run_of_step_one (by decide) rfl, run_blank]

/-- A new key is put at the end. -/
theorem putMember_of_not_mem {key : Text} (value : Json) {members : List (Text × Json)}
    (h : key ∉ members.map (·.1)) : putMember key value members = members ++ [(key, value)] := by
  induction members with
  | nil => rfl
  | cons m rest ih =>
      rw [List.map_cons, List.mem_cons, not_or] at h
      simp only [putMember, Ne.symm h.1, if_false, ih h.2, List.cons_append]

theorem foldl_putMember_of_nodup {done members : List (Text × Json)}
    (h : ((done ++ members).map (·.1)).Nodup) :
    members.foldl (fun done m => putMember m.1 m.2 done) done = done ++ members := by
  induction members generalizing done with
  | nil => simp
  | cons m rest ih =>
      have hnew : m.1 ∉ done.map (·.1) := by
        intro hmem
        rw [List.map_append, List.nodup_append] at h
        exact h.2.2 m.1 hmem m.1 (by simp) rfl
      rw [List.foldl_cons, putMember_of_not_mem m.2 hnew, ih (by simpa using h)]
      simp

/-- Members with different keys make up the object that they are listed in. -/
theorem ofMembers_of_nodup {members : List (Text × Json)} (h : (members.map (·.1)).Nodup) :
    ofMembers members = .obj members := by
  rw [ofMembers, foldl_putMember_of_nodup (by simpa using h), List.nil_append]

mutual
/-- The written form of a value is passed over, and the value, with its halves joined, stands
behind it. -/
theorem run_writeChars (v : Json) {room : Nat} (hv : Plain room v) {m : Machine}
    {stack : List Frame} (hm : m.Begins stack) (hroom : room + stack.length ≤ limit)
    (offset : Nat) {rest : List Char} (hrest : Delimited rest) :
    ∃ stop, run limit m 0 offset (writeChars v ++ rest) =
      run limit ⟨.done v.joined, stack⟩ 0 stop rest := by
  match v, room, hv with
  | .null, _, _ => exact run_constant hm offset rest (by decide) (by decide) rfl
  | .bool true, _, _ => exact run_constant hm offset rest (by decide) (by decide) rfl
  | .bool false, _, _ => exact run_constant hm offset rest (by decide) (by decide) rfl
  | .int n, _, hn =>
      simp only [Plain] at hn
      rw [joined]
      exact run_intText hm offset hn hrest
  | .real x, _, hreal => simp [Plain] at hreal
  | .str s, _, _ =>
      rw [joined]
      exact run_stringText (fun s => ⟨.done (.str s), stack⟩)
        (fun offset cs => by rw [step_of_begins hm offset (by decide)]; rfl) offset s rest
  | .arr _, 0, harr => simp [Plain] at harr
  | .arr items, room + 1, harr =>
      simp only [Plain] at harr
      have hopen : run limit m 0 offset (writeChars (.arr items) ++ rest) =
          run limit ⟨.firstItem, .array [] :: stack⟩ 0 (offset + 1)
            (writeItems items ++ ']' :: rest) := by
        rw [writeChars, List.cons_append, List.append_assoc, List.singleton_append]
        refine run_of_step_one (by decide) ?_
        rw [step_of_begins hm offset (by decide)]
        exact if_neg (by omega)
      rw [hopen]
      cases hitems : items with
      | nil => exact ⟨_, run_of_step_one (by decide) rfl⟩
      | cons w more =>
          rw [← hitems]
          have hbegins : Machine.Begins ⟨.firstItem, .array [] :: stack⟩ (.array [] :: stack) :=
            .inr rfl
          exact run_writeItems items harr (by simp [hitems]) hbegins
            (by omega) _ rest
  | .obj _, 0, hobj => simp [Plain] at hobj
  | .obj members, room + 1, hobj =>
      simp only [Plain] at hobj
      have hopen : run limit m 0 offset (writeChars (.obj members) ++ rest) =
          run limit ⟨.firstKey, stack⟩ 0 (offset + 1) (writeMembers members ++ '\x7d' :: rest) := by
        rw [writeChars, List.cons_append, List.append_assoc, List.singleton_append]
        refine run_of_step_one (by decide) ?_
        rw [step_of_begins hm offset (by decide)]
        exact if_neg (by omega)
      rw [hopen]
      cases hmembers : members with
      | nil => exact ⟨_, run_of_step_one (by decide) rfl⟩
      | cons w more =>
          rw [← hmembers]
          have hbegins : Machine.BeginsKey ⟨.firstKey, stack⟩ [] stack := .inr ⟨rfl, rfl⟩
          obtain ⟨stop, hrun⟩ := run_writeMembers members hobj.2 (by simp [hmembers]) hbegins
            (by omega) (offset + 1) rest
          refine ⟨stop, ?_⟩
          rw [hrun, List.append_nil, closeObject, List.reverse_reverse, ofMembers_of_nodup hobj.1,
            joined]

/-- The items of a list are passed over up to its end. -/
theorem run_writeItems (items : List Json) {room : Nat} (hitems : PlainItems room items)
    (hne : items ≠ []) {m : Machine} {done : List Json} {stack : List Frame}
    (hm : m.Begins (.array done :: stack))
    (hroom : room + (stack.length + 1) ≤ limit) (offset : Nat) (rest : List Char) :
    ∃ stop, run limit m 0 offset (writeItems items ++ ']' :: rest) =
      run limit ⟨.done (.arr (done.reverse ++ joinedItems items)), stack⟩ 0 stop rest := by
  match items, hitems with
  | [v], hv =>
      simp only [PlainItems] at hv
      obtain ⟨stop, hrun⟩ := run_writeChars v hv.1 hm hroom offset (delimited_bracket rest)
      refine ⟨stop + 1, ?_⟩
      rw [writeItems, hrun, run_of_step_one (by decide) rfl, List.reverse_cons, joinedItems,
        joinedItems]
  | v :: w :: more, hv =>
      rw [PlainItems] at hv
      obtain ⟨middle, hfirst⟩ := run_writeChars v hv.1 hm hroom offset
        (delimited_comma (' ' :: (writeItems (w :: more) ++ ']' :: rest)))
      obtain ⟨stop, hrun⟩ := run_writeItems (w :: more) hv.2 (by simp)
        (m := ⟨.value, .array (v.joined :: done) :: stack⟩) (.inl rfl) hroom (middle + 1 + 1) rest
      refine ⟨stop, ?_⟩
      rw [writeItems, List.append_assoc, List.cons_append, List.cons_append, hfirst,
        run_of_step_one (by decide) rfl, run_blank, hrun, List.reverse_cons, List.append_assoc,
        List.singleton_append, joinedItems.eq_def (v :: _)]
      simp

/-- The members of an object are passed over up to its end. -/
theorem run_writeMembers (members : List (Text × Json)) {room : Nat}
    (hmembers : PlainMembers room members) (hne : members ≠ []) {m : Machine}
    {done : List (Text × Json)} {stack : List Frame} (hm : m.BeginsKey done stack)
    (hroom : room + (stack.length + 1) ≤ limit) (offset : Nat) (rest : List Char) :
    ∃ stop, run limit m 0 offset (writeMembers members ++ '\x7d' :: rest) =
      run limit ⟨.done (closeObject ((joinedMembers members).reverse ++ done)), stack⟩ 0 stop
        rest := by
  match members, hmembers with
  | [(k, v)], hv =>
      simp only [PlainMembers] at hv
      obtain ⟨first, hkey⟩ := run_key hm offset k (writeChars v ++ '\x7d' :: rest)
      obtain ⟨stop, hrun⟩ := run_writeChars v hv.1
        (m := ⟨.value, .object done (joinText k) :: stack⟩) (.inl rfl) hroom first
        (delimited_brace rest)
      refine ⟨stop + 1, ?_⟩
      rw [writeMembers, List.append_assoc, List.cons_append, List.cons_append, hkey, hrun,
        run_of_step_one (by decide) rfl, joinedMembers, joinedMembers, List.reverse_singleton,
        List.singleton_append]
  | (k, v) :: w :: more, hv =>
      rw [PlainMembers] at hv
      obtain ⟨first, hkey⟩ := run_key hm offset k
        (writeChars v ++ ',' :: ' ' :: (writeMembers (w :: more) ++ '\x7d' :: rest))
      obtain ⟨middle, hfirst⟩ := run_writeChars v hv.1
        (m := ⟨.value, .object done (joinText k) :: stack⟩) (.inl rfl) hroom first
        (delimited_comma (' ' :: (writeMembers (w :: more) ++ '\x7d' :: rest)))
      obtain ⟨stop, hrun⟩ := run_writeMembers (w :: more) hv.2 (by simp)
        (m := ⟨.key ((joinText k, v.joined) :: done), stack⟩) (.inl rfl) hroom (middle + 1 + 1) rest
      refine ⟨stop, ?_⟩
      simp only [writeMembers, List.append_assoc, List.cons_append]
      rw [hkey, hfirst, run_of_step_one (by decide) rfl, run_blank, hrun,
        joinedMembers.eq_def ((k, v) :: _)]
      simp
end

/-! ## Whole texts -/

/-- Reading restores what was written, but for halves of pairs, which it joins. -/
theorem read_write {v : Json} (hv : Plain limit v) : read limit v.write = .ok v.joined := by
  have hend : Delimited [] := trivial
  obtain ⟨stop, hrun⟩ :=
    run_writeChars v hv (m := ⟨.value, []⟩) (.inl rfl) (Nat.le_refl limit) 0 hend
  rw [List.append_nil] at hrun
  have hmark : (writeChars v).head? ≠ some '\ufeff' := by
    intro hhead
    have := isPrintable_writeChars v _ (List.mem_of_mem_head? hhead)
    exact absurd this (by decide)
  rw [read, write, String.toList_ofList, readChars, if_neg hmark, hrun]
  rfl

end GoogIndex.Json
