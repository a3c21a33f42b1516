/-
  Proofs/Json/Front.lean --- what is read from the front of a text depends on that front.

  The reader looks at all the text that is left, but what it takes from the front it takes
  whatever stands behind.  So a part that was read inside a text is read as the same part when
  it stands alone.  For a number this needs its own argument, because the text behind the front
  decides where a number ends.
-/
import GoogIndex.Proofs.Json.Steps

set_option autoImplicit false

namespace GoogIndex.Json

variable {limit : Nat}

/-! ## Texts -/

/-- A unit that is the high half of a character. -/
def IsHigh (n : Nat) : Prop := 0xD800 ≤ n ∧ n ≤ 0xDBFF

/-- The ways in which the escape of a unit is read. -/
theorem cases_of_escape_unit {quoteOffset offset : Nat} {cs : List Char} {p : Point} {used : Nat}
    (h : escape quoteOffset offset ('u' :: cs) = .ok (p, used)) :
    ∃ a b c d e rest n, cs = a :: b :: c :: d :: e :: rest ∧ unit? a b c d = some n ∧
      (¬ IsHigh n ∧ p = .ofNat n ∧ used = 5 ∨
        (∃ ch, IsHigh n ∧ lowUnit n (e :: rest) = .joined ch ∧ p = .char ch ∧ used = 11) ∨
        IsHigh n ∧ lowUnit n (e :: rest) = .separate ∧ p = .ofNat n ∧ used = 5) := by
  rcases cs with _ | ⟨a, _ | ⟨b, _ | ⟨c, _ | ⟨d, _ | ⟨e, rest⟩⟩⟩⟩⟩
  case cons.cons.cons.cons.cons =>
    rw [escape] at h
    split at h
    · cases h
    · rename_i n hunit
      refine ⟨a, b, c, d, e, rest, n, rfl, hunit, ?_⟩
      split at h
      · rename_i hhigh
        split at h
        · rename_i ch hlow
          cases h
          exact .inr (.inl ⟨ch, hhigh, hlow, rfl, rfl⟩)
        · rename_i hlow
          obtain ⟨rfl, rfl⟩ := Prod.mk.inj (Except.ok.inj h)
          exact .inr (.inr ⟨hhigh, hlow, rfl, rfl⟩)
        · cases h
      · rename_i hhigh
        obtain ⟨rfl, rfl⟩ := Prod.mk.inj (Except.ok.inj h)
        exact .inl ⟨hhigh, rfl, rfl⟩
  all_goals cases h

/-- The low half of a character is found in the front that it fits in. -/
theorem lowUnit_of_joined {n : Nat} {front rest : List Char} {ch : Char}
    (h : lowUnit n (front ++ rest) = .joined ch) (hlong : 7 ≤ front.length) :
    lowUnit n front = .joined ch := by
  rcases front with _ | ⟨x, _ | ⟨y, _ | ⟨a, _ | ⟨b, _ | ⟨c, _ | ⟨d, _ | ⟨e, front⟩⟩⟩⟩⟩⟩⟩
  case cons.cons.cons.cons.cons.cons.cons =>
    unfold lowUnit at h ⊢
    split at h
    · rename_i heq
      cases heq
      exact h
    · cases h
  all_goals simp at hlong

/-- Where no low half follows, there is none in a shorter text either. -/
theorem lowUnit_of_separate {n : Nat} {front rest : List Char}
    (h : lowUnit n (front ++ rest) = .separate) : lowUnit n front = .separate := by
  unfold lowUnit
  split
  · rename_i a b c d x front
    exact h
  · rfl

/-- An escape is read from the front that it fits in. -/
theorem escape_front {quoteOffset offset : Nat} {front rest : List Char} {p : Point} {used : Nat}
    (h : escape quoteOffset offset (front ++ rest) = .ok (p, used)) (hfits : used < front.length)
    (quoteOffset' offset' : Nat) : escape quoteOffset' offset' front = .ok (p, used) := by
  cases front with
  | nil => exact absurd hfits (Nat.not_lt_zero used)
  | cons x front =>
      rw [List.cons_append] at h
      by_cases hx : x = 'u'
      · subst hx
        obtain ⟨a, b, c, d, e, tail, n, hcs, hunit, hcases⟩ := cases_of_escape_unit h
        have hlong : 5 ≤ front.length := by
          rw [List.length_cons] at hfits
          omega
        rcases front with _ | ⟨a', _ | ⟨b', _ | ⟨c', _ | ⟨d', _ | ⟨e', front⟩⟩⟩⟩⟩
        case cons.cons.cons.cons.cons =>
          cases hcs
          simp only [List.length_cons] at hfits
          rcases hcases with ⟨hhigh, rfl, rfl⟩ | ⟨ch, hhigh, hlow, rfl, rfl⟩ |
            ⟨hhigh, hlow, rfl, rfl⟩
          · rw [escape]
            simp only [hunit]
            exact if_neg hhigh
          · have hlow : lowUnit n (e :: front) = .joined ch :=
              lowUnit_of_joined hlow (by rw [List.length_cons]; omega)
            rw [escape]
            simp only [hunit, hlow]
            exact if_pos hhigh
          · have hlow : lowUnit n (e :: front) = .separate := lowUnit_of_separate hlow
            rw [escape]
            simp only [hunit, hlow]
            exact if_pos hhigh
        all_goals simp at hlong
      · unfold escape at h ⊢
        split at h
        case h_1 heq => cases heq
        case h_2 heq => exact absurd (List.cons.inj heq).1 hx
        case h_3 heq => exact absurd (List.cons.inj heq).1 hx
        case h_12 => cases h
        all_goals
          rename_i heq
          cases heq
          exact h

/-- A text ends behind what is accounted for, and not behind the end. -/
theorem stop_of_textFrom {quoteOffset skip offset : Nat} {done : List Point} {cs : List Char}
    {s : Text} {stop : Nat} (h : textFrom quoteOffset skip offset done cs = .ok (s, stop)) :
    offset + skip < stop ∧ stop ≤ offset + cs.length := by
  induction cs generalizing skip offset done with
  | nil => cases h
  | cons c rest ih =>
      rw [List.length_cons]
      cases skip with
      | succ skip =>
          rw [textFrom] at h
          have := ih h
          omega
      | zero =>
          rw [textFrom] at h
          split at h
          · cases h
            omega
          · split at h
            · split at h
              · cases h
              · have := ih h
                omega
            · split at h
              · cases h
              · have := ih h
                omega

/-- A text is read from the front that it fits in. -/
theorem textFrom_front {quoteOffset skip offset : Nat} {done : List Point}
    {front rest : List Char} {s : Text} {stop : Nat}
    (h : textFrom quoteOffset skip offset done (front ++ rest) = .ok (s, stop))
    (hfits : stop ≤ offset + front.length) (quoteOffset' offset' : Nat) :
    ∃ stop', textFrom quoteOffset' skip offset' done front = .ok (s, stop') ∧
      stop' + offset = stop + offset' := by
  induction front generalizing skip offset done offset' with
  | nil =>
      rw [List.length_nil] at hfits
      have := (stop_of_textFrom h).1
      omega
  | cons c front ih =>
      rw [List.cons_append] at h
      rw [List.length_cons] at hfits
      -- the step at this character is the same, and the rest follows one place further on
      have hnext : ∀ {skip done},
          textFrom quoteOffset skip (offset + 1) done (front ++ rest) = .ok (s, stop) →
          ∃ stop', textFrom quoteOffset' skip (offset' + 1) done front = .ok (s, stop') ∧
            stop' + offset = stop + offset' := by
        intro skip done hrest
        obtain ⟨stop', hread, hstop⟩ := ih hrest (by omega) (offset' + 1)
        exact ⟨stop', hread, by omega⟩
      cases skip with
      | succ skip =>
          rw [textFrom] at h ⊢
          exact hnext h
      | zero =>
          rw [textFrom] at h ⊢
          split at h
          · rename_i hc
            cases h
            rw [if_pos hc]
            exact ⟨offset' + 1, rfl, by omega⟩
          · rename_i hquote
            rw [if_neg hquote]
            split at h
            · rename_i hback
              rw [if_pos hback]
              split at h
              · cases h
              · rename_i ch used hescape
                have hused := (stop_of_textFrom h).1
                rw [escape_front hescape (by omega) quoteOffset' offset']
                exact hnext h
            · rename_i hback
              rw [if_neg hback]
              split at h
              · cases h
              · rename_i hcontrol
                rw [if_neg hcontrol]
                exact hnext h

/-! ## Numbers -/

/-- Digits that fit in the front are the digits of the front. -/
theorem digitsOf_front {front rest : List Char}
    (h : (digitsOf (front ++ rest)).length ≤ front.length) :
    digitsOf (front ++ rest) = digitsOf front := by
  unfold digitsOf at h ⊢
  rw [List.takeWhile_append] at h ⊢
  split at h
  · rename_i hall
    rw [if_pos hall]
    rw [List.length_append] at h
    have hnone : (rest.takeWhile Char.isDigit) = [] := List.eq_nil_of_length_eq_zero (by omega)
    have hself : front.takeWhile Char.isDigit = front :=
      (List.takeWhile_prefix _).eq_of_length hall
    rw [hnone, hself, List.append_nil]
  · rename_i hsome
    rw [if_neg hsome]

theorem head?_digitsOf (c : Char) (cs : List Char) :
    (digitsOf (c :: cs)).head? = if c.isDigit then some c else none := by
  unfold digitsOf
  rw [List.takeWhile_cons]
  split <;> rfl

/-- The digits before the point. -/
def wholeOf (cs : List Char) : List Char :=
  if (digitsOf cs).head? = some '0' then ['0'] else digitsOf cs

theorem wholeOf_front {front rest : List Char} (hne : front ≠ [])
    (h : (wholeOf (front ++ rest)).length ≤ front.length) :
    wholeOf (front ++ rest) = wholeOf front := by
  obtain ⟨c, front, rfl⟩ := List.exists_cons_of_ne_nil hne
  have hhead : (digitsOf (c :: front ++ rest)).head? = (digitsOf (c :: front)).head? := by
    rw [List.cons_append, head?_digitsOf, head?_digitsOf]
  unfold wholeOf at h ⊢
  rw [hhead] at h ⊢
  split at h
  · rename_i hzero
    rw [if_pos hzero, if_pos hzero]
  · rename_i hzero
    rw [if_neg hzero, if_neg hzero, digitsOf_front h]

/-- The digits behind a point. -/
def fractionOf (cs : List Char) : List Char :=
  match cs with
  | '.' :: rest => digitsOf rest
  | _ => []

theorem fractionOf_of_ne {c : Char} (h : c ≠ '.') (cs : List Char) : fractionOf (c :: cs) = [] := by
  unfold fractionOf
  split
  · rename_i heq
    exact absurd (List.cons.inj heq).1 h
  · rfl

theorem fractionOf_front {front rest : List Char}
    (h : fractionOf (front ++ rest) = [] ∨
      1 + (fractionOf (front ++ rest)).length ≤ front.length) :
    fractionOf (front ++ rest) = fractionOf front := by
  cases front with
  | nil =>
      rcases h with hnone | hlong
      · exact hnone
      · rw [List.length_nil] at hlong
        omega
  | cons c front =>
      rw [List.cons_append] at h ⊢
      by_cases hc : c = '.'
      · subst hc
        refine digitsOf_front ?_
        have hdigits : fractionOf ('.' :: (front ++ rest)) = digitsOf (front ++ rest) := rfl
        rw [hdigits] at h
        rcases h with hnone | hlong
        · rw [hnone]
          exact Nat.zero_le _
        · rw [List.length_cons] at hlong
          omega
      · rw [fractionOf_of_ne hc, fractionOf_of_ne hc]

/-- The sign of an exponent, how many characters it has, and the text behind it. -/
def signOf (cs : List Char) : Bool × Nat × List Char :=
  match cs with
  | '-' :: tail => (true, 1, tail)
  | '+' :: tail => (false, 1, tail)
  | tail => (false, 0, tail)

theorem signOf_of_ne {c : Char} (hminus : c ≠ '-') (hplus : c ≠ '+') (cs : List Char) :
    signOf (c :: cs) = (false, 0, c :: cs) := by
  unfold signOf
  split
  · rename_i heq
    exact absurd (List.cons.inj heq).1 hminus
  · rename_i heq
    exact absurd (List.cons.inj heq).1 hplus
  · rfl

/-- The sign is at the front if there is a front. -/
theorem signOf_front {front : List Char} (rest : List Char) (hne : front ≠ []) :
    ∃ negative signs tail, signOf front = (negative, signs, tail) ∧
      signOf (front ++ rest) = (negative, signs, tail ++ rest) ∧
      signs + tail.length = front.length := by
  obtain ⟨c, front, rfl⟩ := List.exists_cons_of_ne_nil hne
  by_cases hminus : c = '-'
  · subst hminus
    exact ⟨true, 1, front, rfl, rfl, Nat.add_comm 1 front.length⟩
  · by_cases hplus : c = '+'
    · subst hplus
      exact ⟨false, 1, front, rfl, rfl, Nat.add_comm 1 front.length⟩
    · exact ⟨false, 0, c :: front, signOf_of_ne hminus hplus front,
        signOf_of_ne hminus hplus (front ++ rest), Nat.zero_add _⟩

theorem exponentOf_cons {c : Char} (h : c = 'e' ∨ c = 'E') (cs : List Char) :
    exponentOf (c :: cs) =
      if (digitsOf (signOf cs).2.2).isEmpty then none
      else some ((signOf cs).1, digitsOf (signOf cs).2.2,
        1 + (signOf cs).2.1 + (digitsOf (signOf cs).2.2).length) :=
  if_pos h

theorem exponentOf_of_not {c : Char} (h : ¬ (c = 'e' ∨ c = 'E')) (cs : List Char) :
    exponentOf (c :: cs) = none :=
  if_neg h

/-- The length of an exponent, if there is one. -/
def exponentLength : Option (Bool × List Char × Nat) → Nat
  | none => 0
  | some (_, _, length) => length

theorem exponentOf_front {front rest : List Char}
    (h : exponentLength (exponentOf (front ++ rest)) ≤ front.length) :
    exponentOf (front ++ rest) = exponentOf front := by
  cases front with
  | nil =>
      cases rest with
      | nil => rfl
      | cons c rest =>
          by_cases hc : c = 'e' ∨ c = 'E'
          · rw [List.nil_append, exponentOf_cons hc] at h ⊢
            split at h
            · rename_i hnone
              rw [if_pos hnone]
              rfl
            · rw [exponentLength, List.length_nil] at h
              omega
          · rw [List.nil_append, exponentOf_of_not hc]
            rfl
  | cons c front =>
      rw [List.cons_append] at h ⊢
      by_cases hc : c = 'e' ∨ c = 'E'
      · rw [exponentOf_cons hc] at h ⊢
        rw [exponentOf_cons hc]
        cases front with
        | nil =>
            rw [List.nil_append] at h ⊢
            split at h
            · rename_i hnone
              rw [if_pos hnone]
              rfl
            · rename_i hsome
              rw [exponentLength, List.length_cons, List.length_nil] at h
              have := List.length_pos_iff.mpr (fun heq => hsome (List.isEmpty_iff.mpr heq))
              omega
        | cons d front =>
            obtain ⟨negative, signs, tail, hsign, hsigns, hlength⟩ :=
              signOf_front rest (List.cons_ne_nil d front)
            rw [hsigns] at h ⊢
            rw [hsign]
            dsimp only at h ⊢
            have hdigits : digitsOf (tail ++ rest) = digitsOf tail := by
              refine digitsOf_front ?_
              split at h
              · rename_i hnone
                rw [List.isEmpty_iff.mp hnone]
                exact Nat.zero_le _
              · rw [exponentLength, List.length_cons] at h
                omega
            rw [hdigits]
      · rw [exponentOf_of_not hc, exponentOf_of_not hc]

/-- The text behind the digits before the point. -/
def behindWhole (cs : List Char) : List Char := cs.drop (wholeOf cs).length

/-- How many characters the point and the digits behind it are. -/
def pointsOf (cs : List Char) : Nat :=
  if (fractionOf (behindWhole cs)).isEmpty then 0 else 1 + (fractionOf (behindWhole cs)).length

/-- The text behind the fraction. -/
def behindFraction (cs : List Char) : List Char := (behindWhole cs).drop (pointsOf cs)

/-- The number behind a sign, part by part. -/
def unsignedOf (negative : Bool) (cs : List Char) : NumberParts :=
  { negative := negative
    whole := wholeOf cs
    fraction := fractionOf (behindWhole cs)
    exponent := (exponentOf (behindFraction cs)).map fun e => (e.1, e.2.1)
    length := (if negative then 1 else 0) + (wholeOf cs).length + pointsOf cs +
      exponentLength (exponentOf (behindFraction cs)) }

/-- A text as a sign and what stands behind it. -/
inductive Signed : List Char → Bool → List Char → Prop
  | minus (cs : List Char) : Signed ('-' :: cs) true cs
  | none {cs : List Char} (h : cs.head? ≠ some '-') : Signed cs false cs

/-- A number is an optional sign and the parts behind it. -/
theorem numberOf_of_signed {cs body : List Char} {negative : Bool} (h : Signed cs negative body) :
    numberOf cs = if (wholeOf body).isEmpty then none else some (unsignedOf negative body) := by
  unfold numberOf
  split
  rename_i negative' body' hsign
  have hsame : negative' = negative ∧ body' = body := by
    cases h with
    | minus cs =>
        cases hsign
        exact ⟨rfl, rfl⟩
    | none h =>
        split at hsign
        · exact absurd rfl h
        · cases hsign
          exact ⟨rfl, rfl⟩
  obtain ⟨rfl, rfl⟩ := hsame
  extract_lets digits whole afterWhole fraction afterFraction signs points
  have hbehind : afterFraction = behindFraction body' := by
    show (if (fractionOf (behindWhole body')).isEmpty then behindWhole body'
      else (behindWhole body').drop (1 + (fractionOf (behindWhole body')).length)) = _
    unfold behindFraction pointsOf
    split <;> rfl
  rw [hbehind, unsignedOf]
  cases exponentOf (behindFraction body') <;> rfl

theorem signed_of_ne {c : Char} (h : c ≠ '-') (cs : List Char) : Signed (c :: cs) false (c :: cs) :=
  .none (by simpa using h)

/-- Every text that is not empty has a sign or none, and a text behind it has nothing to do with
that. -/
theorem exists_signed {front : List Char} (hne : front ≠ []) :
    ∃ negative body, Signed front negative body ∧
      (if negative then 1 else 0) + body.length = front.length ∧
      ∀ rest, Signed (front ++ rest) negative (body ++ rest) := by
  obtain ⟨c, front, rfl⟩ := List.exists_cons_of_ne_nil hne
  by_cases hc : c = '-'
  · subst hc
    exact ⟨true, front, .minus front, Nat.add_comm 1 front.length,
      fun rest => .minus (front ++ rest)⟩
  · exact ⟨false, c :: front, signed_of_ne hc front, Nat.zero_add _,
      fun rest => signed_of_ne hc (front ++ rest)⟩

theorem wholeOf_length_le (cs : List Char) : (wholeOf cs).length ≤ cs.length := by
  unfold wholeOf
  split
  · rename_i hzero
    cases cs with
    | nil => cases hzero
    | cons c cs => exact Nat.succ_le_succ (Nat.zero_le _)
  · exact (List.takeWhile_prefix _).length_le

theorem pointsOf_le (cs : List Char) : pointsOf cs ≤ (behindWhole cs).length := by
  unfold pointsOf
  cases behindWhole cs with
  | nil => exact Nat.le_refl 0
  | cons c rest =>
      by_cases hc : c = '.'
      · subst hc
        split
        · exact Nat.zero_le _
        · rw [List.length_cons, Nat.add_comm]
          exact Nat.succ_le_succ (List.takeWhile_prefix _).length_le
      · rw [fractionOf_of_ne hc]
        exact Nat.zero_le _

theorem exponentLength_le (cs : List Char) : exponentLength (exponentOf cs) ≤ cs.length := by
  cases cs with
  | nil => exact Nat.le_refl 0
  | cons c cs =>
      by_cases hc : c = 'e' ∨ c = 'E'
      · rw [exponentOf_cons hc]
        split
        · exact Nat.zero_le _
        · rename_i hsome
          have hne : cs ≠ [] := by
            rintro rfl
            exact hsome rfl
          obtain ⟨negative, signs, tail, hsign, -, hlength⟩ := signOf_front [] hne
          have hdigits : (digitsOf tail).length ≤ tail.length :=
            (List.takeWhile_prefix _).length_le
          rw [hsign, exponentLength, List.length_cons]
          dsimp only
          omega
      · rw [exponentOf_of_not hc]
        exact Nat.zero_le _

/-- The parts behind a sign fit in the text behind it. -/
theorem length_unsignedOf_le (negative : Bool) (cs : List Char) :
    (unsignedOf negative cs).length ≤ (if negative then 1 else 0) + cs.length := by
  have hwhole := wholeOf_length_le cs
  have hpoints := pointsOf_le cs
  have hexponent := exponentLength_le (behindFraction cs)
  rw [behindFraction, List.length_drop] at hexponent
  rw [behindWhole, List.length_drop] at hpoints hexponent
  show _ + _ + _ + exponentLength (exponentOf (behindFraction cs)) ≤ _
  rw [behindFraction, behindWhole]
  omega

/-- The parts behind a sign are found in the front that they fit in. -/
theorem unsignedOf_front (negative : Bool) {front rest : List Char} (hne : front ≠ [])
    (hfits : (unsignedOf negative (front ++ rest)).length ≤
      (if negative then 1 else 0) + front.length) :
    wholeOf (front ++ rest) = wholeOf front ∧
      unsignedOf negative (front ++ rest) = unsignedOf negative front := by
  have hlength : (wholeOf (front ++ rest)).length + pointsOf (front ++ rest) +
      exponentLength (exponentOf (behindFraction (front ++ rest))) ≤ front.length := by
    have hsum : (unsignedOf negative (front ++ rest)).length =
        (if negative then 1 else 0) + (wholeOf (front ++ rest)).length +
          pointsOf (front ++ rest) +
          exponentLength (exponentOf (behindFraction (front ++ rest))) := rfl
    omega
  have hwhole : wholeOf (front ++ rest) = wholeOf front := wholeOf_front hne (by omega)
  have hbehind : behindWhole (front ++ rest) = behindWhole front ++ rest := by
    rw [behindWhole, hwhole, List.drop_append_of_le_length (wholeOf_length_le front)]
    rfl
  have hroom : (behindWhole front).length + (wholeOf front).length = front.length := by
    rw [behindWhole, List.length_drop]
    exact Nat.sub_add_cancel (wholeOf_length_le front)
  have hfraction : fractionOf (behindWhole (front ++ rest)) = fractionOf (behindWhole front) := by
    rw [hbehind]
    refine fractionOf_front ?_
    rw [← hbehind]
    by_cases hnone : fractionOf (behindWhole (front ++ rest)) = []
    · exact .inl hnone
    · have hpoints : pointsOf (front ++ rest) =
          1 + (fractionOf (behindWhole (front ++ rest))).length :=
        if_neg (by simpa using hnone)
      rw [hwhole] at hlength
      exact .inr (by omega)
  have hpoints : pointsOf (front ++ rest) = pointsOf front := by
    rw [pointsOf, hfraction]
    rfl
  have hbehindFraction : behindFraction (front ++ rest) = behindFraction front ++ rest := by
    rw [behindFraction, hpoints, hbehind, List.drop_append_of_le_length (pointsOf_le front)]
    rfl
  have hexponent : exponentOf (behindFraction (front ++ rest)) =
      exponentOf (behindFraction front) := by
    rw [hbehindFraction]
    refine exponentOf_front ?_
    have hroomFraction : (behindFraction front).length + pointsOf front =
        (behindWhole front).length := by
      rw [behindFraction, List.length_drop]
      exact Nat.sub_add_cancel (pointsOf_le front)
    rw [← hbehindFraction]
    rw [hwhole, hpoints] at hlength
    omega
  refine ⟨hwhole, ?_⟩
  rw [unsignedOf, hwhole, hfraction, hpoints, hexponent]
  rfl

/-- A number is at least one character long, and no longer than its text. -/
theorem length_of_numberOf {cs : List Char} {p : NumberParts} (h : numberOf cs = some p) :
    p.length ≤ cs.length := by
  cases cs with
  | nil => cases h
  | cons c cs =>
      obtain ⟨negative, body, hsigned, hlength, -⟩ := exists_signed (List.cons_ne_nil c cs)
      rw [numberOf_of_signed hsigned] at h
      split at h
      · cases h
      · cases h
        rw [← hlength]
        exact length_unsignedOf_le negative body

/-- A number is read from the front that it fits in. -/
theorem numberOf_front {front rest : List Char} {p : NumberParts} (hne : front ≠ [])
    (h : numberOf (front ++ rest) = some p) (hfits : p.length ≤ front.length) :
    numberOf front = some p := by
  obtain ⟨negative, body, hsigned, hlength, hbehind⟩ := exists_signed hne
  rw [numberOf_of_signed (hbehind rest)] at h
  rw [numberOf_of_signed hsigned]
  split at h
  · cases h
  · rename_i hwhole
    cases h
    have hbody : body ≠ [] := by
      rintro rfl
      have hsome := List.length_pos_iff.mpr (fun heq => hwhole (List.isEmpty_iff.mpr heq))
      have hsum : (unsignedOf negative ([] ++ rest)).length =
          (if negative then 1 else 0) + (wholeOf ([] ++ rest)).length + pointsOf ([] ++ rest) +
            exponentLength (exponentOf (behindFraction ([] ++ rest))) := rfl
      rw [List.length_nil] at hlength
      omega
    obtain ⟨hsame, hparts⟩ := unsignedOf_front negative hbody
      (by rw [hlength]; exact hfits)
    rw [hsame] at hwhole
    rw [if_neg hwhole, hparts]

/-! ## Values -/

/-- A constant that fits in the front is found there. -/
theorem find?_constants_front {words : List (List Char × Json)} {front rest : List Char}
    (hfits : ∀ k, words.find? (fun k => k.1.isPrefixOf (front ++ rest)) = some k →
      k.1.length ≤ front.length) :
    words.find? (fun k => k.1.isPrefixOf front) =
      words.find? fun k => k.1.isPrefixOf (front ++ rest) := by
  induction words with
  | nil => rfl
  | cons k words ih =>
      rw [List.find?_cons, List.find?_cons] at *
      cases hfull : k.1.isPrefixOf (front ++ rest) with
      | true =>
          have hlong := hfits k (by rw [hfull])
          have hprefix : k.1 <+: front :=
            List.prefix_of_prefix_length_le (List.isPrefixOf_iff_prefix.mp hfull)
              (List.prefix_append front rest) hlong
          rw [List.isPrefixOf_iff_prefix.mpr hprefix]
      | false =>
          have hnone : k.1.isPrefixOf front = false := by
            rw [Bool.eq_false_iff] at hfull ⊢
            intro hprefix
            exact hfull (List.isPrefixOf_iff_prefix.mpr
              ((List.isPrefixOf_iff_prefix.mp hprefix).trans (List.prefix_append front rest)))
          rw [hnone]
          rw [hfull] at hfits
          exact ih hfits

/-- What a constant or a number takes from the text is there. -/
theorem used_of_scalarOf {offset : Nat} {cs : List Char} {v : Json} {used : Nat}
    (h : scalarOf offset cs = .ok (v, used)) : used ≤ cs.length := by
  rcases cases_of_scalarOf h with ⟨word, hfind, rfl⟩ | ⟨-, parts, hparts, -, rfl⟩
  · have hword := List.find?_some hfind
    exact (List.isPrefixOf_iff_prefix.mp hword).length_le
  · exact length_of_numberOf hparts

/-- A constant or a number is read from the front that it fits in. -/
theorem scalarOf_front {offset : Nat} {front rest : List Char} {v : Json} {used : Nat}
    (hne : front ≠ []) (h : scalarOf offset (front ++ rest) = .ok (v, used))
    (hfits : used ≤ front.length) (offset' : Nat) : scalarOf offset' front = .ok (v, used) := by
  have hconstants : constants.find? (fun k => k.1.isPrefixOf front) =
      constants.find? (fun k => k.1.isPrefixOf (front ++ rest)) := by
    refine find?_constants_front fun k hk => ?_
    rw [scalarOf, hk] at h
    cases h
    exact hfits
  rw [scalarOf, hconstants]
  rcases cases_of_scalarOf h with ⟨word, hfind, rfl⟩ | ⟨hfind, parts, hparts, hvalue, rfl⟩
  · rw [hfind]
  · simp only [hfind, numberOf_front hne hparts hfits, hvalue]
    rfl

/-- What begins takes a part of the text. -/
theorem used_of_begun {stack : List Frame} {offset : Nat} {c : Char} {cs : List Char}
    {m : Machine} {used : Nat} (h : Begun limit stack offset c cs m used) :
    used ≤ cs.length + 1 := by
  cases h with
  | text read =>
      have := stop_of_textFrom read
      omega
  | array room => exact Nat.succ_le_succ (Nat.zero_le _)
  | object room => exact Nat.succ_le_succ (Nat.zero_le _)
  | scalar other read => exact used_of_scalarOf read

/-- A text literal is read from the front that it fits in, at another offset too. -/
theorem exists_textFrom_front {offset : Nat} {front rest : List Char} {s : Text} {stop : Nat}
    (h : textFrom offset 0 (offset + 1) [] (front ++ rest) = .ok (s, stop))
    (hfits : stop - offset ≤ front.length + 1) (offset' : Nat) :
    ∃ stop', textFrom offset' 0 (offset' + 1) [] front = .ok (s, stop') ∧
      stop' - offset' = stop - offset := by
  have hstop := (stop_of_textFrom h).1
  obtain ⟨stop', hread, hsame⟩ := textFrom_front h (by omega) offset' (offset' + 1)
  exact ⟨stop', hread, by omega⟩

/-- A value begins in the front that it fits in as it does in the text. -/
theorem begun_front {stack : List Frame} {offset : Nat} {c : Char} {front rest : List Char}
    {m : Machine} {used : Nat} (h : Begun limit stack offset c (front ++ rest) m used)
    (hfits : used ≤ front.length + 1) (offset' : Nat) :
    Begun limit stack offset' c front m used := by
  cases h with
  | text read =>
      obtain ⟨stop', hread, hused⟩ := exists_textFrom_front read hfits offset'
      rw [← hused]
      exact .text hread
  | array room => exact .array room
  | object room => exact .object room
  | scalar other read =>
      exact .scalar other (scalarOf_front (List.cons_ne_nil c front) read hfits _)

/-! ## Steps -/

/-- What a step takes from the text is there. -/
theorem used_of_step {m m' : Machine} {offset used : Nat} {c : Char} {rest : List Char}
    (h : step limit m offset c (c :: rest) = .ok (m', used)) : used ≤ rest.length + 1 := by
  cases step_eq_ok_iff.mp h with
  | value begins begun => exact used_of_begun begun
  | key begins quote read =>
      have := stop_of_textFrom read
      omega
  | _ => exact Nat.succ_le_succ (Nat.zero_le _)

/-- A step is made in the front that it fits in as it is made in the text. -/
theorem step_front {m m' : Machine} {offset used : Nat} {c : Char} {front rest : List Char}
    (h : step limit m offset c (c :: (front ++ rest)) = .ok (m', used))
    (hfits : used ≤ front.length + 1) (offset' : Nat) :
    step limit m offset' c (c :: front) = .ok (m', used) := by
  rw [step_eq_ok_iff] at h ⊢
  cases h with
  | value begins begun => exact .value begins (begun_front begun hfits offset')
  | key begins quote read =>
      obtain ⟨stop', hread, hused⟩ := exists_textFrom_front read hfits offset'
      rw [← hused]
      exact .key begins quote hread
  | colon mark => exact .colon mark
  | noItems mark => exact .noItems mark
  | noMembers mark => exact .noMembers mark
  | nextItem mark => exact .nextItem mark
  | lastItem mark => exact .lastItem mark
  | nextMember mark => exact .nextMember mark
  | lastMember mark => exact .lastMember mark

/-! ## Containers around a value -/

/-- The machine with further containers around those that are open. -/
def Machine.inside (m : Machine) (outer : List Frame) : Machine := ⟨m.mode, m.stack ++ outer⟩

/-- A machine that has a complete value and no container open. -/
def Machine.Complete (m : Machine) (v : Json) : Prop := m = ⟨.done v, []⟩

/-- The end of a list just opened may come only where a list is open. -/
def Machine.Opened (m : Machine) : Prop := m.mode = .firstItem → m.stack ≠ []

theorem beginValue_inside {inner outer : List Frame} {offset used : Nat} {c : Char}
    {cs : List Char} {m' : Machine}
    (h : beginValue limit (inner ++ outer) offset (c :: cs) = .ok (m', used)) :
    ∃ m, beginValue limit inner offset (c :: cs) = .ok (m, used) ∧
      m' = m.inside outer ∧ m.Opened := by
  have hdepth : (inner ++ outer).length < limit → inner.length < limit := by
    rw [List.length_append]
    omega
  cases beginValue_eq_ok_iff.mp h with
  | text read => exact ⟨_, beginValue_eq_ok_iff.mpr (.text read), rfl, Mode.noConfusion⟩
  | array room =>
      exact ⟨_, beginValue_eq_ok_iff.mpr (.array (hdepth room)), rfl,
        fun _ => List.cons_ne_nil _ _⟩
  | object room =>
      exact ⟨_, beginValue_eq_ok_iff.mpr (.object (hdepth room)), rfl, Mode.noConfusion⟩
  | scalar other read =>
      exact ⟨_, beginValue_eq_ok_iff.mpr (.scalar other read), rfl, Mode.noConfusion⟩

theorem beginKey_inside {members : List (Text × Json)} {inner outer : List Frame}
    {offset used : Nat} {c : Char} {cs : List Char} {m' : Machine}
    (h : beginKey members (inner ++ outer) offset (c :: cs) = .ok (m', used)) :
    ∃ m, beginKey members inner offset (c :: cs) = .ok (m, used) ∧ m' = m.inside outer ∧
      m.Opened := by
  obtain ⟨hc, s, stop, hread, rfl, rfl⟩ := beginKey_eq_ok_iff.mp h
  exact ⟨_, beginKey_eq_ok_iff.mpr ⟨hc, s, stop, hread, rfl, rfl⟩, rfl, Mode.noConfusion⟩

/-- A step of a machine that is not complete does not depend on the containers around. -/
theorem step_inside {m m' : Machine} {outer : List Frame} {offset used : Nat} {c : Char}
    {cs : List Char} (hopen : m.Opened) (hincomplete : ∀ v, ¬ m.Complete v)
    (h : step limit (m.inside outer) offset c (c :: cs) = .ok (m', used)) :
    ∃ m'', step limit m offset c (c :: cs) = .ok (m'', used) ∧
      m' = m''.inside outer ∧ m''.Opened := by
  obtain ⟨mode, stack⟩ := m
  dsimp only [Machine.inside] at h
  cases mode with
  | value => exact beginValue_inside h
  | firstItem =>
      by_cases hc : c = ']'
      · obtain ⟨frame, stack, rfl⟩ := List.exists_cons_of_ne_nil (hopen rfl)
        subst hc
        cases frame with
        | array items =>
            cases h
            exact ⟨⟨.done (.arr []), stack⟩, rfl, rfl, Mode.noConfusion⟩
        | object members key =>
            have hbegin : beginValue limit (.object members key :: stack ++ outer) offset
              (']' :: cs) =
                .ok (m', used) := h
            exact beginValue_inside hbegin
      · rw [step_of_begins (.inr rfl) offset hc] at h ⊢
        exact beginValue_inside h
  | firstKey =>
      by_cases hc : c = '\x7d'
      · subst hc
        cases h
        exact ⟨⟨.done (.obj []), stack⟩, rfl, rfl, Mode.noConfusion⟩
      · rw [step_of_beginsKey (.inr ⟨rfl, rfl⟩) offset hc] at h ⊢
        exact beginKey_inside h
  | key members => exact beginKey_inside h
  | colon members name =>
      by_cases hc : c = ':'
      · subst hc
        cases h
        exact ⟨⟨.value, .object members name :: stack⟩, rfl, rfl, Mode.noConfusion⟩
      · unfold step at h
        cases (if_neg hc).symm.trans h
  | done v =>
      have hstack : stack ≠ [] := by
        rintro rfl
        exact hincomplete v rfl
      obtain ⟨frame, stack, rfl⟩ := List.exists_cons_of_ne_nil hstack
      unfold step at h
      dsimp only at h
      rw [List.cons_append] at h
      split at h
      case h_5 => cases h
      all_goals
        rename_i heq
        cases heq
        cases h
        exact ⟨_, rfl, rfl, Mode.noConfusion⟩

end GoogIndex.Json
