/-
  Proofs/Json/Limits.lean --- the two limits of reading.

  A text goes beyond the limit of nesting only if it has more brackets than the limit
  allows, and beyond the limit of digits only if so many digits stand in a row.  The
  opening brackets that were read bound the containers that are open, which is what the
  induction over the text carries.
-/
import GoogIndex.Proofs.Json.Steps

set_option autoImplicit false

namespace GoogIndex.Json

variable {limit : Nat}

/-! ## Faults of the parts -/

/-- Whether a fault has a place in the text. -/
def RawFault.isPlaced : RawFault → Bool
  | .at _ _ => true
  | .tooDeep _ => false
  | .tooManyDigits _ => false

theorem isPlaced_of_escape {quoteOffset offset : Nat} {cs : List Char} {e : RawFault}
    (h : escape quoteOffset offset cs = .error e) : e.isPlaced = true := by
  unfold escape at h
  split at h
  case h_2 =>
    split at h
    · cases h
      rfl
    · split at h
      · split at h <;> cases h
        rfl
      · cases h
  all_goals cases h <;> rfl

/-- A text literal has only faults with a place. -/
theorem isPlaced_of_textFrom {quoteOffset skip offset : Nat} {done : List Point}
    {cs : List Char} {e : RawFault}
    (h : textFrom quoteOffset skip offset done cs = .error e) : e.isPlaced = true := by
  induction cs generalizing skip offset done with
  | nil =>
      rw [textFrom] at h
      cases h
      rfl
  | cons c rest ih =>
      cases skip with
      | succ skip =>
          rw [textFrom] at h
          exact ih h
      | zero =>
          rw [textFrom] at h
          split at h
          · cases h
          · split at h
            · split at h
              · rename_i hescape
                cases h
                exact isPlaced_of_escape hescape
              · exact ih h
            · split at h
              · cases h
                rfl
              · exact ih h

/-- The digits at the front of a text stand in a row in it. -/
theorem digits_at_front (cs : List Char) :
    digitsOf cs <+: cs ∧ ∀ c ∈ digitsOf cs, c.isDigit = true :=
  ⟨List.takeWhile_prefix _, List.all_eq_true.mp List.all_takeWhile⟩

/-- The digits before the point stand in a row in the text, or are a zero. -/
theorem whole_of_numberOf {cs : List Char} {p : NumberParts} (h : numberOf cs = some p) :
    p.whole = ['0'] ∨ (p.whole <:+: cs ∧ ∀ c ∈ p.whole, c.isDigit = true) := by
  unfold numberOf at h
  split at h
  rename_i negative body hsign
  extract_lets digits whole afterWhole fraction afterFraction signs points at h
  have hbody : body <:+ cs := by
    split at hsign
    · cases hsign
      exact List.suffix_cons _ _
    · cases hsign
      exact List.suffix_refl cs
  have hwhole : p.whole = whole := by
    split at h
    · cases h
    · split at h <;> cases h <;> rfl
  rw [hwhole]
  unfold whole
  split
  · exact .inl rfl
  · exact .inr ⟨(digits_at_front body).1.isInfix.trans hbody.isInfix, (digits_at_front body).2⟩

/-- A number is beyond the limit of digits only if so many digits stand in a row. -/
theorem digits_of_value {cs : List Char} {p : NumberParts} {e : RawFault}
    (h : numberOf cs = some p) (he : p.value = .error e) :
    ∃ ds, ds <:+: cs ∧ (∀ c ∈ ds, c.isDigit = true) ∧ digitLimit < ds.length ∧
      e = .tooManyDigits ds.length := by
  unfold NumberParts.value at he
  split at he
  · split at he
    · rename_i hlimit
      cases he
      rcases whole_of_numberOf h with hzero | ⟨hin, hdigit⟩
      · rw [hzero] at hlimit
        exact absurd hlimit (by decide)
      · exact ⟨p.whole, hin, hdigit, hlimit, rfl⟩
    · cases he
  · cases he

/-! ## Faults of a step -/

/-- The characters that open a container. -/
def isBracket (c : Char) : Bool := c = '[' || c = '\x7b'

/-- What a fault says about the containers that are open and the text that is left. -/
def RawFault.Explained (limit opened : Nat) (cs : List Char) : RawFault → Prop
  | .at _ _ => True
  | .tooDeep _ => limit < opened + cs.countP isBracket
  | .tooManyDigits n =>
      digitLimit < n ∧ ∃ ds, ds <:+: cs ∧ (∀ c ∈ ds, c.isDigit = true) ∧ ds.length = n

theorem explained_of_isPlaced {e : RawFault} (h : e.isPlaced = true) (opened : Nat)
    (cs : List Char) : e.Explained limit opened cs := by
  cases e with
  | «at» problem offset => trivial
  | tooDeep k => cases h
  | tooManyDigits n => cases h

/-- More text and fewer open containers explain a fault as well, if the brackets make up for
it. -/
theorem RawFault.Explained.mono {e : RawFault} {opened opened' : Nat} {cs cs' : List Char}
    (h : e.Explained limit opened cs) (hin : cs <:+: cs')
    (hcount : opened + cs.countP isBracket ≤ opened' + cs'.countP isBracket) :
    e.Explained limit opened' cs' := by
  cases e with
  | «at» problem offset => trivial
  | tooDeep k => exact Nat.lt_of_lt_of_le h hcount
  | tooManyDigits n =>
      obtain ⟨hlimit, ds, hds, hdigit, hlength⟩ := h
      exact ⟨hlimit, ds, hds.trans hin, hdigit, hlength⟩

theorem explained_of_beginValue {stack : List Frame} {offset : Nat} {cs : List Char}
    {e : RawFault} (h : beginValue limit stack offset cs = .error e) :
    e.Explained limit stack.length cs := by
  unfold beginValue at h
  split at h
  · rename_i rest
    cases htext : textFrom offset 0 (offset + 1) [] rest with
    | error f =>
        rw [htext] at h
        cases h
        exact explained_of_isPlaced (isPlaced_of_textFrom htext) _ _
    | ok r =>
        rw [htext] at h
        cases h
  · split at h <;> cases h
    rename_i rest hdeep
    show limit < stack.length + ('[' :: rest).countP isBracket
    rw [List.countP_cons_of_pos rfl]
    omega
  · split at h <;> cases h
    rename_i rest hdeep
    show limit < stack.length + ('\x7b' :: rest).countP isBracket
    rw [List.countP_cons_of_pos rfl]
    omega
  · split at h
    · cases h
    · split at h
      · cases h
        trivial
      · rename_i parts hparts
        cases hvalue : parts.value with
        | error f =>
            rw [hvalue] at h
            cases h
            obtain ⟨ds, hin, hdigit, hlimit, rfl⟩ := digits_of_value hparts hvalue
            exact ⟨hlimit, ds, hin, hdigit, rfl⟩
        | ok v =>
            rw [hvalue] at h
            cases h

theorem explained_of_beginKey {members : List (Text × Json)} {stack : List Frame}
    {offset opened : Nat} {cs : List Char} {e : RawFault}
    (h : beginKey members stack offset cs = .error e) : e.Explained limit opened cs := by
  unfold beginKey at h
  split at h
  · rename_i rest
    cases htext : textFrom offset 0 (offset + 1) [] rest with
    | error f =>
        rw [htext] at h
        cases h
        exact explained_of_isPlaced (isPlaced_of_textFrom htext) _ _
    | ok r =>
        rw [htext] at h
        cases h
  · cases h
    trivial

/-- The containers that are open, with an object that waits for a key. -/
def Machine.opened (m : Machine) : Nat :=
  m.stack.length +
    match m.mode with
    | .firstKey => 1
    | .key _ => 1
    | .colon _ _ => 1
    | _ => 0

theorem explained_of_step {m : Machine} {offset : Nat} {c : Char} {rest : List Char}
    {e : RawFault} (h : step limit m offset c (c :: rest) = .error e) :
    e.Explained limit m.opened (c :: rest) := by
  have hstack : m.stack.length ≤ m.opened := Nat.le_add_right _ _
  have hvalue : ∀ stack, stack.length ≤ m.opened →
      beginValue limit stack offset (c :: rest) = .error e →
        e.Explained limit m.opened (c :: rest) :=
    fun stack hle hbegin => (explained_of_beginValue hbegin).mono (List.infix_refl _) (by omega)
  unfold step at h
  split at h
  · exact hvalue _ hstack h
  · split at h
    · cases h
    · exact hvalue _ hstack h
  · split at h
    · cases h
    · exact explained_of_beginKey h
  · exact explained_of_beginKey h
  · split at h <;> cases h
    trivial
  · split at h <;> cases h
    trivial

/-- A value is read at once, or a bracket opens one container. -/
theorem opened_of_begun {stack : List Frame} {offset used : Nat} {c : Char} {rest : List Char}
    {m : Machine} (h : Begun limit stack offset c rest m used) :
    m.opened ≤ stack.length + if isBracket c then 1 else 0 := by
  cases h with
  | text read => exact Nat.le_refl _
  | array room => exact Nat.le_refl _
  | object room => exact Nat.le_refl _
  | scalar other read => exact Nat.le_add_right _ _

/-- A step opens no container without a bracket. -/
theorem opened_of_step {m m' : Machine} {offset used : Nat} {c : Char} {rest : List Char}
    (h : step limit m offset c (c :: rest) = .ok (m', used)) :
    m'.opened ≤ m.opened + if isBracket c then 1 else 0 := by
  cases step_eq_ok_iff.mp h with
  | value begins begun => rcases begins with rfl | rfl <;> exact opened_of_begun begun
  | key begins quote read =>
      rcases begins with rfl | ⟨rfl, rfl⟩ <;> exact Nat.le_add_right _ _
  | _ => simp only [Machine.opened, List.length_cons] <;> omega

/-! ## Faults of a text -/

/-- The fault of a run is explained by the containers that are open and the text. -/
theorem explained_of_run {m : Machine} {skip offset : Nat} {cs : List Char} {e : RawFault}
    (h : run limit m skip offset cs = .error e) : e.Explained limit m.opened cs := by
  induction cs generalizing m skip offset with
  | nil =>
      rw [run] at h
      split at h <;> cases h
      trivial
  | cons c rest ih =>
      have hin : rest <:+: c :: rest := (List.suffix_cons c rest).isInfix
      cases skip with
      | succ skip =>
          rw [run] at h
          refine (ih h).mono hin ?_
          rw [List.countP_cons]
          omega
      | zero =>
          rw [run] at h
          split at h
          · refine (ih h).mono hin ?_
            rw [List.countP_cons]
            omega
          · split at h
            · rename_i hstep
              cases h
              exact explained_of_step hstep
            · rename_i m' used hstep
              have hopened := opened_of_step hstep
              refine (ih h).mono hin ?_
              rw [List.countP_cons]
              omega

/-- The fault of a text is explained by the text. -/
theorem explained_of_readChars {cs : List Char} {f : Fault} (h : readChars limit cs = .error f) :
    ∃ e : RawFault, e.Explained limit 0 cs ∧ e.locate cs = f := by
  unfold readChars at h
  split at h
  · cases h
    exact ⟨.at .byteOrderMark 0, trivial, rfl⟩
  · split at h
    · cases h
    · rename_i e hrun
      cases h
      exact ⟨e, explained_of_run hrun, rfl⟩

/-- A text that is nested too deep has more brackets than the limit. -/
theorem lt_countP_of_tooDeep {cs : List Char} {k : Container}
    (h : readChars limit cs = .error (.tooDeep k)) : limit < cs.countP isBracket := by
  obtain ⟨e, he, hlocate⟩ := explained_of_readChars h
  cases e with
  | «at» problem offset => cases hlocate
  | tooDeep k => simpa [RawFault.Explained] using he
  | tooManyDigits n => cases hlocate

/-- A text with too many digits has them in a row. -/
theorem exists_digits_of_tooManyDigits {cs : List Char} {n : Nat}
    (h : readChars limit cs = .error (.tooManyDigits n)) :
    digitLimit < n ∧ ∃ ds, ds <:+: cs ∧ (∀ c ∈ ds, c.isDigit = true) ∧ ds.length = n := by
  obtain ⟨e, he, hlocate⟩ := explained_of_readChars h
  cases e with
  | «at» problem offset => cases hlocate
  | tooDeep k => cases hlocate
  | tooManyDigits n =>
      cases hlocate
      exact he

/-! ## Texts beyond the limits -/

theorem numberOf_digits {d : Char} {ds : List Char} (hdigit : ∀ c ∈ d :: ds, c.isDigit = true)
    (hzero : d ≠ '0') : numberOf (d :: ds) = some ⟨false, d :: ds, [], none, ds.length + 1⟩ := by
  have hdigits : digitsOf (d :: ds) = d :: ds := by
    have happend : digitsOf (d :: ds ++ []) = d :: ds ++ [] :=
      List.takeWhile_append_of_pos hdigit
    rwa [List.append_nil] at happend
  have hsign : d ≠ '-' := ne_of_isDigit (hdigit d List.mem_cons_self) rfl
  simp [numberOf, hsign, hdigits, hzero, exponentOf]

/-- A number with too many digits is not read. -/
theorem readChars_digits {d : Char} {ds : List Char} (hdigit : ∀ c ∈ d :: ds, c.isDigit = true)
    (hzero : d ≠ '0') (h : digitLimit < (d :: ds).length) :
    readChars limit (d :: ds) = .error (.tooManyDigits (d :: ds).length) := by
  have hne : ∀ c : Char, c.isDigit = false → d ≠ c := fun c hc =>
    ne_of_isDigit (hdigit d List.mem_cons_self) hc
  have hvalue : NumberParts.value ⟨false, d :: ds, [], none, ds.length + 1⟩ =
      .error (.tooManyDigits (d :: ds).length) := if_pos h
  have hconstants : constants.find? (fun k => k.1.isPrefixOf (d :: ds)) = none := by
    simp [constants, List.isPrefixOf, (hne 'n' rfl).symm, (hne 't' rfl).symm, (hne 'f' rfl).symm,
      (hne 'N' rfl).symm, (hne 'I' rfl).symm, (hne '-' rfl).symm]
  have hbegin : beginValue limit [] 0 (d :: ds) = .error (.tooManyDigits (d :: ds).length) := by
    unfold beginValue
    split
    · rename_i heq
      exact absurd (List.cons.inj heq).1 (hne '"' rfl)
    · rename_i heq
      exact absurd (List.cons.inj heq).1 (hne '[' rfl)
    · rename_i heq
      exact absurd (List.cons.inj heq).1 (hne '\x7b' rfl)
    · rw [hconstants, numberOf_digits hdigit hzero]
      dsimp only
      rw [hvalue]
      rfl
  have hspace : isSpace d = false := by
    simp [isSpace, hne ' ' rfl, hne '\t' rfl, hne '\n' rfl, hne '\r' rfl]
  have hstep : step limit ⟨.value, []⟩ 0 d (d :: ds) = .error (.tooManyDigits (d :: ds).length) :=
    hbegin
  have hmark : (d :: ds).head? ≠ some '\ufeff' := by
    simpa using hne '\ufeff' rfl
  rw [readChars, if_neg hmark, run, hspace, hstep]
  rfl

end GoogIndex.Json
