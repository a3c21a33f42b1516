/-
  Proofs/Json/Steps.lean --- everything that a step of the reader can do.

  A value begins in one of four ways, and a step is made in one of nine.  What a run keeps is
  proved by cases on these ways, with the machine before the step and the one behind it at hand,
  and without the definition of a step.
-/
import GoogIndex.Proofs.Json.RoundTrip

set_option autoImplicit false

namespace GoogIndex.Json

variable {limit : Nat}

/-! ## Beginnings -/

/-- The constant or the number at the front, and its length. -/
def scalarOf (offset : Nat) (cs : List Char) : Except RawFault (Json × Nat) :=
  match constants.find? fun k => k.1.isPrefixOf cs with
  | some (word, v) => .ok (v, word.length)
  | none =>
      match numberOf cs with
      | none => .error (.at .expectingValue offset)
      | some parts => parts.value.map fun v => (v, parts.length)

/-- A constant stands at the front; or none does, and a number stands there. -/
theorem cases_of_scalarOf {offset : Nat} {cs : List Char} {v : Json} {used : Nat}
    (h : scalarOf offset cs = .ok (v, used)) :
    (∃ word, constants.find? (fun k => k.1.isPrefixOf cs) = some (word, v) ∧
      used = word.length) ∨
    constants.find? (fun k => k.1.isPrefixOf cs) = none ∧
      ∃ parts, numberOf cs = some parts ∧ parts.value = .ok v ∧ used = parts.length := by
  unfold scalarOf at h
  split at h
  · rename_i word v hfind
    cases h
    exact .inl ⟨word, hfind, rfl⟩
  · rename_i hfind
    split at h
    · cases h
    · rename_i parts hparts
      cases hvalue : parts.value with
      | error f =>
          rw [hvalue] at h
          cases h
      | ok v =>
          rw [hvalue] at h
          cases h
          exact .inr ⟨hfind, parts, hparts, hvalue, rfl⟩

/-- A value that is neither a text nor a container. -/
def IsScalar : Json → Prop
  | .str _ => False
  | .arr _ => False
  | .obj _ => False
  | _ => True

theorem isScalar_of_scalarOf {offset : Nat} {cs : List Char} {v : Json} {used : Nat}
    (h : scalarOf offset cs = .ok (v, used)) : v.IsScalar := by
  rcases cases_of_scalarOf h with ⟨word, hfind, -⟩ | ⟨-, parts, -, hvalue, -⟩
  · have hconstants : ∀ k ∈ constants, k.2.IsScalar := by simp [constants, IsScalar]
    exact hconstants _ (List.mem_of_find?_eq_some hfind)
  · unfold NumberParts.value at hvalue
    split at hvalue
    · split at hvalue <;> cases hvalue
      trivial
    · cases hvalue
      trivial

/-- Whether a value that begins with this character is a text or a container. -/
def opensValue (c : Char) : Bool := c = '"' || c = '[' || c = '\x7b'

/-- The ways in which a value begins inside some containers. -/
inductive Begun (limit : Nat) (stack : List Frame) (offset : Nat) :
    Char → List Char → Machine → Nat → Prop
  | text {cs : List Char} {s : Text} {stop : Nat}
      (read : textFrom offset 0 (offset + 1) [] cs = .ok (s, stop)) :
      Begun limit stack offset '"' cs ⟨.done (.str s), stack⟩ (stop - offset)
  | array {cs : List Char} (room : stack.length < limit) :
      Begun limit stack offset '[' cs ⟨.firstItem, .array [] :: stack⟩ 1
  | object {cs : List Char} (room : stack.length < limit) :
      Begun limit stack offset '\x7b' cs ⟨.firstKey, stack⟩ 1
  | scalar {c : Char} {cs : List Char} {v : Json} {used : Nat} (other : opensValue c = false)
      (read : scalarOf offset (c :: cs) = .ok (v, used)) :
      Begun limit stack offset c cs ⟨.done v, stack⟩ used

theorem beginValue_scalar (stack : List Frame) (offset : Nat) {c : Char} (h : opensValue c = false)
    (cs : List Char) :
    beginValue limit stack offset (c :: cs) =
      (scalarOf offset (c :: cs)).map fun r => (⟨.done r.1, stack⟩, r.2) := by
  unfold beginValue scalarOf
  split
  case h_1 heq =>
    cases heq
    cases h
  case h_2 heq =>
    cases heq
    cases h
  case h_3 heq =>
    cases heq
    cases h
  case h_4 =>
    cases constants.find? fun k => k.1.isPrefixOf (c :: cs) with
    | some k => rfl
    | none =>
        cases numberOf (c :: cs) with
        | none => rfl
        | some parts =>
            dsimp only
            cases parts.value <;> rfl

/-- A value begins in one of these ways. -/
theorem beginValue_eq_ok_iff {stack : List Frame} {offset : Nat} {c : Char} {cs : List Char}
    {m : Machine} {used : Nat} :
    beginValue limit stack offset (c :: cs) = .ok (m, used) ↔
      Begun limit stack offset c cs m used := by
  constructor
  · intro h
    cases hopens : opensValue c with
    | false =>
        rw [beginValue_scalar stack offset hopens] at h
        cases hread : scalarOf offset (c :: cs) with
        | error f =>
            rw [hread] at h
            cases h
        | ok r =>
            rw [hread] at h
            cases h
            exact .scalar hopens hread
    | true =>
        have hc : c = '"' ∨ c = '[' ∨ c = '\x7b' := by simpa [opensValue, or_assoc] using hopens
        rcases hc with rfl | rfl | rfl
        · simp only [beginValue] at h
          cases hread : textFrom offset 0 (offset + 1) [] cs with
          | error f =>
              rw [hread] at h
              cases h
          | ok r =>
              rw [hread] at h
              cases h
              exact .text hread
        · simp only [beginValue] at h
          split at h <;> cases h
          rename_i hroom
          exact .array (Nat.lt_of_not_le hroom)
        · simp only [beginValue] at h
          split at h <;> cases h
          rename_i hroom
          exact .object (Nat.lt_of_not_le hroom)
  · intro h
    cases h with
    | text read =>
        simp only [beginValue, read]
        rfl
    | array room => exact if_neg (Nat.not_le_of_lt room)
    | object room => exact if_neg (Nat.not_le_of_lt room)
    | scalar other read =>
        rw [beginValue_scalar stack offset other, read]
        rfl

/-- A key begins with a quote. -/
theorem beginKey_eq_ok_iff {members : List (Text × Json)} {stack : List Frame} {offset : Nat}
    {c : Char} {cs : List Char} {m : Machine} {used : Nat} :
    beginKey members stack offset (c :: cs) = .ok (m, used) ↔
      c = '"' ∧ ∃ s stop, textFrom offset 0 (offset + 1) [] cs = .ok (s, stop) ∧
        m = ⟨.colon members s, stack⟩ ∧ used = stop - offset := by
  constructor
  · intro h
    unfold beginKey at h
    split at h
    · rename_i heq
      cases heq
      cases hread : textFrom offset 0 (offset + 1) [] cs with
      | error f =>
          rw [hread] at h
          cases h
      | ok r =>
          rw [hread] at h
          cases h
          exact ⟨rfl, r.1, r.2, rfl, rfl, rfl⟩
    · cases h
  · rintro ⟨rfl, s, stop, hread, rfl, rfl⟩
    simp only [beginKey, hread]
    rfl

/-! ## Steps -/

/-- The ways in which the machine goes on at a character that is not a blank. -/
inductive Stepped (limit offset : Nat) (c : Char) (cs : List Char) : Machine → Machine → Nat → Prop
  | value {m m' : Machine} {stack : List Frame} {used : Nat} (begins : m.Begins stack)
      (begun : Begun limit stack offset c cs m' used) : Stepped limit offset c cs m m' used
  | key {m : Machine} {members : List (Text × Json)} {stack : List Frame} {s : Text} {stop : Nat}
      (begins : m.BeginsKey members stack) (quote : c = '"')
      (read : textFrom offset 0 (offset + 1) [] cs = .ok (s, stop)) :
      Stepped limit offset c cs m ⟨.colon members s, stack⟩ (stop - offset)
  | colon {members : List (Text × Json)} {name : Text} {stack : List Frame} (mark : c = ':') :
      Stepped limit offset c cs ⟨.colon members name, stack⟩
        ⟨.value, .object members name :: stack⟩ 1
  | noItems {items : List Json} {outer : List Frame} (mark : c = ']') :
      Stepped limit offset c cs ⟨.firstItem, .array items :: outer⟩ ⟨.done (.arr []), outer⟩ 1
  | noMembers {outer : List Frame} (mark : c = '\x7d') :
      Stepped limit offset c cs ⟨.firstKey, outer⟩ ⟨.done (.obj []), outer⟩ 1
  | nextItem {v : Json} {items : List Json} {outer : List Frame} (mark : c = ',') :
      Stepped limit offset c cs ⟨.done v, .array items :: outer⟩
        ⟨.value, .array (v :: items) :: outer⟩ 1
  | lastItem {v : Json} {items : List Json} {outer : List Frame} (mark : c = ']') :
      Stepped limit offset c cs ⟨.done v, .array items :: outer⟩
        ⟨.done (.arr (v :: items).reverse), outer⟩ 1
  | nextMember {v : Json} {members : List (Text × Json)} {name : Text} {outer : List Frame}
      (mark : c = ',') :
      Stepped limit offset c cs ⟨.done v, .object members name :: outer⟩
        ⟨.key ((name, v) :: members), outer⟩ 1
  | lastMember {v : Json} {members : List (Text × Json)} {name : Text} {outer : List Frame}
      (mark : c = '\x7d') :
      Stepped limit offset c cs ⟨.done v, .object members name :: outer⟩
        ⟨.done (closeObject ((name, v) :: members)), outer⟩ 1

/-- No value begins with the end of a list. -/
theorem Begun.ne_close {stack : List Frame} {offset : Nat} {c : Char} {cs : List Char}
    {m : Machine} {used : Nat} (h : Begun limit stack offset c cs m used) : c ≠ ']' := by
  rintro rfl
  cases h with
  | scalar other read => cases read

/-- A step is made in one of these ways. -/
theorem step_eq_ok_iff {m m' : Machine} {offset used : Nat} {c : Char} {cs : List Char} :
    step limit m offset c (c :: cs) = .ok (m', used) ↔ Stepped limit offset c cs m m' used := by
  constructor
  · intro h
    obtain ⟨mode, stack⟩ := m
    unfold step at h
    split at h
    case h_1 heq =>
      cases heq
      exact .value (.inl rfl) (beginValue_eq_ok_iff.mp h)
    case h_2 heq =>
      cases heq
      split at h
      · rename_i hstack
        cases hstack
        cases h
        exact .noItems rfl
      · exact .value (.inr rfl) (beginValue_eq_ok_iff.mp h)
    case h_3 heq =>
      cases heq
      split at h
      · rename_i hclose
        cases h
        exact .noMembers hclose
      · obtain ⟨hquote, s, stop, hread, rfl, rfl⟩ := beginKey_eq_ok_iff.mp h
        exact .key (.inr ⟨rfl, rfl⟩) hquote hread
    case h_4 heq =>
      cases heq
      obtain ⟨hquote, s, stop, hread, rfl, rfl⟩ := beginKey_eq_ok_iff.mp h
      exact .key (.inl rfl) hquote hread
    case h_5 heq =>
      cases heq
      split at h <;> cases h
      rename_i hcolon
      exact .colon hcolon
    case h_6 heq =>
      cases heq
      split at h
      · rename_i hstack
        cases hstack
        cases h
        exact .nextItem rfl
      · rename_i hstack
        cases hstack
        cases h
        exact .lastItem rfl
      · rename_i hstack
        cases hstack
        cases h
        exact .nextMember rfl
      · rename_i hstack
        cases hstack
        cases h
        exact .lastMember rfl
      · cases h
  · intro h
    cases h with
    | value begins begun =>
        rw [step_of_begins begins offset begun.ne_close]
        exact beginValue_eq_ok_iff.mpr begun
    | key begins quote read =>
        rw [step_of_beginsKey begins offset (by rw [quote]; decide)]
        exact beginKey_eq_ok_iff.mpr ⟨quote, _, _, read, rfl, rfl⟩
    | colon mark => exact if_pos mark
    | noMembers mark => exact if_pos mark
    | noItems mark | nextItem mark | lastItem mark | nextMember mark | lastMember mark =>
        subst mark
        rfl

end GoogIndex.Json
