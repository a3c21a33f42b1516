/-
  Proofs/Json/Halves.lean --- halves of surrogate pairs in what is read.

  Normative source: SPEC_FULL §6.

  A text may hold halves of pairs, but the reader never leaves the two halves of one pair
  side by side: it makes them one character.  Texts like these are the ones that writing and
  reading restore, so whatever was read once can be written and read again.  The induction
  over a text carries that behind a first half there is no escape of a last one, and the
  induction over a value that all the texts the machine holds are of this kind.
-/
import Mathlib.Data.List.Chain
import GoogIndex.Proofs.Json.Members

set_option autoImplicit false

namespace GoogIndex.Json

open GoogIndex.Text

variable {limit : Nat}

/-! ## Texts -/

/-- A text of which no two code points make one pair. -/
def Unsplit (s : Text) : Prop := s.toList.IsChain fun p q => ¬ p.Pairs q

instance (s : Text) : Decidable (Unsplit s) :=
  inferInstanceAs (Decidable (s.toList.IsChain fun p q => ¬ p.Pairs q))

/-- In such a text there is nothing to join. -/
theorem joinText_of_unsplit {s : Text} (h : Unsplit s) : joinText s = s := by
  refine Text.toList_inj.mp ?_
  unfold Unsplit at h
  rw [joinText, Text.toList_ofList]
  generalize s.toList = ps at h ⊢
  fun_induction joinHalves ps with
  | case1 p q rest hpairs => exact absurd hpairs (List.isChain_cons_cons.mp h).1
  | case2 p q rest _ ih => rw [ih h.tail]
  | case3 => rfl

theorem isHigh_char (c : Char) : (Point.char c).isHigh = false := by
  have := not_surrogate c
  rw [← Bool.not_eq_true, Point.isHigh, Point.toNat, Bool.and_eq_true, decide_eq_true_eq,
    decide_eq_true_eq]
  omega

theorem isLow_char (c : Char) : (Point.char c).isLow = false := by
  have := not_surrogate c
  rw [← Bool.not_eq_true, Point.isLow, Point.toNat, Bool.and_eq_true, decide_eq_true_eq,
    decide_eq_true_eq]
  omega

theorem toNat_ofNat_of_lone {n : Nat} {half : Fin 0x800} (h : Point.ofNat n = .lone half) :
    (Point.ofNat n).toNat = n := by
  unfold Point.ofNat at h ⊢
  split
  · simp only [Point.toNat]
    omega
  · rename_i hchar
    rw [dif_neg hchar] at h
    cases h

/-- Only the escape of a unit is read as half of a pair, and a first half only with no last one
behind it. -/
theorem exists_unit_of_escape {quoteOffset offset : Nat} {cs : List Char} {half : Fin 0x800}
    {used : Nat} (h : escape quoteOffset offset cs = .ok (.lone half, used)) :
    ∃ a b c d e rest n, cs = 'u' :: a :: b :: c :: d :: e :: rest ∧ unit? a b c d = some n ∧
      (Point.lone half).toNat = n ∧ used = 5 ∧
      (IsHigh n → lowUnit n (e :: rest) = .separate) := by
  cases cs with
  | nil => cases h
  | cons x cs =>
      by_cases hx : x = 'u'
      · subst hx
        obtain ⟨a, b, c, d, e, rest, n, rfl, hunit, hcases⟩ := cases_of_escape_unit h
        refine ⟨a, b, c, d, e, rest, n, rfl, hunit, ?_⟩
        rcases hcases with ⟨hhigh, hp, hused⟩ | ⟨ch, _, _, hp, _⟩ | ⟨_, hlow, hp, hused⟩
        · exact ⟨hp ▸ toNat_ofNat_of_lone hp.symm, hused, fun h => absurd h hhigh⟩
        · cases hp
        · exact ⟨hp ▸ toNat_ofNat_of_lone hp.symm, hused, fun _ => hlow⟩
      · -- the other escapes are those of characters
        unfold escape at h
        split at h
        case h_1 heq => cases heq
        case h_2 heq => exact absurd (List.cons.inj heq).1 hx
        case h_3 heq => exact absurd (List.cons.inj heq).1 hx
        all_goals cases h

/-- Two escapes one behind the other are not read as the halves of one pair. -/
theorem not_pairs_of_escapes {o₁ o₂ o₃ o₄ : Nat} {p q : Point} {cs tail : List Char}
    {used used' : Nat} (hp : escape o₁ o₂ cs = .ok (p, used)) (hcut : cs.drop used = '\\' :: tail)
    (hq : escape o₃ o₄ tail = .ok (q, used')) : ¬ p.Pairs q := by
  rintro ⟨hhigh, hlow⟩
  cases p with
  | char c =>
      rw [isHigh_char] at hhigh
      cases hhigh
  | lone high =>
      cases q with
      | char c =>
          rw [isLow_char] at hlow
          cases hlow
      | lone low =>
          obtain ⟨a, b, c, d, e, rest, n, rfl, -, hn, rfl, hseparate⟩ := exists_unit_of_escape hp
          obtain ⟨a', b', c', d', e', rest', m, rfl, hunit, hm, -⟩ := exists_unit_of_escape hq
          obtain ⟨rfl, rfl⟩ := List.cons.inj hcut
          simp only [Point.isHigh, Bool.and_eq_true, decide_eq_true_eq, hn] at hhigh
          simp only [Point.isLow, Bool.and_eq_true, decide_eq_true_eq, hm] at hlow
          have hfound := hseparate hhigh
          simp only [lowUnit, hunit] at hfound
          rw [if_pos hlow] at hfound
          cases hfound

/-- In a text that is read, no two code points make one pair. -/
theorem unsplit_of_textFrom {quoteOffset skip offset : Nat} {done : List Point} {cs : List Char}
    {s : Text} {stop : Nat} (hdone : done.IsChain fun p q => ¬ q.Pairs p)
    (hnext : ∀ p ∈ done.head?, ∀ tail o₁ o₂ q used, cs.drop skip = '\\' :: tail →
      escape o₁ o₂ tail = .ok (q, used) → ¬ p.Pairs q)
    (h : textFrom quoteOffset skip offset done cs = .ok (s, stop)) : Unsplit s := by
  induction cs generalizing skip offset done with
  | nil => cases h
  | cons c rest ih =>
      cases skip with
      | succ skip =>
          rw [textFrom] at h
          exact ih hdone hnext h
      | zero =>
          rw [textFrom] at h
          split at h
          · cases h
            exact List.isChain_reverse.mpr hdone
          · split at h
            · rename_i hback
              subst hback
              split at h
              · cases h
              · rename_i p used hescape
                refine ih (hdone.cons fun q hq => ?_) (fun q hq => ?_) h
                · exact hnext q hq rest _ _ p used rfl hescape
                · cases hq
                  intro tail o₁ o₂ q used' hcut hq
                  exact not_pairs_of_escapes hescape hcut hq
            · split at h
              · cases h
              · refine ih (hdone.cons fun q _ hpairs => ?_) (fun q hq => ?_) h
                · exact Bool.false_ne_true ((isLow_char c).symm.trans hpairs.2)
                · cases hq
                  intro _ _ _ _ _ _ _ hpairs
                  exact Bool.false_ne_true ((isHigh_char c).symm.trans hpairs.1)

theorem unsplit_of_text {offset : Nat} {cs : List Char} {s : Text} {stop : Nat}
    (h : textFrom offset 0 (offset + 1) [] cs = .ok (s, stop)) : Unsplit s :=
  unsplit_of_textFrom .nil nofun h

theorem unsplit_of_not_high {s : Text} (h : ∀ p ∈ s.toList, p.isHigh = false) : Unsplit s := by
  unfold Unsplit
  generalize s.toList = ps at h ⊢
  induction ps with
  | nil => exact .nil
  | cons p ps ih =>
      refine (ih fun q hq => h q (List.mem_cons_of_mem p hq)).cons fun q _ hpairs => ?_
      exact Bool.false_ne_true ((h p List.mem_cons_self).symm.trans hpairs.1)

/-- A text of characters has no halves at all. -/
theorem unsplit_ofString (s : String) : Unsplit s := by
  refine unsplit_of_not_high fun p hp => ?_
  obtain ⟨c, _, rfl⟩ := List.mem_map.mp hp
  exact isHigh_char c

/-! ## Values -/

mutual
/-- No text in a value has the two halves of a pair side by side. -/
def Whole : Json → Prop
  | .str s => Unsplit s
  | .arr items => WholeItems items
  | .obj members => WholeMembers members
  | _ => True

/-- All items are whole. -/
def WholeItems : List Json → Prop
  | [] => True
  | v :: rest => Whole v ∧ WholeItems rest

/-- The keys and the values of all members are whole. -/
def WholeMembers : List (Text × Json) → Prop
  | [] => True
  | (key, v) :: rest => (Unsplit key ∧ Whole v) ∧ WholeMembers rest
end

mutual
/-- A whole value is read as it was written. -/
theorem joined_of_whole {v : Json} (h : v.Whole) : v.joined = v := by
  match v, h with
  | .null, _ => rfl
  | .bool _, _ => rfl
  | .int _, _ => rfl
  | .real _, _ => rfl
  | .str s, hs => rw [joined, joinText_of_unsplit hs]
  | .arr items, hitems => rw [joined, joinedItems_of_whole hitems]
  | .obj members, hmembers => rw [joined, joinedMembers_of_whole hmembers]

theorem joinedItems_of_whole {items : List Json} (h : WholeItems items) :
    joinedItems items = items := by
  match items, h with
  | [], _ => rfl
  | v :: rest, ⟨hv, hrest⟩ => rw [joinedItems, joined_of_whole hv, joinedItems_of_whole hrest]

theorem joinedMembers_of_whole {members : List (Text × Json)} (h : WholeMembers members) :
    joinedMembers members = members := by
  match members, h with
  | [], _ => rfl
  | (k, v) :: rest, ⟨⟨hk, hv⟩, hrest⟩ =>
      rw [joinedMembers, joinText_of_unsplit hk, joined_of_whole hv, joinedMembers_of_whole hrest]
end

/-- Reading restores a whole value. -/
theorem read_write_of_whole {v : Json} (hv : Plain limit v) (hwhole : v.Whole) :
    read limit v.write = .ok v := by
  rw [read_write hv, joined_of_whole hwhole]

theorem wholeItems_iff {items : List Json} : WholeItems items ↔ ∀ v ∈ items, v.Whole := by
  induction items with
  | nil => simp [WholeItems]
  | cons v rest ih => simp [WholeItems, ih]

theorem wholeMembers_iff {members : List (Text × Json)} :
    WholeMembers members ↔ ∀ m ∈ members, Unsplit m.1 ∧ m.2.Whole := by
  induction members with
  | nil => simp [WholeMembers]
  | cons m rest ih => simp only [WholeMembers, ih, List.forall_mem_cons]

theorem whole_closeObject {members : List (Text × Json)}
    (h : ∀ m ∈ members, Unsplit m.1 ∧ m.2.Whole) : (closeObject members).Whole :=
  wholeMembers_iff.mpr fun m hm => h m (mem_of_mem_closeObject hm)

/-- Constants and numbers have no texts. -/
theorem whole_of_isScalar {v : Json} (h : v.IsScalar) : v.Whole := by
  cases v with
  | str s => cases h
  | arr items => cases h
  | obj members => cases h
  | _ => trivial

/-! ## Texts in a machine -/

/-- The texts that an open container holds. -/
def Frame.Whole : Frame → Prop
  | .array items => ∀ v ∈ items, v.Whole
  | .object members key => (∀ m ∈ members, Unsplit m.1 ∧ m.2.Whole) ∧ Unsplit key

/-- The texts that stand between the containers and the next character. -/
def Mode.Whole : Mode → Prop
  | .done v => v.Whole
  | .key members => ∀ m ∈ members, Unsplit m.1 ∧ m.2.Whole
  | .colon members name => (∀ m ∈ members, Unsplit m.1 ∧ m.2.Whole) ∧ Unsplit name
  | _ => True

/-- The texts that a machine holds. -/
structure Machine.Whole (m : Machine) : Prop where
  stack : ∀ frame ∈ m.stack, frame.Whole
  mode : m.mode.Whole

section steps

variable {offset used : Nat} {c : Char} {rest : List Char} {m m' : Machine}

theorem whole_of_begun {stack : List Frame} (hstack : ∀ frame ∈ stack, frame.Whole)
    (h : Begun limit stack offset c rest m used) : m.Whole := by
  cases h with
  | text read => exact ⟨hstack, unsplit_of_text read⟩
  | array room => exact ⟨List.forall_mem_cons.mpr ⟨nofun, hstack⟩, trivial⟩
  | object room => exact ⟨hstack, trivial⟩
  | scalar other read => exact ⟨hstack, whole_of_isScalar (isScalar_of_scalarOf read)⟩

/-- A step reads texts of this kind only. -/
theorem whole_of_step (hm : m.Whole)
    (h : step limit m offset c (c :: rest) = .ok (m', used)) : m'.Whole := by
  obtain ⟨hstack, hmode⟩ := hm
  cases step_eq_ok_iff.mp h with
  | value begins begun => rcases begins with rfl | rfl <;> exact whole_of_begun hstack begun
  | key begins quote read =>
      rcases begins with rfl | ⟨rfl, rfl⟩
      · exact ⟨hstack, hmode, unsplit_of_text read⟩
      · exact ⟨hstack, nofun, unsplit_of_text read⟩
  | colon mark => exact ⟨List.forall_mem_cons.mpr ⟨hmode, hstack⟩, trivial⟩
  | noItems mark => exact ⟨(List.forall_mem_cons.mp hstack).2, trivial⟩
  | noMembers mark => exact ⟨hstack, trivial⟩
  | @nextItem v items outer mark =>
      obtain ⟨hframe, houter⟩ := List.forall_mem_cons.mp hstack
      have hitems : ∀ w ∈ v :: items, w.Whole := List.forall_mem_cons.mpr ⟨hmode, hframe⟩
      exact ⟨List.forall_mem_cons.mpr ⟨hitems, houter⟩, trivial⟩
  | @lastItem v items outer mark =>
      obtain ⟨hframe, houter⟩ := List.forall_mem_cons.mp hstack
      have hitems : ∀ w ∈ v :: items, w.Whole := List.forall_mem_cons.mpr ⟨hmode, hframe⟩
      exact ⟨houter, wholeItems_iff.mpr fun w hw => hitems w (List.mem_reverse.mp hw)⟩
  | nextMember mark =>
      obtain ⟨⟨hmembers, hname⟩, houter⟩ := List.forall_mem_cons.mp hstack
      exact ⟨houter, List.forall_mem_cons.mpr ⟨⟨hname, hmode⟩, hmembers⟩⟩
  | lastMember mark =>
      obtain ⟨⟨hmembers, hname⟩, houter⟩ := List.forall_mem_cons.mp hstack
      exact ⟨houter, whole_closeObject (List.forall_mem_cons.mpr ⟨⟨hname, hmode⟩, hmembers⟩)⟩

end steps

theorem whole_of_run {m : Machine} {skip offset : Nat} {cs : List Char} {v : Json}
    (hm : m.Whole) (h : run limit m skip offset cs = .ok v) : v.Whole := by
  induction cs generalizing m skip offset with
  | nil =>
      rw [run] at h
      split at h <;> cases h
      rename_i hstack hmode
      have hvalue := hm.mode
      rwa [hmode] at hvalue
  | cons c rest ih =>
      cases skip with
      | succ skip =>
          rw [run] at h
          exact ih hm h
      | zero =>
          rw [run] at h
          split at h
          · exact ih hm h
          · split at h
            · cases h
            · rename_i m' used hstep
              exact ih (whole_of_step hm hstep) h

/-- A value that is read has no pair in two halves. -/
theorem whole_of_readChars {cs : List Char} {v : Json} (h : readChars limit cs = .ok v) :
    v.Whole :=
  whole_of_run (m := ⟨.value, []⟩) ⟨nofun, trivial⟩ (run_of_readChars h)

end GoogIndex.Json
