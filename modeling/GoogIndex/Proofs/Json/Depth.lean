/-
  Proofs/Json/Depth.lean --- the nesting of a value that was read.

  A container of a value was opened by a bracket of its text, so a value nests no deeper
  than its text has brackets.  The induction goes over the text and carries that whatever
  the machine holds fits below the bound at the place where it stands: what an open
  container holds is that much deeper as there are containers open around it.
-/
import GoogIndex.Proofs.Json.Limits
import GoogIndex.Proofs.Json.Members

set_option autoImplicit false

namespace GoogIndex.Json

variable {limit : Nat}

/-! ## Nesting of parts -/

theorem itemsDepth_le_iff {items : List Json} {n : Nat} :
    itemsDepth items ≤ n ↔ ∀ v ∈ items, v.depth ≤ n := by
  induction items with
  | nil => simp [itemsDepth]
  | cons v rest ih => simp [itemsDepth, Nat.max_le, ih]

theorem membersDepth_le_iff {members : List (Text × Json)} {n : Nat} :
    membersDepth members ≤ n ↔ ∀ m ∈ members, m.2.depth ≤ n := by
  induction members with
  | nil => simp [membersDepth]
  | cons m rest ih => simp [membersDepth, Nat.max_le, ih]

/-- A member nests less deep than its object. -/
theorem depth_lt_of_member? {members : List (Text × Json)} {key : Text} {v : Json}
    (h : member? members key = some v) : v.depth < (Json.obj members).depth :=
  Nat.lt_succ_of_le (membersDepth_le_iff.mp (Nat.le_refl _) _ (mem_of_member? h))

theorem depth_closeObject_le {n : Nat} {members : List (Text × Json)}
    (h : ∀ m ∈ members, m.2.depth ≤ n) : (closeObject members).depth ≤ n + 1 :=
  Nat.succ_le_succ (membersDepth_le_iff.mpr fun m hm => h m (mem_of_mem_closeObject hm))

/-- Constants and numbers nest nothing. -/
theorem depth_of_isScalar {v : Json} (h : v.IsScalar) : v.depth = 0 := by
  cases v with
  | str s => cases h
  | arr items => cases h
  | obj members => cases h
  | _ => rfl

/-! ## Nesting in a machine -/

/-- What a container holds fits below a bound, where so many containers are open with it. -/
def Frame.Within (bound level : Nat) : Frame → Prop
  | .array items => ∀ v ∈ items, v.depth + level ≤ bound
  | .object members _ => ∀ m ∈ members, m.2.depth + level ≤ bound

/-- What the open containers hold fits below a bound. -/
def StackWithin (bound : Nat) : List Frame → Prop
  | [] => True
  | frame :: outer => frame.Within bound (outer.length + 1) ∧ StackWithin bound outer

/-- What stands between the containers and the next character fits below a bound. -/
def Mode.Within (bound level : Nat) : Mode → Prop
  | .done v => v.depth + level ≤ bound
  | .key members => ∀ m ∈ members, m.2.depth + (level + 1) ≤ bound
  | .colon members _ => ∀ m ∈ members, m.2.depth + (level + 1) ≤ bound
  | _ => True

/-- Everything that a machine holds fits below a bound. -/
structure Machine.Within (bound : Nat) (m : Machine) : Prop where
  stack : StackWithin bound m.stack
  mode : m.mode.Within bound m.stack.length

section steps

variable {bound offset used : Nat} {c : Char} {rest : List Char} {m m' : Machine}

theorem within_of_begun {stack : List Frame} (hstack : StackWithin bound stack)
    (hroom : stack.length ≤ bound) (h : Begun limit stack offset c rest m used) :
    m.Within bound := by
  cases h with
  | text read => exact ⟨hstack, by simpa [Mode.Within, depth] using hroom⟩
  | array room => exact ⟨⟨by simp [Frame.Within], hstack⟩, trivial⟩
  | object room => exact ⟨hstack, trivial⟩
  | scalar other read =>
      refine ⟨hstack, ?_⟩
      rw [Mode.Within, depth_of_isScalar (isScalar_of_scalarOf read), Nat.zero_add]
      exact hroom

/-- A step keeps everything below the bound, if there is room for the containers. -/
theorem within_of_step (hm : m.Within bound) (hroom : m.opened ≤ bound)
    (h : step limit m offset c (c :: rest) = .ok (m', used)) : m'.Within bound := by
  have hlength : m.stack.length ≤ bound := Nat.le_trans (Nat.le_add_right _ _) hroom
  obtain ⟨hstack, hmode⟩ := hm
  cases step_eq_ok_iff.mp h with
  | value begins begun =>
      rcases begins with rfl | rfl <;> exact within_of_begun hstack hlength begun
  | key begins quote read =>
      rcases begins with rfl | ⟨rfl, rfl⟩
      · exact ⟨hstack, hmode⟩
      · exact ⟨hstack, by simp [Mode.Within]⟩
  | colon mark => exact ⟨⟨hmode, hstack⟩, trivial⟩
  | noItems mark =>
      refine ⟨hstack.2, ?_⟩
      simpa [Mode.Within, depth, itemsDepth, Nat.add_comm] using hlength
  | noMembers mark =>
      refine ⟨hstack, ?_⟩
      simpa [Mode.Within, depth, membersDepth, Machine.opened, Nat.add_comm] using hroom
  | nextItem mark =>
      obtain ⟨hframe, houter⟩ := hstack
      exact ⟨⟨List.forall_mem_cons.mpr ⟨hmode, hframe⟩, houter⟩, trivial⟩
  | @lastItem v items outer mark =>
      obtain ⟨hframe, houter⟩ := hstack
      refine ⟨houter, ?_⟩
      have hall : ∀ w ∈ v :: items, w.depth + (outer.length + 1) ≤ bound :=
        List.forall_mem_cons.mpr ⟨hmode, hframe⟩
      have hitems : itemsDepth (v :: items).reverse ≤ bound - (outer.length + 1) :=
        itemsDepth_le_iff.mpr fun w hw => Nat.le_sub_of_add_le (hall w (List.mem_reverse.mp hw))
      rw [List.length_cons] at hlength
      show itemsDepth (v :: items).reverse + 1 + outer.length ≤ bound
      omega
  | nextMember mark =>
      obtain ⟨hframe, houter⟩ := hstack
      exact ⟨houter, List.forall_mem_cons.mpr ⟨hmode, hframe⟩⟩
  | @lastMember v members name outer mark =>
      obtain ⟨hframe, houter⟩ := hstack
      refine ⟨houter, ?_⟩
      have hall : ∀ m ∈ (name, v) :: members, m.2.depth + (outer.length + 1) ≤ bound :=
        List.forall_mem_cons.mpr ⟨hmode, hframe⟩
      have hmembers : (closeObject ((name, v) :: members)).depth ≤
          bound - (outer.length + 1) + 1 :=
        depth_closeObject_le fun m hm => Nat.le_sub_of_add_le (hall m hm)
      rw [List.length_cons] at hlength
      show (closeObject ((name, v) :: members)).depth + outer.length ≤ bound
      omega

end steps

/-- A run keeps everything below the bound, if there is room for the containers that the text may
open. -/
theorem depth_le_of_run {bound : Nat} {m : Machine} {skip offset : Nat} {cs : List Char} {v : Json}
    (hm : m.Within bound) (hroom : m.opened + cs.countP isBracket ≤ bound)
    (h : run limit m skip offset cs = .ok v) : v.depth ≤ bound := by
  induction cs generalizing m skip offset with
  | nil =>
      rw [run] at h
      split at h <;> cases h
      rename_i hmode hstack
      have hvalue := hm.mode
      rw [hmode, hstack] at hvalue
      exact hvalue
  | cons c rest ih =>
      rw [List.countP_cons] at hroom
      cases skip with
      | succ skip =>
          rw [run] at h
          exact ih hm (by omega) h
      | zero =>
          rw [run] at h
          split at h
          · exact ih hm (by omega) h
          · split at h
            · cases h
            · rename_i m' used hstep
              have hopened := opened_of_step hstep
              exact ih (within_of_step hm (by omega) hstep) (by omega) h

/-- A value nests no deeper than its text has brackets. -/
theorem depth_le_countP {cs : List Char} {v : Json} (h : readChars limit cs = .ok v) :
    v.depth ≤ cs.countP isBracket :=
  depth_le_of_run (m := ⟨.value, []⟩) ⟨trivial, trivial⟩ (by simp [Machine.opened])
    (run_of_readChars h)

end GoogIndex.Json
