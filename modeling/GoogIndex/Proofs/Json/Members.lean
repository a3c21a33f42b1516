/-
  Proofs/Json/Members.lean --- the members of an object, as its text lists them.

  A text that is read as an object is a list of members between braces, each with a text for its
  key and a text for its value.  Read on its own, each of these texts is that key or that value.
  Of members with the same key the object has one, at the place of the first and with the value
  of the last.
-/
import GoogIndex.Proofs.Json.Front

set_option autoImplicit false

namespace GoogIndex.Json

variable {limit : Nat}

/-! ## Complete values -/

theorem run_complete (v : Json) (skip offset : Nat) :
    run limit ⟨.done v, []⟩ skip offset [] = .ok v := by
  cases skip <;> rfl

/-- Characters that are accounted for are dropped. -/
theorem run_drop (m : Machine) {skip : Nat} (offset : Nat) {cs : List Char}
    (h : skip ≤ cs.length) :
    run limit m skip offset cs = run limit m 0 (offset + skip) (cs.drop skip) := by
  have hskip : run limit m _ offset _ = _ := run_skip m (cs.take skip) (cs.drop skip) offset
  rwa [List.take_append_drop, List.length_take, Nat.min_eq_left h] at hskip

/-- A run inside some containers completes a value in front of whatever it does with them, and
the text up to there is read as that value on its own. -/
theorem split_run {m : Machine} {outer : List Frame} {skip offset : Nat} {cs : List Char} {w : Json}
    (hopen : m.Opened) (hskip : skip ≤ cs.length)
    (h : run limit (m.inside outer) skip offset cs = .ok w) :
    ∃ piece rest v, cs = piece ++ rest ∧ skip ≤ piece.length ∧
      (∀ offset', run limit m skip offset' piece = .ok v) ∧
      run limit ⟨.done v, outer⟩ 0 (offset + piece.length) rest = .ok w := by
  induction cs generalizing m skip offset with
  | nil =>
      obtain rfl : skip = 0 := Nat.le_zero.mp hskip
      obtain ⟨mode, stack⟩ := m
      have hend := h
      rw [run] at hend
      split at hend
      · rename_i v hmode hstack
        cases hmode
        obtain ⟨rfl, rfl⟩ := List.append_eq_nil_iff.mp hstack
        exact ⟨[], [], v, rfl, Nat.le_refl 0, run_complete v 0, h⟩
      · cases hend
  | cons c rest ih =>
      cases skip with
      | succ skip =>
          rw [run] at h
          obtain ⟨piece, rest, v, rfl, hlong, hpiece, hrest⟩ :=
            ih hopen (Nat.le_of_succ_le_succ hskip) h
          refine ⟨c :: piece, rest, v, rfl, Nat.succ_le_succ hlong, fun offset' => ?_, ?_⟩
          · rw [run]
            exact hpiece (offset' + 1)
          · rw [List.length_cons, Nat.add_comm piece.length, ← Nat.add_assoc]
            exact hrest
      | zero =>
          by_cases hcomplete : ∃ v, m.Complete v
          · obtain ⟨v, rfl⟩ := hcomplete
            exact ⟨[], c :: rest, v, rfl, Nat.le_refl 0, run_complete v 0, h⟩
          rw [run] at h
          split at h
          · rename_i hspace
            obtain ⟨piece, rest, v, rfl, -, hpiece, hrest⟩ := ih hopen (Nat.zero_le _) h
            refine ⟨c :: piece, rest, v, rfl, Nat.zero_le _, fun offset' => ?_, ?_⟩
            · rw [run, if_pos hspace]
              exact hpiece (offset' + 1)
            · rw [List.length_cons, Nat.add_comm piece.length, ← Nat.add_assoc]
              exact hrest
          · rename_i hspace
            split at h
            · cases h
            · rename_i m' used hstep
              obtain ⟨m'', hinner, rfl, hopen'⟩ :=
                step_inside hopen (fun v hv => hcomplete ⟨v, hv⟩) hstep
              have hused := used_of_step hinner
              obtain ⟨piece, rest, v, rfl, hlong, hpiece, hrest⟩ := ih hopen' (by omega) h
              refine ⟨c :: piece, rest, v, rfl, Nat.zero_le _, fun offset' => ?_, ?_⟩
              · rw [run, if_neg hspace, step_front hinner (by omega) offset']
                exact hpiece (offset' + 1)
              · rw [List.length_cons, Nat.add_comm piece.length, ← Nat.add_assoc]
                exact hrest

/-- A text that begins with a byte order mark is no value. -/
theorem not_begun_mark (rest : List Char) (m : Machine) (used : Nat) :
    ¬ Begun limit [] 0 '\ufeff' rest m used := by
  intro h
  cases h with
  | scalar other read =>
      have hconstants : constants.find? (fun k => k.1.isPrefixOf ('\ufeff' :: rest)) = none := by
        simp [constants, List.isPrefixOf]
      have hdigits : wholeOf ('\ufeff' :: rest) = [] := by
        simp [wholeOf, digitsOf]
      have hnumber : numberOf ('\ufeff' :: rest) = none := by
        rw [numberOf_of_signed (signed_of_ne (by decide) rest), hdigits]
        rfl
      rw [scalarOf, hconstants] at read
      simp only [hnumber] at read
      cases read

/-- A text that the machine reads whole is a value. -/
theorem readChars_of_run {cs : List Char} {v : Json} (h : run limit ⟨.value, []⟩ 0 0 cs = .ok v) :
    readChars limit cs = .ok v := by
  have hmark : cs.head? ≠ some '\ufeff' := by
    intro hhead
    obtain ⟨rest, rfl⟩ := List.head?_eq_some_iff.mp hhead
    rw [run, if_neg (by decide)] at h
    split at h
    · cases h
    · rename_i m used hstep
      have hbegun : Begun limit [] 0 '\ufeff' rest m used := beginValue_eq_ok_iff.mp hstep
      exact not_begun_mark rest m used hbegun
  rw [readChars, if_neg hmark, h]

theorem run_of_readChars {cs : List Char} {v : Json} (h : readChars limit cs = .ok v) :
    run limit ⟨.value, []⟩ 0 0 cs = .ok v := by
  unfold readChars at h
  split at h
  · cases h
  · split at h
    · rename_i hrun
      cases h
      exact hrun
    · cases h

/-! ## Blanks and keys -/

/-- A text of blanks only. -/
def Blank (cs : List Char) : Prop := ∀ c ∈ cs, isSpace c = true

/-- A run passes over the blanks in front. -/
theorem exists_blank_of_run {m : Machine} {offset : Nat} {cs : List Char} {w : Json}
    (h : run limit m 0 offset cs = .ok w) :
    ∃ gap rest, cs = gap ++ rest ∧ Blank gap ∧ (∀ c, rest.head? = some c → isSpace c = false) ∧
      run limit m 0 (offset + gap.length) rest = .ok w := by
  induction cs generalizing offset with
  | nil => exact ⟨[], [], rfl, fun _ hc => absurd hc List.not_mem_nil, fun _ hc => (by cases hc), h⟩
  | cons c rest ih =>
      cases hspace : isSpace c with
      | true =>
          rw [run, if_pos hspace] at h
          obtain ⟨gap, rest, rfl, hgap, hhead, hrun⟩ := ih h
          refine ⟨c :: gap, rest, rfl, List.forall_mem_cons.mpr ⟨hspace, hgap⟩, hhead, ?_⟩
          rw [List.length_cons, Nat.add_comm gap.length, ← Nat.add_assoc]
          exact hrun
      | false =>
          refine ⟨[], c :: rest, rfl, fun _ hc => absurd hc List.not_mem_nil, ?_, h⟩
          intro d hd
          cases hd
          exact hspace

/-- A text literal in front is read as its text on its own. -/
theorem readChars_text {offset : Nat} {front rest : List Char} {s : Text} {stop : Nat}
    (h : textFrom offset 0 (offset + 1) [] (front ++ rest) = .ok (s, stop))
    (hlength : stop = offset + 1 + front.length) :
    readChars limit ('"' :: front) = .ok (.str s) := by
  obtain ⟨stop', hread, hused⟩ := exists_textFrom_front h (by omega) 0
  refine readChars_of_run ?_
  have hstep : step limit ⟨.value, []⟩ 0 '"' ('"' :: (front ++ [])) =
      .ok (⟨.done (.str s), []⟩, front.length + 1) := by
    have hlong : front.length + 1 = stop' - 0 := by omega
    rw [hlong]
    have hbegun : Begun limit [] 0 '"' (front ++ []) _ _ :=
      .text (by rw [List.append_nil]; exact hread)
    exact beginValue_eq_ok_iff.mpr hbegun
  have hrun := run_of_step front (by decide) hstep
  rw [List.append_nil] at hrun
  rw [hrun]
  rfl

/-- A machine that begins a key reads a text for it. -/
theorem exists_key_of_run {m : Machine} {members : List (Text × Json)} {offset : Nat} {c : Char}
    {cs : List Char} {w : Json} (hspace : isSpace c = false)
    (hbegin : step limit m offset c (c :: cs) = beginKey members [] offset (c :: cs))
    (h : run limit m 0 offset (c :: cs) = .ok w) :
    ∃ keyText rest key, c :: cs = keyText ++ rest ∧ readChars limit keyText = .ok (.str key) ∧
      run limit ⟨.colon members key, []⟩ 0 (offset + keyText.length) rest = .ok w := by
  rw [run, if_neg (by rw [hspace]; exact Bool.false_ne_true), hbegin] at h
  split at h
  · cases h
  · rename_i m' used hstep
    obtain ⟨rfl, key, stop, hread, rfl, rfl⟩ := beginKey_eq_ok_iff.mp hstep
    have hstop := stop_of_textFrom hread
    -- the text covers so many characters behind its first quote
    have hcut : cs = cs.take (stop - offset - 1) ++ cs.drop (stop - offset - 1) :=
      (List.take_append_drop _ cs).symm
    have hlength : (cs.take (stop - offset - 1)).length = stop - offset - 1 := by
      rw [List.length_take]
      omega
    refine ⟨'"' :: cs.take (stop - offset - 1), cs.drop (stop - offset - 1), key,
      by rw [List.cons_append, ← hcut], ?_, ?_⟩
    · rw [hcut] at hread
      exact readChars_text hread (by omega)
    · rw [run_drop _ _ (by omega)] at h
      rw [List.length_cons, hlength, Nat.add_comm (stop - offset - 1) 1, ← Nat.add_assoc]
      exact h

/-! ## Members -/

/-- A text for one member: a text for its key, a colon, and a text for its value. -/
inductive MemberText (limit : Nat) : List Char → Text → Json → Prop
  | intro {lead keyText gap valueText tail : List Char} {key : Text} {v : Json}
      (lead_blank : Blank lead) (gap_blank : Blank gap) (tail_blank : Blank tail)
      (key_read : readChars limit keyText = .ok (.str key))
      (value_read : readChars limit valueText = .ok v) :
      MemberText limit (lead ++ (keyText ++ (gap ++ ':' :: (valueText ++ tail)))) key v

/-- A text for members up to the brace behind the last of them. -/
inductive MembersText (limit : Nat) : List Char → List (Text × Json) → Prop
  | last {text tail : List Char} {key : Text} {v : Json} (member : MemberText limit text key v)
      (tail_blank : Blank tail) : MembersText limit (text ++ '\x7d' :: tail) [(key, v)]
  | more {text rest : List Char} {key : Text} {v : Json} {members : List (Text × Json)}
      (member : MemberText limit text key v) (others : MembersText limit rest members) :
      MembersText limit (text ++ ',' :: rest) ((key, v) :: members)

/-- A text for an object, with its members as they are written. -/
inductive ObjectText (limit : Nat) : List Char → List (Text × Json) → Prop
  | empty {lead gap tail : List Char} (lead_blank : Blank lead) (gap_blank : Blank gap)
      (tail_blank : Blank tail) :
      ObjectText limit (lead ++ '\x7b' :: (gap ++ '\x7d' :: tail)) []
  | members {lead text : List Char} {members : List (Text × Json)} (lead_blank : Blank lead)
      (listed : MembersText limit text members) : ObjectText limit (lead ++ '\x7b' :: text) members

/-- Behind a complete value there are only blanks. -/
theorem blank_of_run {v w : Json} {offset : Nat} {cs : List Char}
    (h : run limit ⟨.done v, []⟩ 0 offset cs = .ok w) : Blank cs ∧ w = v := by
  obtain ⟨gap, rest, rfl, hgap, hhead, hrun⟩ := exists_blank_of_run h
  cases rest with
  | nil =>
      cases hrun
      rw [List.append_nil]
      exact ⟨hgap, rfl⟩
  | cons c rest =>
      rw [run, if_neg (by rw [hhead c rfl]; exact Bool.false_ne_true)] at hrun
      have hstep : step limit ⟨.done v, []⟩ (offset + gap.length) c (c :: rest) =
          .error (.at .extraData (offset + gap.length)) := by
        unfold step
        split <;> simp_all [Machine.problem]
      rw [hstep] at hrun
      cases hrun

/-- Behind a key stand a colon and a value. -/
theorem exists_value_of_run {members : List (Text × Json)} {key : Text} {offset : Nat}
    {cs : List Char} {w : Json} (h : run limit ⟨.colon members key, []⟩ 0 offset cs = .ok w) :
    ∃ gap valueText rest v offset', cs = gap ++ ':' :: (valueText ++ rest) ∧ Blank gap ∧
      readChars limit valueText = .ok v ∧
      run limit ⟨.done v, [.object members key]⟩ 0 offset' rest = .ok w := by
  obtain ⟨gap, rest, rfl, hgap, hhead, hrun⟩ := exists_blank_of_run h
  cases rest with
  | nil => cases hrun
  | cons c rest =>
      rw [run, if_neg (by rw [hhead c rfl]; exact Bool.false_ne_true)] at hrun
      by_cases hc : c = ':'
      · subst hc
        have hinside : run limit ((⟨.value, []⟩ : Machine).inside [.object members key]) 0
            (offset + gap.length + 1) rest = .ok w := hrun
        obtain ⟨valueText, rest, v, rfl, -, hvalue, hrest⟩ :=
          split_run Mode.noConfusion (Nat.zero_le _) hinside
        exact ⟨gap, valueText, rest, v, _, rfl, hgap, readChars_of_run (hvalue 0), hrest⟩
      · have hstep : step limit ⟨.colon members key, []⟩ (offset + gap.length) c (c :: rest) =
            .error (.at .expectingColon (offset + gap.length)) := if_neg hc
        rw [hstep] at hrun
        cases hrun

/-- A machine that begins a key behind some blanks reads one member. -/
theorem exists_member_of_run {m : Machine} {members : List (Text × Json)} {offset : Nat}
    {lead : List Char} {c : Char} {cs : List Char} {w : Json} (hlead : Blank lead)
    (hspace : isSpace c = false)
    (hbegin : step limit m offset c (c :: cs) = beginKey members [] offset (c :: cs))
    (h : run limit m 0 offset (c :: cs) = .ok w) :
    ∃ text rest key v offset', lead ++ c :: cs = text ++ rest ∧ MemberText limit text key v ∧
      (∀ c, rest.head? = some c → isSpace c = false) ∧
      run limit ⟨.done v, [.object members key]⟩ 0 offset' rest = .ok w := by
  obtain ⟨keyText, rest, key, hcut, hkey, hcolon⟩ := exists_key_of_run hspace hbegin h
  obtain ⟨gap, valueText, rest, v, offset', rfl, hgap, hvalue, hdone⟩ := exists_value_of_run hcolon
  obtain ⟨tail, rest, rfl, htail, hhead, hrest⟩ := exists_blank_of_run hdone
  refine ⟨_, rest, key, v, _, ?_, .intro hlead hgap htail hkey hvalue, hhead, hrest⟩
  rw [hcut]
  simp only [List.append_assoc, List.cons_append]

/-- Behind a member comes another one, or the object ends. -/
theorem cases_of_run_done {members : List (Text × Json)} {key : Text} {v w : Json}
    {offset : Nat} {cs : List Char} (hhead : ∀ c, cs.head? = some c → isSpace c = false)
    (h : run limit ⟨.done v, [.object members key]⟩ 0 offset cs = .ok w) :
    (∃ rest, cs = ',' :: rest ∧
      run limit ⟨.key ((key, v) :: members), []⟩ 0 (offset + 1) rest = .ok w) ∨
      ∃ tail, cs = '\x7d' :: tail ∧ Blank tail ∧ w = ofMembers (members.reverse ++ [(key, v)]) := by
  cases cs with
  | nil => cases h
  | cons c rest =>
      rw [run, if_neg (by rw [hhead c rfl]; exact Bool.false_ne_true)] at h
      by_cases hcomma : c = ','
      · subst hcomma
        exact .inl ⟨rest, rfl, h⟩
      · by_cases hbrace : c = '\x7d'
        · subst hbrace
          obtain ⟨htail, rfl⟩ := blank_of_run h
          refine .inr ⟨rest, rfl, htail, ?_⟩
          rw [closeObject, List.reverse_cons]
        · have hstep : step limit ⟨.done v, [.object members key]⟩ offset c (c :: rest) =
              .error (.at .expectingComma offset) := by
            unfold step
            split <;> simp_all [Machine.problem]
          rw [hstep] at h
          cases h

/-- What is read as the members of an object is a text for members. -/
theorem exists_members_of_run {m : Machine} {members : List (Text × Json)} {offset : Nat}
    {lead : List Char} {c : Char} {cs : List Char} {w : Json} (hlead : Blank lead)
    (hspace : isSpace c = false)
    (hbegin : step limit m offset c (c :: cs) = beginKey members [] offset (c :: cs))
    (h : run limit m 0 offset (c :: cs) = .ok w) :
    ∃ written, MembersText limit (lead ++ c :: cs) written ∧
      w = ofMembers (members.reverse ++ written) := by
  -- every member takes a part of the text, so the text that is left gets shorter
  induction hlong : (lead ++ c :: cs).length using Nat.strongRecOn
    generalizing m members offset lead c cs with
  | ind n ih =>
      obtain ⟨text, rest, key, v, offset', hcut, hmember, hhead, hdone⟩ :=
        exists_member_of_run hlead hspace hbegin h
      rw [hcut]
      rcases cases_of_run_done hhead hdone with ⟨rest, rfl, hnext⟩ | ⟨tail, rfl, htail, rfl⟩
      · obtain ⟨lead', rest, rfl, hlead', hhead', hrun⟩ := exists_blank_of_run hnext
        cases rest with
        | nil => cases hrun
        | cons d rest =>
            have hshort : (lead' ++ d :: rest).length < n := by
              have hlength := congrArg List.length hcut
              simp only [List.length_append, List.length_cons] at hlength hlong ⊢
              omega
            obtain ⟨written, hwritten, rfl⟩ := ih _ hshort hlead' (hhead' d rfl) rfl hrun rfl
            refine ⟨(key, v) :: written, .more hmember hwritten, ?_⟩
            rw [List.reverse_cons, List.append_assoc, List.singleton_append]
      · exact ⟨[(key, v)], .last hmember htail, rfl⟩

/-! ## Objects -/

/-- What is read inside a list becomes a list. -/
theorem exists_arr_of_run {items : List Json} {offset : Nat} {cs : List Char} {w : Json}
    (h : run limit ⟨.value, [.array items]⟩ 0 offset cs = .ok w) : ∃ all, w = .arr all := by
  induction hlong : cs.length using Nat.strongRecOn generalizing items offset cs with
  | ind n ih =>
      have hinside :
          run limit ((⟨.value, []⟩ : Machine).inside [.array items]) 0 offset cs = .ok w := h
      obtain ⟨piece, rest, v, rfl, -, -, hdone⟩ :=
        split_run Mode.noConfusion (Nat.zero_le _) hinside
      obtain ⟨gap, rest, rfl, -, hhead, hrun⟩ := exists_blank_of_run hdone
      cases rest with
      | nil => cases hrun
      | cons c rest =>
          rw [run, if_neg (by rw [hhead c rfl]; exact Bool.false_ne_true)] at hrun
          by_cases hcomma : c = ','
          · subst hcomma
            refine ih rest.length ?_ hrun rfl
            simp only [List.length_append, List.length_cons] at hlong
            omega
          · by_cases hbracket : c = ']'
            · subst hbracket
              exact ⟨_, (blank_of_run hrun).2⟩
            · have hstep :
                  step limit ⟨.done v, [.array items]⟩ (offset + piece.length + gap.length) c
                    (c :: rest) =
                      .error (.at .expectingComma (offset + piece.length + gap.length)) := by
                unfold step
                split <;> simp_all [Machine.problem]
              rw [hstep] at hrun
              cases hrun

/-- A text that begins with a bracket is a list. -/
theorem exists_arr_of_firstItem {offset : Nat} {cs : List Char} {w : Json}
    (h : run limit ⟨.firstItem, [.array []]⟩ 0 offset cs = .ok w) : ∃ all, w = .arr all := by
  obtain ⟨gap, rest, rfl, -, hhead, hrun⟩ := exists_blank_of_run h
  cases rest with
  | nil => cases hrun
  | cons c rest =>
      have hspace : ¬ isSpace c = true := by
        rw [hhead c rfl]
        exact Bool.false_ne_true
      by_cases hbracket : c = ']'
      · subst hbracket
        rw [run, if_neg hspace] at hrun
        exact ⟨_, (blank_of_run hrun).2⟩
      · have hvalue :
            run limit ⟨.value, [.array []]⟩ 0 (offset + gap.length) (c :: rest) = .ok w := by
          rw [run, if_neg hspace, step_of_begins (.inr rfl) _ hbracket] at hrun
          rw [run, if_neg hspace]
          exact hrun
        exact exists_arr_of_run hvalue

/-- A text that is read as an object is a text for an object, whose members make it up. -/
theorem objectText_of_readChars {cs : List Char} {members : List (Text × Json)}
    (h : readChars limit cs = .ok (.obj members)) :
    ∃ written, ObjectText limit cs written ∧ ofMembers written = .obj members := by
  obtain ⟨lead, rest, rfl, hlead, hhead, hrun⟩ := exists_blank_of_run (run_of_readChars h)
  cases rest with
  | nil => cases hrun
  | cons c rest =>
      have hspace := hhead c rfl
      rw [run, if_neg (by rw [hspace]; exact Bool.false_ne_true)] at hrun
      split at hrun
      · cases hrun
      · rename_i m used hstep
        have hbegun := beginValue_eq_ok_iff.mp hstep
        have hused := used_of_begun hbegun
        -- only a brace begins what becomes an object
        cases hbegun with
        | text read =>
            rw [run_drop _ _ (by omega)] at hrun
            cases (blank_of_run hrun).2
        | array room =>
            obtain ⟨all, hall⟩ := exists_arr_of_firstItem hrun
            cases hall
        | object room =>
            obtain ⟨gap, rest, rfl, hgap, hhead', hkey⟩ := exists_blank_of_run hrun
            cases rest with
            | nil => cases hkey
            | cons d rest =>
                by_cases hbrace : d = '\x7d'
                · subst hbrace
                  rw [run, if_neg (by decide)] at hkey
                  obtain ⟨htail, hobj⟩ := blank_of_run hkey
                  refine ⟨[], .empty hlead hgap htail, ?_⟩
                  rw [hobj]
                  rfl
                · obtain ⟨written, hwritten, hobj⟩ :=
                    exists_members_of_run hgap (hhead' d rfl)
                      (step_of_beginsKey (.inr ⟨rfl, rfl⟩) _ hbrace _) hkey
                  exact ⟨written, .members hlead hwritten, hobj.symm⟩
        | scalar other read =>
            rw [run_drop _ _ (by omega)] at hrun
            have hscalar := isScalar_of_scalarOf read
            rw [← (blank_of_run hrun).2] at hscalar
            exact hscalar.elim

theorem exists_valueText_of_memberText {text : List Char} {key : Text} {v : Json}
    (h : MemberText limit text key v) :
    ∃ valueText, valueText <:+: text ∧ readChars limit valueText = .ok v := by
  cases h with
  | @intro lead keyText gap valueText tail key v _ _ _ _ value_read =>
      refine ⟨valueText, ⟨lead ++ keyText ++ gap ++ [':'], tail, ?_⟩, value_read⟩
      simp only [List.append_assoc, List.cons_append, List.nil_append]

theorem exists_valueText_of_membersText {text : List Char} {written : List (Text × Json)}
    (h : MembersText limit text written) {key : Text} {v : Json} (hmem : (key, v) ∈ written) :
    ∃ valueText, valueText <:+: text ∧ readChars limit valueText = .ok v := by
  induction h with
  | last member tail_blank =>
      cases List.mem_singleton.mp hmem
      obtain ⟨valueText, hin, hread⟩ := exists_valueText_of_memberText member
      exact ⟨valueText, hin.trans (List.prefix_append _ _).isInfix, hread⟩
  | @more text rest key v members member others ih =>
      rcases List.mem_cons.mp hmem with heq | hmem
      · cases heq
        obtain ⟨valueText, hin, hread⟩ := exists_valueText_of_memberText member
        exact ⟨valueText, hin.trans (List.prefix_append _ _).isInfix, hread⟩
      · obtain ⟨valueText, hin, hread⟩ := ih hmem
        have hrest : rest <:+ text ++ ',' :: rest :=
          (List.suffix_cons ',' rest).trans (List.suffix_append text _)
        exact ⟨valueText, hin.trans hrest.isInfix, hread⟩

/-- The value of a member stands in the text for the object. -/
theorem exists_valueText_of_mem {cs : List Char} {written : List (Text × Json)}
    (h : ObjectText limit cs written) {key : Text} {v : Json} (hmem : (key, v) ∈ written) :
    ∃ valueText, valueText <:+: cs ∧ readChars limit valueText = .ok v := by
  cases h with
  | empty lead_blank gap_blank tail_blank => cases hmem
  | @members lead text written lead_blank listed =>
      obtain ⟨valueText, hin, hread⟩ := exists_valueText_of_membersText listed hmem
      have hrest : text <:+ lead ++ '\x7b' :: text :=
        (List.suffix_cons '\x7b' text).trans (List.suffix_append lead _)
      exact ⟨valueText, hin.trans hrest.isInfix, hread⟩

/-! ## Repeated keys -/

/-- The keys of members. -/
def keysOf (members : List (Text × Json)) : List Text := members.map (·.1)

theorem keysOf_putMember (key : Text) (v : Json) (members : List (Text × Json)) :
    keysOf (putMember key v members) =
      if key ∈ keysOf members then keysOf members else keysOf members ++ [key] := by
  by_cases hmem : key ∈ keysOf members
  · rw [if_pos hmem]
    induction members with
    | nil => cases hmem
    | cons m members ih =>
        by_cases hkey : m.1 = key
        · simp [keysOf, putMember, hkey]
        · have hrest : key ∈ keysOf members := by
            simpa [keysOf, Ne.symm hkey] using hmem
          have hkeys := ih hrest
          simp only [keysOf, putMember, hkey, if_false, List.map_cons] at hkeys ⊢
          rw [hkeys]
  · rw [if_neg hmem, putMember_of_not_mem v hmem, keysOf, List.map_append]
    rfl

theorem member?_cons (m : Text × Json) (members : List (Text × Json)) (key : Text) :
    member? (m :: members) key = if m.1 = key then some m.2 else member? members key := by
  by_cases h : m.1 = key <;> simp [member?, h]

theorem member?_putMember (key other : Text) (v : Json) (members : List (Text × Json)) :
    member? (putMember key v members) other =
      if key = other then some v else member? members other := by
  induction members with
  | nil => exact member?_cons (key, v) [] other
  | cons m members ih =>
      obtain ⟨k, u⟩ := m
      by_cases hkey : k = key
      · subst hkey
        simp only [putMember, if_true, member?_cons]
        split <;> rfl
      · simp only [putMember, hkey, if_false, member?_cons, ih]
        by_cases hother : k = other
        · rw [if_pos hother, if_neg fun heq => hkey (hother.trans heq.symm), if_pos hother]
        · rw [if_neg hother, if_neg hother]

theorem member?_append (front members : List (Text × Json)) (key : Text) :
    member? (front ++ members) key = (member? front key).or (member? members key) := by
  induction front with
  | nil => rfl
  | cons m front ih =>
      rw [List.cons_append, member?_cons, member?_cons, ih]
      split <;> rfl

/-- Members put one after the other: each key at its first place, with its last value. -/
theorem foldl_putMember (done written : List (Text × Json)) :
    keysOf (written.foldl (fun done m => putMember m.1 m.2 done) done) =
        keysOf done ++ ((keysOf written).filter (· ∉ keysOf done)).eraseDups ∧
      ∀ key, member? (written.foldl (fun done m => putMember m.1 m.2 done) done) key =
        (member? written.reverse key).or (member? done key) := by
  induction written generalizing done with
  | nil => exact ⟨(List.append_nil _).symm, fun _ => rfl⟩
  | cons m written ih =>
      obtain ⟨hkeys, hvalues⟩ := ih (putMember m.1 m.2 done)
      rw [List.foldl_cons]
      refine ⟨?_, fun key => ?_⟩
      · rw [hkeys, keysOf_putMember]
        have hcons : keysOf (m :: written) = m.1 :: keysOf written := rfl
        split
        · rename_i hmem
          rw [hcons, List.filter_cons_of_neg (by simpa using hmem)]
        · rename_i hmem
          rw [hcons, List.filter_cons_of_pos (by simpa using hmem), List.eraseDups_cons,
            List.filter_filter, List.append_assoc, List.singleton_append]
          congr 4
          funext key
          by_cases hkey : key = m.1 <;> simp [hkey]
      · rw [hvalues, member?_putMember, List.reverse_cons, member?_append, member?_cons]
        cases member? written.reverse key with
        | some v => rfl
        | none => split <;> rfl

theorem nodup_keysOf_putMember (key : Text) (v : Json) {members : List (Text × Json)}
    (h : (keysOf members).Nodup) : (keysOf (putMember key v members)).Nodup := by
  rw [keysOf_putMember]
  split
  · exact h
  · rename_i hmem
    refine List.nodup_append.mpr
      ⟨h, List.pairwise_singleton _ key, fun other hother last hlast => ?_⟩
    rw [List.mem_singleton.mp hlast]
    rintro rfl
    exact hmem hother

theorem nodup_foldl_putMember (written : List (Text × Json)) {done : List (Text × Json)}
    (h : (keysOf done).Nodup) :
    (keysOf (written.foldl (fun done m => putMember m.1 m.2 done) done)).Nodup := by
  induction written generalizing done with
  | nil => exact h
  | cons m written ih => exact ih (nodup_keysOf_putMember m.1 m.2 h)

theorem mem_of_mem_putMember {key : Text} {v : Json} {members : List (Text × Json)}
    {m : Text × Json} (h : m ∈ putMember key v members) : m = (key, v) ∨ m ∈ members := by
  induction members with
  | nil => exact .inl (List.mem_singleton.mp h)
  | cons first rest ih =>
      unfold putMember at h
      split at h
      · rename_i hkey
        rcases List.mem_cons.mp h with rfl | hrest
        · exact .inl (by rw [hkey])
        · exact .inr (List.mem_cons_of_mem _ hrest)
      · rcases List.mem_cons.mp h with rfl | hrest
        · exact .inr List.mem_cons_self
        · exact (ih hrest).imp_right (List.mem_cons_of_mem _)

theorem mem_of_mem_foldl_putMember {written done : List (Text × Json)} {m : Text × Json}
    (h : m ∈ written.foldl (fun done m => putMember m.1 m.2 done) done) :
    m ∈ written ∨ m ∈ done := by
  induction written generalizing done with
  | nil => exact .inr h
  | cons first rest ih =>
      rcases ih h with hrest | hput
      · exact .inl (List.mem_cons_of_mem _ hrest)
      · rcases mem_of_mem_putMember hput with rfl | hdone
        · exact .inl List.mem_cons_self
        · exact .inr hdone

/-- An object that is put together has no member but those that it was put together from. -/
theorem mem_of_mem_closeObject {members : List (Text × Json)} {m : Text × Json}
    (h : m ∈ members.reverse.foldl (fun done m => putMember m.1 m.2 done) []) : m ∈ members := by
  rcases mem_of_mem_foldl_putMember h with hwritten | hnone
  · exact List.mem_reverse.mp hwritten
  · cases hnone

/-- The last value that members give a key. -/
def lastValue? (written : List (Text × Json)) (key : Text) : Option Json :=
  member? written.reverse key

theorem mem_of_member? {members : List (Text × Json)} {key : Text} {v : Json}
    (h : member? members key = some v) : (key, v) ∈ members := by
  obtain ⟨m, hfind, rfl⟩ := Option.map_eq_some_iff.mp h
  have hfound := List.find?_some hfind
  have hkey : m.1 = key := of_decide_eq_true hfound
  exact hkey ▸ List.mem_of_find?_eq_some hfind

/-- The object that members make up has every key once, at its first place, and the last value
of each. -/
theorem members_of_ofMembers {written members : List (Text × Json)}
    (h : ofMembers written = .obj members) :
    keysOf members = (keysOf written).eraseDups ∧ (keysOf members).Nodup ∧
      ∀ key, member? members key = lastValue? written key := by
  cases h
  obtain ⟨hkeys, hvalues⟩ := foldl_putMember [] written
  refine ⟨?_, ?_, fun key => ?_⟩
  · have hall : (keysOf written).filter (· ∉ keysOf []) = keysOf written :=
      List.filter_eq_self.mpr fun key _ => decide_eq_true List.not_mem_nil
    rw [hkeys, hall]
    rfl
  · exact nodup_foldl_putMember written List.nodup_nil
  · rw [hvalues]
    exact Option.or_none

end GoogIndex.Json
