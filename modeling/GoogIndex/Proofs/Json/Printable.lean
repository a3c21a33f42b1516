/-
  Proofs/Json/Printable.lean --- the interchange form is made of printable ASCII.

  Whatever the texts in a value are, its written form has no control characters and
  nothing beyond ASCII.  Each character is therefore one byte of a file, no byte can be
  taken for a line end, and reading the file gives the written text.
-/
import GoogIndex.Json.Writer
import GoogIndex.Text.Blank
import GoogIndex.Text.Utf8

set_option autoImplicit false

namespace GoogIndex.Json

open GoogIndex.Text GoogIndex.Decimal

/-! ## Parts -/

/-- A printable character of ASCII. -/
def IsPrintable (c : Char) : Prop := 0x20 ≤ c.toNat ∧ c.toNat < 0x7F

instance (c : Char) : Decidable (IsPrintable c) := inferInstanceAs (Decidable (_ ∧ _))

theorem isPrintable_of_all {cs : List Char} (h : cs.all (fun c => decide (IsPrintable c)) = true) :
    ∀ c ∈ cs, IsPrintable c := fun c hc => of_decide_eq_true (List.all_eq_true.mp h c hc)

theorem isPrintable_hexDigit : ∀ d, d < 16 → IsPrintable (hexDigit d) := by decide

theorem isPrintable_hexDigits (width n : Nat) : ∀ c ∈ hexDigits width n, IsPrintable c := by
  induction width generalizing n with
  | zero => simp [hexDigits]
  | succ width ih =>
      intro c hc
      rw [hexDigits, List.mem_append, List.mem_singleton] at hc
      rcases hc with hc | rfl
      · exact ih _ c hc
      · exact isPrintable_hexDigit _ (Nat.mod_lt _ (by decide))

theorem isPrintable_unitEscape (n : Nat) : ∀ c ∈ unitEscape n, IsPrintable c := by
  intro c hc
  rw [unitEscape, List.mem_cons, List.mem_cons] at hc
  rcases hc with rfl | rfl | hc
  · decide
  · decide
  · exact isPrintable_hexDigits 4 n c hc

/-- The letters that stand behind a backslash for characters of their own. -/
def shortEscapes : List (Char × Char) :=
  [('"', '"'), ('\\', '\\'), ('n', '\n'), ('r', '\r'), ('t', '\t'), ('f', '\x0c'), ('b', '\x08')]

/-- The written forms that a character may have. -/
inductive EscapedAs (c : Char) : List Char → Prop
  | short {letter : Char} (listed : (letter, c) ∈ shortEscapes) : EscapedAs c ['\\', letter]
  | itself (printable : IsPrintable c) (ne_quote : c ≠ '"') (ne_escape : c ≠ '\\') :
      EscapedAs c [c]
  | unit (small : c.toNat < 0x10000) : EscapedAs c (unitEscape c.toNat)
  | pair (large : 0x10000 ≤ c.toNat) :
      EscapedAs c (unitEscape (0xD800 + (c.toNat - 0x10000) / 0x400) ++
        unitEscape (0xDC00 + (c.toNat - 0x10000) % 0x400))

theorem escapedAs_escapeChar (c : Char) : EscapedAs c (escapeChar c) := by
  unfold escapeChar
  by_cases hquote : c = '"'
  · subst hquote
    exact .short (by decide)
  by_cases hescape : c = '\\'
  · subst hescape
    exact .short (by decide)
  by_cases hfeed : c = '\n'
  · subst hfeed
    exact .short (by decide)
  by_cases hreturn : c = '\r'
  · subst hreturn
    exact .short (by decide)
  by_cases htab : c = '\t'
  · subst htab
    exact .short (by decide)
  by_cases hform : c = '\x0c'
  · subst hform
    exact .short (by decide)
  by_cases hback : c = '\x08'
  · subst hback
    exact .short (by decide)
  rw [if_neg hquote, if_neg hescape, if_neg hfeed, if_neg hreturn, if_neg htab, if_neg hform,
    if_neg hback]
  split
  · rename_i hprint
    exact .itself hprint hquote hescape
  · split
    · rename_i hsmall
      exact .unit hsmall
    · rename_i hlarge
      exact .pair (Nat.le_of_not_lt hlarge)

theorem isPrintable_escapeChar (e : Char) : ∀ c ∈ escapeChar e, IsPrintable c := by
  have h := escapedAs_escapeChar e
  generalize escapeChar e = cs at h ⊢
  cases h with
  | short listed =>
      have hletter : ∀ pair ∈ shortEscapes, IsPrintable pair.1 := by decide
      intro c hc
      rcases List.mem_cons.mp hc with rfl | hc
      · decide
      · rw [List.mem_singleton.mp hc]
        exact hletter _ listed
  | itself printable _ _ =>
      intro c hc
      rwa [List.mem_singleton.mp hc]
  | unit _ => exact isPrintable_unitEscape _
  | pair _ =>
      intro c hc
      rcases List.mem_append.mp hc with hc | hc
      · exact isPrintable_unitEscape _ c hc
      · exact isPrintable_unitEscape _ c hc

theorem isPrintable_escapePoint (p : Point) : ∀ c ∈ escapePoint p, IsPrintable c := by
  cases p with
  | char e => exact isPrintable_escapeChar e
  | lone half => exact isPrintable_unitEscape _

theorem isPrintable_stringText (s : Text) : ∀ c ∈ stringText s, IsPrintable c := by
  intro c hc
  rw [stringText, List.mem_cons, List.mem_append, List.mem_singleton, List.mem_flatMap] at hc
  rcases hc with rfl | ⟨e, _, hc⟩ | rfl
  · decide
  · exact isPrintable_escapePoint e c hc
  · decide

theorem isPrintable_of_isDigit {c : Char} (h : c.isDigit = true) : IsPrintable c := by
  simp only [Char.isDigit, Bool.and_eq_true, decide_eq_true_eq] at h
  have h₁ : (48 : Nat) ≤ c.val.toNat := h.1
  have h₂ : c.val.toNat ≤ 57 := h.2
  show 32 ≤ c.val.toNat ∧ c.val.toNat < 127
  omega

theorem isPrintable_toDigits (n : Nat) : ∀ c ∈ Nat.toDigits 10 n, IsPrintable c := fun _ hc =>
  isPrintable_of_isDigit (Nat.isDigit_of_mem_toDigits (by decide) (by decide) hc)

theorem isPrintable_intText (n : Int) : ∀ c ∈ intText n, IsPrintable c := by
  intro c hc
  unfold intText at hc
  split at hc
  · rcases List.mem_cons.mp hc with rfl | hc
    · decide
    · exact isPrintable_toDigits _ c hc
  · exact isPrintable_toDigits _ c hc

theorem isPrintable_replicate_zero (n : Nat) : ∀ c ∈ List.replicate n '0', IsPrintable c := by
  intro c hc
  rw [(List.mem_replicate.mp hc).2]
  decide

theorem isPrintable_exponentText (e : Int) : ∀ c ∈ exponentText e, IsPrintable c := by
  intro c hc
  rw [exponentText, List.mem_cons] at hc
  rcases hc with rfl | hc
  · split <;> decide
  · split at hc
    · rcases List.mem_cons.mp hc with rfl | hc
      · decide
      · exact isPrintable_toDigits _ c hc
    · exact isPrintable_toDigits _ c hc

theorem isPrintable_decimalText (d : DecimalForm) : ∀ c ∈ decimalText d, IsPrintable c := by
  have hdigits := isPrintable_toDigits d.digits
  have hpoint : IsPrintable '.' := by decide
  have hzero : IsPrintable '0' := by decide
  have hmark : IsPrintable 'e' := by decide
  intro c hc
  unfold decimalText at hc
  simp only at hc
  split at hc
  · split at hc
    · -- all digits stand after the point
      simp only [List.mem_cons, List.mem_append] at hc
      rcases hc with rfl | rfl | hc | hc
      · exact hzero
      · exact hpoint
      · exact isPrintable_replicate_zero _ c hc
      · exact hdigits c hc
    · split at hc
      · -- all digits stand before the point
        simp only [List.mem_cons, List.mem_append, List.not_mem_nil, or_false] at hc
        rcases hc with (hc | hc) | rfl | rfl
        · exact hdigits c hc
        · exact isPrintable_replicate_zero _ c hc
        · exact hpoint
        · exact hzero
      · simp only [List.mem_cons, List.mem_append] at hc
        rcases hc with hc | rfl | hc
        · exact hdigits c (List.mem_of_mem_take hc)
        · exact hpoint
        · exact hdigits c (List.mem_of_mem_drop hc)
  · simp only [List.mem_cons, List.mem_append] at hc
    rcases hc with (hc | hc) | rfl | hc
    · exact hdigits c (List.mem_of_mem_take hc)
    · split at hc
      · simp at hc
      · rcases List.mem_cons.mp hc with rfl | hc
        · exact hpoint
        · exact hdigits c (List.mem_of_mem_drop hc)
    · exact hmark
    · exact isPrintable_exponentText _ c hc

theorem isPrintable_finiteText (negative : Bool) (m : Nat) (e : Int) :
    ∀ c ∈ finiteText negative m e, IsPrintable c := by
  have hbody : ∀ c ∈ (if m = 0 then ['0', '.', '0'] else decimalText (shortest m e)),
      IsPrintable c := by
    split
    · exact isPrintable_of_all (by decide)
    · exact isPrintable_decimalText _
  intro c hc
  unfold finiteText at hc
  cases negative with
  | false => exact hbody c hc
  | true =>
      rcases List.mem_cons.mp hc with rfl | hc
      · decide
      · exact hbody c hc

theorem isPrintable_realText (x : Binary64) : ∀ c ∈ realText x, IsPrintable c := by
  cases x with
  | finite negative m e => exact isPrintable_finiteText negative m e
  | infinite negative => cases negative <;> exact isPrintable_of_all (by decide)
  | notANumber => exact isPrintable_of_all (by decide)

/-! ## Values -/

mutual
/-- Only printable characters of ASCII are written. -/
theorem isPrintable_writeChars (v : Json) : ∀ c ∈ writeChars v, IsPrintable c := by
  match v with
  | .null => exact isPrintable_of_all (by decide)
  | .bool true => exact isPrintable_of_all (by decide)
  | .bool false => exact isPrintable_of_all (by decide)
  | .int n => exact isPrintable_intText n
  | .real x => exact isPrintable_realText x
  | .str s => exact isPrintable_stringText s
  | .arr items =>
      intro c hc
      rw [writeChars, List.mem_cons, List.mem_append, List.mem_singleton] at hc
      rcases hc with rfl | hc | rfl
      · decide
      · exact isPrintable_writeItems items c hc
      · decide
  | .obj members =>
      intro c hc
      rw [writeChars, List.mem_cons, List.mem_append, List.mem_singleton] at hc
      rcases hc with rfl | hc | rfl
      · decide
      · exact isPrintable_writeMembers members c hc
      · decide

theorem isPrintable_writeItems (items : List Json) : ∀ c ∈ writeItems items, IsPrintable c := by
  match items with
  | [] => simp [writeItems]
  | [v] => exact isPrintable_writeChars v
  | v :: w :: more =>
      intro c hc
      simp only [writeItems, List.mem_append, List.mem_cons] at hc
      rcases hc with hc | rfl | rfl | hc
      · exact isPrintable_writeChars v c hc
      · decide
      · decide
      · exact isPrintable_writeItems (w :: more) c hc

theorem isPrintable_writeMembers (members : List (Text × Json)) :
    ∀ c ∈ writeMembers members, IsPrintable c := by
  match members with
  | [] => simp [writeMembers]
  | [(k, v)] =>
      intro c hc
      simp only [writeMembers, List.mem_append, List.mem_cons] at hc
      rcases hc with hc | rfl | rfl | hc
      · exact isPrintable_stringText k c hc
      · decide
      · decide
      · exact isPrintable_writeChars v c hc
  | (k, v) :: w :: more =>
      intro c hc
      simp only [writeMembers, List.mem_append, List.mem_cons] at hc
      rcases hc with hc | rfl | rfl | hc | rfl | rfl | hc
      · exact isPrintable_stringText k c hc
      · decide
      · decide
      · exact isPrintable_writeChars v c hc
      · decide
      · decide
      · exact isPrintable_writeMembers (w :: more) c hc
end

/-! ## Written texts as bytes -/

/-- A printable character is one byte, which is read as the character. -/
theorem decodeFrom_encodeChar {c : Char} (h : IsPrintable c) (position : Nat) (done : List Char)
    (rest : List UInt8) :
    decodeFrom ⟨0, 0, 0, 0⟩ position done (encodeChar c ++ rest) =
      decodeFrom ⟨0, 0, 0, 0⟩ (position + 1) (c :: done) rest := by
  have hlt : c.toNat < 0x80 := Nat.lt_trans h.2 (by decide)
  have hbyte : (UInt8.ofNat c.toNat).toNat = c.toNat := by
    rw [UInt8.toNat_ofNat']
    omega
  simp [encodeChar, decodeFrom, sequenceLength, hlt, hbyte]

theorem decodeFrom_flatMap_encodeChar {cs : List Char} (h : ∀ c ∈ cs, IsPrintable c)
    (position : Nat) (done : List Char) :
    decodeFrom ⟨0, 0, 0, 0⟩ position done (cs.flatMap encodeChar) = .ok (done.reverse ++ cs) := by
  induction cs generalizing position done with
  | nil => simp [decodeFrom]
  | cons c cs ih =>
      rw [List.flatMap_cons, decodeFrom_encodeChar (h c List.mem_cons_self),
        ih (fun d hd => h d (List.mem_cons_of_mem c hd)), List.reverse_cons, List.append_assoc,
        List.singleton_append]

/-- A text without carriage returns has unified line ends. -/
theorem unifyNewlines_of_printable {cs : List Char} (h : ∀ c ∈ cs, IsPrintable c)
    (done : List Char) : unifyNewlines.go cs done = done.reverse ++ cs := by
  induction cs generalizing done with
  | nil => simp [unifyNewlines.go]
  | cons c cs ih =>
      have hc : c ≠ '\r' := by
        rintro rfl
        exact absurd (h '\r' List.mem_cons_self) (by decide)
      have hrest := ih (fun d hd => h d (List.mem_cons_of_mem c hd))
      unfold unifyNewlines.go
      split
      · rename_i heq
        cases heq
      · rename_i heq
        exact absurd (List.cons.inj heq).1 hc
      · rename_i heq
        obtain ⟨rfl, rfl⟩ := List.cons.inj heq
        rw [if_neg hc, hrest, List.reverse_cons, List.append_assoc, List.singleton_append]

/-- The bytes of a written value are read as the text of the value. -/
theorem decodeUtf8_write (v : Json) :
    (decodeUtf8 (encodeUtf8 v.write)).map unifyNewlines = .ok v.write.toList := by
  have hprint := isPrintable_writeChars v
  rw [encodeUtf8, decodeUtf8, write, String.toList_ofList,
    decodeFrom_flatMap_encodeChar hprint, List.reverse_nil, List.nil_append, Except.map,
    unifyNewlines, unifyNewlines_of_printable hprint, List.reverse_nil, List.nil_append]

end GoogIndex.Json
