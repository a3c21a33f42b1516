/-
  Text/Point.lean --- texts whose parts need not be characters.

  Normative source: SPEC_FULL §3, where the path of a record is a text, and §6, where the
  backing file holds paths and namespaces as JSON strings.

  The name of a file is a sequence of bytes, and a byte in it that belongs to no character is
  read as half of a surrogate pair.  An escape in a JSON string may spell such a half as well,
  with no other half beside it.  So a text is a sequence of code points, and a code point is a
  character or half of a pair that stands alone.  A string is a text that is made of
  characters only.
-/

set_option autoImplicit false

namespace GoogIndex

/-- A code point: a character, or half of a surrogate pair that stands alone. -/
inductive Point where
  | char (c : Char)
  | lone (half : Fin 0x800)
  deriving DecidableEq, Repr, Inhabited

namespace Point

instance : Coe Char Point := ⟨.char⟩

/-- The number of a code point. -/
def toNat : Point → Nat
  | .char c => c.toNat
  | .lone half => 0xD800 + half.val

/-- The code point of a number; a number beyond all code points stands for NUL. -/
def ofNat (n : Nat) : Point :=
  if h : 0xD800 ≤ n ∧ n < 0xE000 then .lone ⟨n - 0xD800, by omega⟩ else .char (Char.ofNat n)

/-- Code points are ordered by their numbers. -/
instance : LE Point := ⟨fun p q => p.toNat ≤ q.toNat⟩

instance : LT Point := ⟨fun p q => p.toNat < q.toNat⟩

instance (p q : Point) : Decidable (p ≤ q) := inferInstanceAs (Decidable (p.toNat ≤ q.toNat))

instance (p q : Point) : Decidable (p < q) := inferInstanceAs (Decidable (p.toNat < q.toNat))

/-- Whether a code point is half of a pair. -/
def isLone : Point → Bool
  | .char _ => false
  | .lone _ => true

/-- Whether a code point is the first half of a pair. -/
def isHigh (p : Point) : Bool := decide (0xD800 ≤ p.toNat) && decide (p.toNat ≤ 0xDBFF)

/-- Whether a code point is the last half of a pair. -/
def isLow (p : Point) : Bool := decide (0xDC00 ≤ p.toNat) && decide (p.toNat ≤ 0xDFFF)

/-- Two halves that make one pair. -/
def Pairs (p q : Point) : Prop := p.isHigh = true ∧ q.isLow = true

instance (p q : Point) : Decidable (p.Pairs q) := inferInstanceAs (Decidable (_ ∧ _))

/-- The code point by which a byte is read that belongs to no character: the upper half of the
bytes have the last halves of pairs. -/
def isByte : Point → Bool
  | .char _ => false
  | .lone half => decide (0x480 ≤ half.val) && decide (half.val < 0x500)

/-- How many bytes a code point takes in the path of a file. -/
def byteSize : Point → Nat
  | .char c => c.utf8Size
  | .lone half => if isByte (.lone half) then 1 else 3

theorem toNat_injective {p q : Point} (h : p.toNat = q.toNat) : p = q := by
  -- the numbers of characters leave out those of the halves
  have hvalid (c : Char) : c.toNat < 0xD800 ∨ 0xDFFF < c.toNat := by
    have := c.valid
    unfold UInt32.isValidChar Nat.isValidChar at this
    have htoNat : c.val.toNat = c.toNat := rfl
    omega
  cases p with
  | char c =>
      cases q with
      | char d => exact congrArg Point.char (Char.toNat_inj.mp h)
      | lone half =>
          have := hvalid c
          simp only [toNat] at h
          omega
  | lone half =>
      cases q with
      | char d =>
          have := hvalid d
          simp only [toNat] at h
          omega
      | lone half' =>
          have : half.val = half'.val := by simpa [toNat] using h
          rw [Fin.ext this]

end Point

/-- A text, as a sequence of code points. -/
structure Text where ofList ::
  toList : List Point
  deriving DecidableEq, Repr, Inhabited

namespace Text

/-- The text that is made of these characters. -/
protected def ofString (s : String) : Text := .ofList (s.toList.map .char)

instance : Coe String Text := ⟨Text.ofString⟩

/-- One text behind the other. -/
protected def append (a b : Text) : Text := .ofList (a.toList ++ b.toList)

instance : Append Text := ⟨Text.append⟩

/-- Texts with another one between them. -/
protected def intercalate (separator : Text) (texts : List Text) : Text :=
  .ofList (separator.toList.intercalate (texts.map toList))

/-- The characters of a text; half of a pair has no character, and is replaced. -/
protected def shown (t : Text) : String :=
  .ofList (t.toList.map fun
    | .char c => c
    | .lone _ => Char.ofNat 0xFFFD)

/-- How many bytes a text takes as the path of a file. -/
protected def byteSize (t : Text) : Nat := t.toList.foldr (fun p size => p.byteSize + size) 0

/-- The numbers of the code points. -/
protected def codes (t : Text) : List Nat := t.toList.map Point.toNat

/-- Texts are ordered by the numbers of their code points. -/
instance : LT Text := ⟨fun a b => a.codes < b.codes⟩

instance : LE Text := ⟨fun a b => ¬ b < a⟩

instance (a b : Text) : Decidable (a < b) := inferInstanceAs (Decidable (a.codes < b.codes))

instance (a b : Text) : Decidable (a ≤ b) := inferInstanceAs (Decidable (¬ b < a))

/-! ## Small laws -/

@[simp] theorem toList_ofList (ps : List Point) : (Text.ofList ps).toList = ps := rfl

@[simp] theorem ofList_toList (t : Text) : Text.ofList t.toList = t := rfl

@[simp] theorem ofList_comp_toList : Text.ofList ∘ toList = id := rfl

theorem toList_eq_nil_iff {t : Text} : t.toList = [] ↔ t = "" :=
  ⟨fun h => congrArg Text.ofList h, fun h => h ▸ rfl⟩

theorem toList_inj {a b : Text} : a.toList = b.toList ↔ a = b :=
  ⟨fun h => congrArg Text.ofList h, fun h => congrArg toList h⟩

@[simp] theorem toList_ofString (s : String) : (Text.ofString s).toList = s.toList.map .char := rfl

@[simp] theorem ofString_inj {a b : String} : Text.ofString a = Text.ofString b ↔ a = b := by
  refine ⟨fun h => ?_, fun h => h ▸ rfl⟩
  have hlist : a.toList.map Point.char = b.toList.map Point.char := congrArg toList h
  exact String.toList_inj.mp ((List.map_inj_right fun _ _ => Point.char.inj).mp hlist)

@[simp] theorem toList_append (a b : Text) : (a ++ b).toList = a.toList ++ b.toList := rfl

@[simp] theorem empty_append (t : Text) : "" ++ t = t := rfl

theorem codes_injective {a b : Text} (h : a.codes = b.codes) : a = b :=
  toList_inj.mp ((List.map_inj_right fun _ _ => Point.toNat_injective).mp h)

instance : Std.IsLinearOrder Text where
  le_refl a := List.le_refl a.codes
  le_trans _ _ _ hab hbc := List.le_trans hab hbc
  le_total a b := List.le_total a.codes b.codes
  le_antisymm _ _ hab hba := codes_injective (List.le_antisymm hab hba)

instance : Std.LawfulOrderLT Text where
  lt_iff _ _ := ⟨fun h => ⟨List.lt_asymm h, not_not_intro h⟩, fun h => Decidable.not_not.mp h.2⟩

@[simp] theorem toList_intercalate (separator : Text) (texts : List Text) :
    (Text.intercalate separator texts).toList =
      separator.toList.intercalate (texts.map toList) := rfl

@[simp] theorem intercalate_nil (separator : Text) : Text.intercalate separator [] = "" := rfl

@[simp] theorem intercalate_singleton (separator t : Text) :
    Text.intercalate separator [t] = t := by
  rw [← toList_inj, toList_intercalate, List.map_singleton, List.intercalate_singleton]

theorem intercalate_append_of_ne_nil (separator : Text) {front back : List Text}
    (hfront : front ≠ []) (hback : back ≠ []) :
    Text.intercalate separator (front ++ back) =
      Text.intercalate separator front ++ separator ++ Text.intercalate separator back := by
  induction front with
  | nil => exact absurd rfl hfront
  | cons t rest ih =>
      have hmapped : back.map toList ≠ [] := by simpa using hback
      cases rest with
      | nil =>
          rw [← toList_inj]
          simp [List.intercalate_cons_of_ne_nil hmapped]
      | cons next more =>
          have hlonger := congrArg toList (ih (List.cons_ne_nil next more))
          rw [← toList_inj]
          simpa [List.intercalate_cons_cons, List.append_assoc] using hlonger

theorem byteSize_append (a b : Text) : (a ++ b).byteSize = a.byteSize + b.byteSize := by
  obtain ⟨ps⟩ := a
  induction ps with
  | nil => exact (Nat.zero_add b.byteSize).symm
  | cons p rest ih =>
      exact (congrArg (p.byteSize + ·) ih).trans (Nat.add_assoc _ _ _).symm

theorem byteSize_pos {t : Text} (h : t ≠ "") : 0 < t.byteSize := by
  obtain ⟨ps⟩ := t
  cases ps with
  | nil => exact absurd rfl h
  | cons p rest =>
      have hp : 0 < p.byteSize := by
        cases p with
        | char c => exact c.utf8Size_pos
        | lone half =>
            rw [Point.byteSize]
            split
            · decide
            · decide
      exact Nat.add_pos_left hp _

end Text

end GoogIndex
