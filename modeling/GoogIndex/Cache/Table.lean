/-
  Cache/Table.lean --- tables from paths to values, in the order of insertion.

  Normative source: SPEC_FULL §3, the state of a cache.

  A path stands in a table once.  A new value for a path that is there takes the
  place of the old one; a new path goes to the end.
-/
import GoogIndex.Text.Point

set_option autoImplicit false

namespace GoogIndex.Cache

/-- A table from paths to values. -/
structure Table (α : Type) where
  rows : List (Text × α)
  deriving DecidableEq, Repr, Inhabited

namespace Table

variable {α : Type}

/-- The table without rows. -/
def empty : Table α := ⟨[]⟩

/-- The value of a path among rows. -/
def find (path : Text) : List (Text × α) → Option α
  | [] => none
  | (p, v) :: rest => if p = path then some v else find path rest

/-- The value of a path. -/
def get? (t : Table α) (path : Text) : Option α := find path t.rows

/-- Give a path a value among rows. -/
def insertRow (path : Text) (value : α) : List (Text × α) → List (Text × α)
  | [] => [(path, value)]
  | (p, v) :: rest => if p = path then (p, value) :: rest else (p, v) :: insertRow path value rest

/-- Give a path a value. -/
def put (t : Table α) (path : Text) (value : α) : Table α := ⟨insertRow path value t.rows⟩

/-- Take a path out. -/
def erase (t : Table α) (path : Text) : Table α := ⟨t.rows.filter fun r => r.1 ≠ path⟩

/-- The paths, in order. -/
def keys (t : Table α) : List Text := t.rows.map (·.1)

/-- Whether a path has a value. -/
def has (t : Table α) (path : Text) : Bool := (t.get? path).isSome

/-- The number of rows. -/
def size (t : Table α) : Nat := t.rows.length

/-! ## Small laws -/

@[simp] theorem get?_empty (path : Text) : (empty : Table α).get? path = none := rfl

theorem find_insertRow_self (path : Text) (value : α) (rows : List (Text × α)) :
    find path (insertRow path value rows) = some value := by
  induction rows with
  | nil => simp [insertRow, find]
  | cons r rest ih =>
      by_cases h : r.1 = path
      · simp [insertRow, find, h]
      · simp [insertRow, find, h, ih]

theorem find_insertRow_of_ne {path other : Text} (value : α) (rows : List (Text × α))
    (h : other ≠ path) : find other (insertRow path value rows) = find other rows := by
  induction rows with
  | nil => simp [insertRow, find, Ne.symm h]
  | cons r rest ih =>
      by_cases hr : r.1 = path
      · simp [insertRow, find, hr, Ne.symm h]
      · simp [insertRow, find, hr, ih]

@[simp] theorem get?_put_self (t : Table α) (path : Text) (value : α) :
    (t.put path value).get? path = some value := find_insertRow_self path value t.rows

theorem get?_put_of_ne (t : Table α) {path other : Text} (value : α) (h : other ≠ path) :
    (t.put path value).get? other = t.get? other := find_insertRow_of_ne value t.rows h

theorem find_filter_self (path : Text) (rows : List (Text × α)) :
    find path (rows.filter fun r => r.1 ≠ path) = none := by
  induction rows with
  | nil => rfl
  | cons r rest ih =>
      by_cases h : r.1 = path
      · simpa [List.filter_cons, h] using ih
      · simpa [List.filter_cons, h, find] using ih

theorem find_filter_of_ne {path other : Text} (rows : List (Text × α)) (h : other ≠ path) :
    find other (rows.filter fun r => r.1 ≠ path) = find other rows := by
  induction rows with
  | nil => rfl
  | cons r rest ih =>
      by_cases hr : r.1 = path
      · simpa [List.filter_cons, hr, find, Ne.symm h] using ih
      · by_cases ho : r.1 = other
        · subst ho
          simp [h, find]
        · simpa [List.filter_cons, hr, find, ho] using ih

@[simp] theorem get?_erase_self (t : Table α) (path : Text) : (t.erase path).get? path = none :=
  find_filter_self path t.rows

theorem get?_erase_of_ne (t : Table α) {path other : Text} (h : other ≠ path) :
    (t.erase path).get? other = t.get? other := find_filter_of_ne t.rows h

end Table

end GoogIndex.Cache
