/-
  Storage/Folder.lean --- folders and what they hold.

  A folder is a sequence of entries: files, links and folders.  The order is that in
  which its entries are listed; a name stands in a folder once as long as entries
  are added with `put`.
-/
import GoogIndex.Text.Point

set_option autoImplicit false

namespace GoogIndex.Storage

/-- The end of the range of times: seconds are kept in 64 bits, one of them for the sign. -/
def timeBound : Int := 9223372036854775808 * 1000000000

/-- A time in nanoseconds that storage can keep. -/
structure FileTime where
  nanoseconds : Int
  inRange : -timeBound ≤ nanoseconds ∧ nanoseconds < timeBound
  deriving DecidableEq, Repr

namespace FileTime

/-- The time that is nearest to a number of nanoseconds. -/
def nearest (n : Int) : FileTime :=
  if h : -timeBound ≤ n ∧ n < timeBound then ⟨n, h⟩
  else if n < 0 then ⟨-timeBound, by decide⟩
  else ⟨timeBound - 1, by decide⟩

instance : Inhabited FileTime := ⟨nearest 0⟩

instance (n : Nat) : OfNat FileTime n := ⟨nearest n⟩

/-- A time in whole milliseconds, rounded down. -/
def millis (time : FileTime) : Int := Int.fdiv time.nanoseconds 1000000

end FileTime

/-- The attributes of a file or folder: its permissions and its modification time. -/
structure Attributes where
  mode : Nat
  modified : FileTime
  deriving DecidableEq, Repr, Inhabited

/-- The entries of a folder. -/
inductive Folder where
  | empty
  | file (name : Text) (attributes : Attributes) (content : List UInt8) (rest : Folder)
  | link (name : Text) (target : Text) (rest : Folder)
  | folder (name : Text) (attributes : Attributes) (inner rest : Folder)
  deriving DecidableEq, Repr, Inhabited

/-- What a name stands for. -/
inductive Node where
  | file (attributes : Attributes) (content : List UInt8)
  | link (target : Text)
  | folder (attributes : Attributes) (inner : Folder)
  deriving DecidableEq, Repr, Inhabited

/-- Whether a node is a folder. -/
def Node.isFolder : Node → Bool
  | .folder _ _ => true
  | _ => false

/-- A node with other attributes. -/
def Node.withAttributes (f : Attributes → Attributes) : Node → Node
  | .file a content => .file (f a) content
  | .link target => .link target
  | .folder a inner => .folder (f a) inner

namespace Folder

/-- One more entry in front. -/
def cons (name : Text) (node : Node) (rest : Folder) : Folder :=
  match node with
  | .file a content => .file name a content rest
  | .link target => .link name target rest
  | .folder a inner => .folder name a inner rest

/-- The entry of a name. -/
def find? (name : Text) : Folder → Option Node
  | .empty => none
  | .file n a content rest => if n = name then some (.file a content) else rest.find? name
  | .link n target rest => if n = name then some (.link target) else rest.find? name
  | .folder n a inner rest => if n = name then some (.folder a inner) else rest.find? name

/-- All entries, in order. -/
def entries : Folder → List (Text × Node)
  | .empty => []
  | .file n a content rest => (n, .file a content) :: rest.entries
  | .link n target rest => (n, .link target) :: rest.entries
  | .folder n a inner rest => (n, .folder a inner) :: rest.entries

/-- Give a name another entry: in its place, or at the end if it is new. -/
def put (name : Text) (node : Node) : Folder → Folder
  | .empty => cons name node .empty
  | .file n a content rest =>
      if n = name then cons name node rest else .file n a content (rest.put name node)
  | .link n target rest =>
      if n = name then cons name node rest else .link n target (rest.put name node)
  | .folder n a inner rest =>
      if n = name then cons name node rest else .folder n a inner (rest.put name node)

/-- Take the entry of a name out. -/
def erase (name : Text) : Folder → Folder
  | .empty => .empty
  | .file n a content rest => if n = name then rest else .file n a content (rest.erase name)
  | .link n target rest => if n = name then rest else .link n target (rest.erase name)
  | .folder n a inner rest => if n = name then rest else .folder n a inner (rest.erase name)

/-- The number of entries. -/
def size : Folder → Nat
  | .empty => 0
  | .file _ _ _ rest => rest.size + 1
  | .link _ _ rest => rest.size + 1
  | .folder _ _ _ rest => rest.size + 1

/-- The number of links, at any depth. -/
def linkCount : Folder → Nat
  | .empty => 0
  | .file _ _ _ rest => rest.linkCount
  | .link _ _ rest => rest.linkCount + 1
  | .folder _ _ inner rest => inner.linkCount + rest.linkCount

/-! ## Small laws -/

theorem find?_put_self (name : Text) (node : Node) (f : Folder) :
    (f.put name node).find? name = some node := by
  induction f with
  | empty => cases node <;> simp [put, cons, find?]
  | file n a content rest ih =>
      by_cases h : n = name
      · cases node <;> simp [put, cons, find?, h]
      · simp [put, find?, h, ih]
  | link n target rest ih =>
      by_cases h : n = name
      · cases node <;> simp [put, cons, find?, h]
      · simp [put, find?, h, ih]
  | folder n a inner rest _ ih =>
      by_cases h : n = name
      · cases node <;> simp [put, cons, find?, h]
      · simp [put, find?, h, ih]

theorem find?_put_of_ne {name other : Text} (node : Node) (f : Folder) (h : other ≠ name) :
    (f.put name node).find? other = f.find? other := by
  induction f with
  | empty => cases node <;> simp [put, cons, find?, Ne.symm h]
  | file n a content rest ih =>
      by_cases hn : n = name
      · cases node <;> simp [put, cons, find?, hn, Ne.symm h]
      · simp [put, find?, hn, ih]
  | link n target rest ih =>
      by_cases hn : n = name
      · cases node <;> simp [put, cons, find?, hn, Ne.symm h]
      · simp [put, find?, hn, ih]
  | folder n a inner rest _ ih =>
      by_cases hn : n = name
      · cases node <;> simp [put, cons, find?, hn, Ne.symm h]
      · simp [put, find?, hn, ih]

end Folder

end GoogIndex.Storage
