/-
  Declaration/Record.lean --- what one source file provides and requires.

  Normative source: SPEC_FULL §3, `DependencyRecord`.

  A record can be shown in a report and written as a cache entry, and a cache entry
  can be turned back into a record.  The conversion back takes any value that can be
  gone through for the two lists of names, as long as it is given; what counts as a
  valid entry of a cache file is a separate question (`Cache.Entry`).
-/
import GoogIndex.Json.Writer

set_option autoImplicit false

namespace GoogIndex

/-- The namespaces of one source file, in document order (SPEC_FULL §3, `DependencyRecord`). -/
structure Record where
  path : Text
  provides : List Text
  requires : List Text
  isModule : Bool
  deriving DecidableEq, Repr, Inhabited

namespace Record

/-- A record as a report shows it (SPEC_FULL §4.4, `to_dict`). -/
def toJson (r : Record) : Json :=
  .obj [("path", .str r.path), ("provides", .texts r.provides), ("requires", .texts r.requires),
    ("is_module", .bool r.isModule)]

/-- A record as a cache entry, stamped with a modification time (SPEC_FULL §6, `to_cache_entry`). -/
def toEntry (r : Record) (modified : Int) : Json :=
  .obj [("isModule", .bool r.isModule), ("modifiedDates", .int modified),
    ("provides", .texts r.provides), ("requires", .texts r.requires)]

/-- The short name of a record. -/
def display (r : Record) : Text := "Source " ++ r.path

end Record

/-- Why a value is no cache entry. -/
inductive EntryFault where
  /-- it has no member of this name -/
  | missing (key : Text)
  /-- a list of names is a value of this type, which has no items -/
  | notIterable (typeName : String)
  deriving DecidableEq, Repr, Inhabited

/-- The kind of a fault in reports. -/
def EntryFault.label : EntryFault → String
  | .missing _ => "KeyError"
  | .notIterable _ => "TypeError"

/-- The report of a fault. -/
def EntryFault.message : EntryFault → String
  | .missing key => Text.quoted key
  | .notIterable typeName => "'" ++ typeName ++ "' object is not iterable"

/-- The items of a value: those of a list, the characters of a text, the keys of an
object. -/
def Json.items? : Json → Except EntryFault (List Json)
  | .arr items => .ok items
  | .str s => .ok (s.toList.map fun p => .str (.ofList [p]))
  | .obj members => .ok (members.map fun m => .str m.1)
  | v => .error (.notIterable v.typeName)

/-- What an entry holds, before anything is known about its items. -/
structure EntryContents where
  provides : List Json
  requires : List Json
  isModule : Bool
  deriving Inhabited

namespace EntryContents

/-- The items under a key of an object. -/
def itemsUnder (members : List (Text × Json)) (key : Text) : Except EntryFault (List Json) :=
  match Json.member? members key with
  | none => .error (.missing key)
  | some v => v.items?

/-- The contents of the entry with these members.  It describes a module if its flag
is set, in the loose sense. -/
def ofMembers (members : List (Text × Json)) : Except EntryFault EntryContents := do
  let provides ← itemsUnder members "provides"
  let requires ← itemsUnder members "requires"
  return ⟨provides, requires, ((Json.member? members "isModule").map Json.isSet).getD false⟩

/-- The contents as a report shows them for a path. -/
def toJson (path : Text) (e : EntryContents) : Json :=
  .obj [("path", .str path), ("provides", .arr e.provides), ("requires", .arr e.requires),
    ("is_module", .bool e.isModule)]

/-- The record for a path, if all items are texts. -/
def record? (path : Text) (e : EntryContents) : Option Record := do
  let provides ← e.provides.mapM Json.text?
  let requires ← e.requires.mapM Json.text?
  return ⟨path, provides, requires, e.isModule⟩

end EntryContents

end GoogIndex
