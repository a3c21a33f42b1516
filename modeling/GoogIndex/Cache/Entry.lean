/-
  Cache/Entry.lean --- the entries of a cache file.

  Normative source: SPEC_FULL §6 for the shape of an entry; §4.2, `_is_valid_entry`.

  An entry is valid if it has two lists of texts and a number for the time.  Anything
  else it holds does not count, except for the flag of modules, which is read in the
  loose sense.
-/
import GoogIndex.Declaration.Record

set_option autoImplicit false

namespace GoogIndex.Cache

open GoogIndex.Decimal

/-- A modification time as a cache file gives it. -/
inductive Stamp where
  | whole (n : Int)
  | real (x : Binary64)
  deriving DecidableEq, Repr, Inhabited

namespace Stamp

/-- Whether a time in milliseconds is the one given, by exact value. -/
def isMillis (s : Stamp) (n : Int) : Bool :=
  match s with
  | .whole m => m == n
  | .real x => x.equalsInt n

/-- The time that a value is. -/
def ofJson? : Json → Option Stamp
  | .int n => some (.whole n)
  | .real x => some (.real x)
  | _ => none

end Stamp

/-- A valid entry. -/
structure Entry where
  provides : List Text
  requires : List Text
  isModule : Bool
  stamp : Stamp
  deriving DecidableEq, Repr, Inhabited

namespace Entry

/-- The texts that a value lists, if it is a list of texts. -/
def textList? : Json → Option (List Text)
  | .arr items => items.mapM Json.text?
  | _ => none

/-- The valid entry that a value is (SPEC_FULL §4.2, `_is_valid_entry`). -/
def ofJson? : Json → Option Entry
  | .obj members => do
      let provides ← (Json.member? members "provides").bind textList?
      let requires ← (Json.member? members "requires").bind textList?
      let stamp ← (Json.member? members "modifiedDates").bind Stamp.ofJson?
      let isModule := ((Json.member? members "isModule").map Json.isSet).getD false
      return ⟨provides, requires, isModule, stamp⟩
  | _ => none

/-- The record of an entry under a path (SPEC_FULL §3, `from_cache_entry`). -/
def record (e : Entry) (path : Text) : Record := ⟨path, e.provides, e.requires, e.isModule⟩

end Entry

end GoogIndex.Cache
