/-
  Command/Dispatch.lean --- commands on projects and files.

  Normative source: SPEC_FULL §4.5, `dispatch`.

  A command has a name, a project and further arguments, which come from outside and
  may be any values.  Values of the wrong kind are faults at the point where they are
  used.
-/
import GoogIndex.Scan.Project

set_option autoImplicit false

namespace GoogIndex.Command

open GoogIndex.Scan GoogIndex.Storage

/-- Why a command gives no result. -/
inductive CommandFault where
  /-- the arguments are a value of this type, which has no members -/
  | noMembers (typeName : String)
  /-- a path is a value of this type -/
  | notPath (typeName : String)
  | extraction (f : ExtractionFault)
  | project (f : ProjectFault)
  deriving DecidableEq, Repr, Inhabited

/-- The kind of a fault in reports. -/
def CommandFault.label : CommandFault → String
  | .noMembers _ => "AttributeError"
  | .notPath _ => "TypeError"
  | .extraction f => f.label
  | .project f => f.label

/-- The report of a fault. -/
def CommandFault.message : CommandFault → Text
  | .noMembers typeName => "'" ++ typeName ++ "' object has no attribute 'get'"
  | .notPath typeName => "expected str, bytes or os.PathLike object, not " ++ typeName
  | .extraction f => f.message
  | .project f => f.message

/-- The members of the arguments. -/
def membersOf : Json → Except CommandFault (List (Text × Json))
  | .obj members => .ok members
  | v => .error (.noMembers v.typeName)

/-- The path that a value is. -/
def pathOf : Json → Except CommandFault Text
  | .str path => .ok path
  | v => .error (.notPath v.typeName)

/-- Extract one file: the one named in the arguments, or the project itself (SPEC_FULL §4.5). -/
def runExtract (t : Tree) (project args : Json) : Reported (Except CommandFault Json) :=
  let path : Except CommandFault Text := do
    pathOf ((Json.member? (← membersOf args) "file").getD project)
  match path with
  | .error f => ⟨.error f, []⟩
  | .ok path =>
      let r := extractFile t path false
      ⟨(r.outcome.map fun e => e.record.toJson).mapError .extraction, r.events⟩

/-- Whether a flag among the members is set. -/
def flag (members : List (Text × Json)) (key : Text) : Bool :=
  ((Json.member? members key).map Json.isSet).getD false

/-- The cache file named in the arguments, as far as it is set. -/
def namedCacheFile (members : List (Text × Json)) : Except CommandFault (Option Text) :=
  match Json.member? members "cache_file" with
  | none => .ok none
  | some v => if v.isSet then (pathOf v).map some else .ok none

/-- The request that the arguments describe.  The root is looked at before the cache
file is. -/
def requestOf (t : Tree) (project args : Json) : Except CommandFault Request := do
  let members ← membersOf args
  let root ← pathOf project
  match namedCacheFile members with
  | .ok cacheFile =>
      return ⟨root, cacheFile, flag members "include_gitignore", flag members "skip_errors"⟩
  | .error f =>
      match openRoot t root with
      | .error g => .error (.project g)
      | .ok _ => .error f

/-- Scan a project (SPEC_FULL §4.5). -/
def runScan (t : Tree) (settings : Settings) (project args : Json) :
    Ran (Except CommandFault Json) :=
  match requestOf t project args with
  | .error f => ⟨t, .error f, []⟩
  | .ok request =>
      let r := scanProject t settings request
      ⟨r.tree, (r.outcome.map Report.toJson).mapError .project, r.events⟩

/-- The answer to a command that does not exist (SPEC_FULL §4.5). -/
def unknownCommand (command : Json) : Json :=
  .obj [("error", .str "UnknownCommand"),
    ("message", .str ("Unknown command: " ++ command.display))]

/-- Carry a command out (SPEC_FULL §4.5, `dispatch`). -/
def dispatch (t : Tree) (settings : Settings) (command project args : Json) :
    Ran (Except CommandFault Json) :=
  if command.text? = some ("extract" : Text) then
    let r := runExtract t project args
    ⟨t, r.outcome, r.events⟩
  else if command.text? = some ("scan" : Text) then runScan t settings project args
  else ⟨t, .ok (unknownCommand command), []⟩

end GoogIndex.Command
