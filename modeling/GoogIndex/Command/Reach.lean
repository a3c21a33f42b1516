/-
  Command/Reach.lean --- the parts of storage that a command reaches.

  A command looks at its project with everything below it, at the file that it names,
  and at its cache file.  Nothing else in storage matters to it.
-/
import GoogIndex.Command.Options
import GoogIndex.Command.Session

set_option autoImplicit false

namespace GoogIndex.Command

open GoogIndex.Scan GoogIndex.Storage

/-- The value under a key, if there are members. -/
def memberOf? (v : Json) (key : Text) : Option Json :=
  match v with
  | .obj members => Json.member? members key
  | _ => none

/-- The text under a key, if there is one. -/
def textOf? (v : Json) (key : Text) : Option Text :=
  match memberOf? v key with
  | some (.str text) => some text
  | _ => none

/-- The paths that a command reaches: its project, its cache file, and the file that it
names. -/
def reach (settings : Settings) (project : Text) (args : Json) : List Text :=
  let cacheFile := settings.cachePath (.ofText project) (textOf? args "cache_file")
  project :: cacheFile :: (textOf? args "file").toList

/-- The paths that a request reaches. -/
def reachOfRequest (settings : Settings) (line : String) : List Text :=
  match receive (Text.trim line) with
  | .value request =>
      reach settings ((textOf? request "project").getD "") ((memberOf? request "args").getD .null)
  | _ => []

/-- The paths that the words of a command line reach. -/
def reachOfWords (settings : Settings) (words : List String) : List Text :=
  match Options.ofWords words with
  | .ok o =>
      match o.args.map receive with
      | some (.value args) => reach settings (o.project.getD "" : String) args
      | _ => []
  | .error _ => []

end GoogIndex.Command
