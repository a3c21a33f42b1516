/-
  Scan/Settings.lean --- what the environment decides about a scan.

  Normative source: SPEC_FULL §9, `configured_extensions` and `resolve_cache_file`.
-/
import GoogIndex.Storage.PathName
import GoogIndex.Text.Blank
import GoogIndex.Text.LowerCase

set_option autoImplicit false

namespace GoogIndex.Scan

open GoogIndex.Storage GoogIndex.Text

/-- The settings of the environment. -/
structure Settings where
  cacheFile : Option Text
  extensions : Option Text
  deriving DecidableEq, Repr, Inhabited

/-- The variable for the cache file. -/
def Settings.cacheFileVariable : String := "CLOSUREDEPS_CACHE_FILE"

/-- The variable for the extensions. -/
def Settings.extensionsVariable : String := "CLOSUREDEPS_EXTENSIONS"

/-- The extension of sources, unless others are set. -/
def standardExtension : Text := ".js"

/-- The name of the cache file, unless another is set. -/
def standardCacheFile : Text := ".closuredeps-cache.json"

/-- Cut at commas. -/
def splitCommas : List Point → List (List Point)
  | [] => [[]]
  | p :: rest =>
      if p = ',' then [] :: splitCommas rest
      else
        match splitCommas rest with
        | [] => [[p]]
        | piece :: more => (p :: piece) :: more

/-- One extension of a list: in lower case, and with a point in front. -/
def extensionOf (item : List Point) : Option Text :=
  let ext := lower (.ofList (dropAtEnd isBlank (item.dropWhile isBlank)))
  if ext = "" then none
  else if ext.toList.head? = some (.char '.') then some ext
  else some ("." ++ ext)

/-- The extensions of sources (SPEC_FULL §9, `CLOSUREDEPS_EXTENSIONS`). -/
def Settings.extensionList (s : Settings) : List Text :=
  let listed := (splitCommas (s.extensions.getD standardExtension).toList).filterMap extensionOf
  if listed.isEmpty then [standardExtension] else listed

/-- A text that is given and not empty. -/
def given (name : Option Text) : Option Text := if name = some ("" : Text) then none else name

/-- The path of the cache file: as asked for, else as the environment says, else the standard
one.  A relative path starts at the root of the scan (SPEC_FULL §9, `CLOSUREDEPS_CACHE_FILE`). -/
def Settings.cachePath (s : Settings) (root : PathName) (asked : Option Text) : Text :=
  let name := ((given asked).orElse fun _ => given s.cacheFile).getD standardCacheFile
  (root.join (PathName.ofText name)).toText

end GoogIndex.Scan
