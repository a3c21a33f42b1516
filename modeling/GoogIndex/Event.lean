/-
  Event.lean --- what the program reports besides its results.

  Normative source: SPEC_FULL §8.

  Every event has a severity, the part of the program it comes from, a name, and the
  fields that belong to it.
-/
import GoogIndex.Json.Value

set_option autoImplicit false

namespace GoogIndex

/-- How serious an event is. -/
inductive Severity where
  | debug
  | warning
  | error
  deriving DecidableEq, Repr, Inhabited

/-- The label of a severity. -/
def Severity.label : Severity → String
  | .debug => "DEBUG"
  | .warning => "WARNING"
  | .error => "ERROR"

/-- Something worth reporting. -/
inductive Event where
  /-- a source is no script text -/
  | tokenizeFailure (file : Text) (label message : String)
  /-- a source cannot be read -/
  | readFailure (file : Text) (label message : String)
  /-- a source is only for tests, so it provides nothing -/
  | testOnly (file : Text)
  /-- a cache file is of no use -/
  | loadFailure (cacheFile : Text) (label : String)
  /-- a cache file has entries that are not valid -/
  | skippedEntries (cacheFile : Text) (count : Nat)
  /-- a cache file could not be written -/
  | saveFailure (cacheFile : Text) (message : String)
  /-- a cached source is gone -/
  | sourceVanished (file : Text)
  /-- a source was left out because of a failure -/
  | extractionSkipped (file : Text) (message : String)
  /-- a scan has come to its end -/
  | scanComplete (hits misses failed : Nat)
  deriving DecidableEq, Repr, Inhabited

namespace Event

/-- The severity of an event. -/
def severity : Event → Severity
  | .tokenizeFailure _ _ _ => .error
  | .readFailure _ _ _ => .error
  | .testOnly _ => .debug
  | .loadFailure _ _ => .debug
  | .skippedEntries _ _ => .debug
  | .saveFailure _ _ => .warning
  | .sourceVanished _ => .warning
  | .extractionSkipped _ _ => .warning
  | .scanComplete _ _ _ => .debug

/-- The part of the program that an event comes from. -/
def origin : Event → String
  | .tokenizeFailure _ _ _ => "extractors"
  | .readFailure _ _ _ => "extractors"
  | .testOnly _ => "extractors"
  | .loadFailure _ _ => "file_cache"
  | .skippedEntries _ _ => "file_cache"
  | .saveFailure _ _ => "file_cache"
  | .sourceVanished _ => "scan"
  | .extractionSkipped _ _ => "scan"
  | .scanComplete _ _ _ => "scan"

/-- The name of an event within its part. -/
def shortName : Event → String
  | .tokenizeFailure _ _ _ => "tokenize_failure"
  | .readFailure _ _ _ => "read_failure"
  | .testOnly _ => "test_only"
  | .loadFailure _ _ => "load_failure"
  | .skippedEntries _ _ => "skipped_entries"
  | .saveFailure _ _ => "save_failure"
  | .sourceVanished _ => "source_vanished"
  | .extractionSkipped _ _ => "extraction_skipped"
  | .scanComplete _ _ _ => "complete"

/-- The source of an event in reports. -/
def logger (e : Event) : String := "closuredeps." ++ e.origin

/-- The name of an event in reports. -/
def name (e : Event) : String := e.origin ++ "." ++ e.shortName

/-- The fields of an event. -/
def fields : Event → List (Text × Json)
  | .tokenizeFailure file label message =>
      [("file", .str file), ("error_type", .str label), ("error_message", .str message)]
  | .readFailure file label message =>
      [("file", .str file), ("error_type", .str label), ("error_message", .str message)]
  | .testOnly file => [("file", .str file)]
  | .loadFailure cacheFile label => [("cache_file", .str cacheFile), ("error_type", .str label)]
  | .skippedEntries cacheFile count => [("cache_file", .str cacheFile), ("skipped", .int count)]
  | .saveFailure cacheFile message =>
      [("cache_file", .str cacheFile), ("error_message", .str message)]
  | .sourceVanished file => [("file", .str file)]
  | .extractionSkipped file message => [("file", .str file), ("error_message", .str message)]
  | .scanComplete hits misses failed =>
      [("hits", .int hits), ("misses", .int misses), ("failed", .int failed)]

/-- An event as a list of its parts. -/
def toJson (e : Event) : Json :=
  .arr [.str e.severity.label, .str e.logger, .str e.name, .obj e.fields]

/-- An event as a line. -/
def line (e : Event) : String := e.severity.label ++ " " ++ e.logger ++ ": " ++ e.name

end Event

end GoogIndex
