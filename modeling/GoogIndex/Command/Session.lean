/-
  Command/Session.lean --- commands from requests and from the command line.

  Normative source: SPEC_FULL §4.5, `_run_sidecar` and `_run_single`; §7 for what is reported.

  A request is one line of a stream and gets one line in reply.  A single command gets
  its result, or a report of what went wrong.  Values that are too large to be read,
  by nesting or by digits, end the program in both cases.
-/
import GoogIndex.Command.Dispatch

set_option autoImplicit false

namespace GoogIndex.Command

open GoogIndex.Scan GoogIndex.Storage

/-- What reading a value from outside gives: a value, or a mistake in its text. -/
inductive Received where
  | value (v : Json)
  | malformed (message : String)
  /-- the text goes beyond a limit -/
  | beyond (f : Json.Fault)

/-- The most containers that may be open at once where a value from outside is read. -/
def depthLimit : Nat := 990

/-- Read a value from outside. -/
def receive (text : String) : Received :=
  match Json.read depthLimit text with
  | .ok v => .value v
  | .error (.malformed problem line column offset) =>
      .malformed (Json.Fault.malformed problem line column offset).message
  | .error f => .beyond f

/-! ## Requests -/

/-- A reply with an error. -/
def errorReply (id : Json) (label : String) (message : Text) : Json :=
  .obj [("id", id), ("error", .obj [("type", .str label), ("message", .str message)])]

/-- A reply with a result. -/
def resultReply (id result : Json) : Json := .obj [("id", id), ("result", result)]

/-- Carry out the request that these members describe (SPEC_FULL §4.5). -/
def answerRequest (t : Tree) (settings : Settings) (members : List (Text × Json)) : Ran Json :=
  let id := (Json.member? members "id").getD .null
  let command := (Json.member? members "command").getD (.str "")
  let project := (Json.member? members "project").getD (.str "")
  let args := (Json.member? members "args").getD (.obj [])
  let r := dispatch t settings command project args
  match r.outcome with
  | .ok result => ⟨r.tree, resultReply id result, r.events⟩
  | .error f => ⟨r.tree, errorReply id f.label f.message, r.events⟩

/-- The reply to a line without blanks around it. -/
def answerText (t : Tree) (settings : Settings) (text : String) : Ran (Except Json.Fault Json) :=
  match receive text with
  | .beyond f => ⟨t, .error f, []⟩
  | .malformed message => ⟨t, .ok (errorReply .null "InvalidJSON" message), []⟩
  | .value (.obj members) =>
      let r := answerRequest t settings members
      ⟨r.tree, .ok r.outcome, r.events⟩
  | .value v =>
      let message := "Expected a JSON object, got " ++ v.typeName
      ⟨t, .ok (errorReply .null "InvalidRequest" message), []⟩

/-- The most containers that may stand within each other in a reply.  A reply holds the name of
its request, so a request at the limit of reading may have one that is beyond this. -/
def replyLimit : Nat := 989

/-- What ends a session before its input does. -/
inductive SessionFault where
  /-- a request goes beyond a limit of reading -/
  | unread (f : Json.Fault)
  /-- a reply goes beyond the limit of writing -/
  | unwritable
  deriving DecidableEq, Repr, Inhabited

/-- The kind of a fault in reports. -/
def SessionFault.label : SessionFault → String
  | .unread f => f.label
  | .unwritable => "RecursionError"

/-- What a session has done so far: its replies, and the fault that ended it. -/
structure Session where
  tree : Tree
  replies : List Json
  events : List Event
  fault : Option SessionFault
  deriving Inhabited

/-- The first line of every session. -/
def readyReply : Json := .obj [("status", .str "ready")]

/-- The start of a session. -/
def Session.start (t : Tree) : Session := ⟨t, [readyReply], [], none⟩

/-- Write a reply.  What the request did is done, whether or not the reply can be written. -/
def Session.reply (s : Session) (r : Ran Json) : Session :=
  let s := { s with tree := r.tree, events := s.events ++ r.events }
  if replyLimit < r.outcome.depth then { s with fault := some .unwritable }
  else { s with replies := s.replies ++ [r.outcome] }

/-- Take one line; a blank line gets no reply, and a session that has ended takes no
more. -/
def Session.take (settings : Settings) (s : Session) (line : String) : Session :=
  let text := Text.trim line
  if s.fault.isSome || text = "" then s
  else
    let r := answerText s.tree settings text
    match r.outcome with
    | .ok reply => s.reply ⟨r.tree, reply, r.events⟩
    | .error f => { s with fault := some (.unread f) }

/-- A whole session on the text of its input (SPEC_FULL §4.5, `_run_sidecar`). -/
def serve (t : Tree) (settings : Settings) (input : String) : Session :=
  (Text.inputLines input).foldl (Session.take settings) (Session.start t)

/-! ## Single commands -/

/-- The report of a command that failed (SPEC_FULL §7, `_error_exit`). -/
structure FailureReport where
  label : String
  message : Text
  deriving DecidableEq, Repr, Inhabited

/-- The trace of a failure names its kind and its message. -/
def FailureReport.trace (r : FailureReport) : Text := r.label ++ ": " ++ r.message ++ "\n"

/-- A report as a value. -/
def FailureReport.toJson (r : FailureReport) : Json :=
  .obj [("error", .str r.label), ("message", .str r.message), ("traceback", .str r.trace)]

/-- How a single command ends. -/
inductive SingleOutcome where
  | printed (result : Json)
  | failed (r : FailureReport)
  /-- the arguments go beyond a limit -/
  | beyond (f : Json.Fault)

/-- Carry out a single command, with its arguments as text (SPEC_FULL §4.5, `_run_single`). -/
def runSingle (t : Tree) (settings : Settings) (command project : Text) (rawArgs : String) :
    Ran SingleOutcome :=
  match receive rawArgs with
  | .beyond f => ⟨t, .beyond f, []⟩
  | .malformed message =>
      ⟨t, .failed ⟨"InvalidArgs", "Failed to parse --args JSON: " ++ message⟩, []⟩
  | .value args =>
      let r := dispatch t settings (.str command) (.str project) args
      match r.outcome with
      | .ok result => ⟨r.tree, .printed result, r.events⟩
      | .error f => ⟨r.tree, .failed ⟨f.label, f.message⟩, r.events⟩

end GoogIndex.Command
