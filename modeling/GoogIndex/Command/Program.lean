/-
  Command/Program.lean --- the program as a whole.

  Normative source: SPEC_FULL §4.5, `main`; §7 for the exit status.

  From the words of the command line, the environment and the input to what is printed
  and how the program ends.
-/
import GoogIndex.Command.Options
import GoogIndex.Command.Session

set_option autoImplicit false

namespace GoogIndex.Command

open GoogIndex.Scan GoogIndex.Storage

/-- How the program ends. -/
inductive Exit where
  | code (n : Nat)
  /-- a fault that nothing takes care of -/
  | uncaught (label : String)
  deriving DecidableEq, Repr, Inhabited

/-- The trace of a run: how it ended, and the texts it printed, each with a line end
behind it. -/
structure Transcript where
  exit : Exit
  output : List String
  errors : List String
  deriving DecidableEq, Repr, Inhabited

/-- Whether an event is printed (SPEC_FULL §8). -/
def isShown (verbose : Bool) (e : Event) : Bool :=
  match e.severity with
  | .debug => verbose
  | .warning => true
  | .error => true

/-- The lines for events. -/
def eventLines (verbose : Bool) (events : List Event) : List String :=
  (events.filter (isShown verbose)).map Event.line

/-- A session as a run. -/
def runSession (t : Tree) (settings : Settings) (verbose : Bool) (input : String) :
    Tree × Transcript :=
  let s := serve t settings input
  let exit : Exit :=
    match s.fault with
    | some f => .uncaught f.label
    | none => .code 0
  (s.tree, ⟨exit, s.replies.map Json.write, eventLines verbose s.events⟩)

/-- A single command as a run. -/
def runCommand (t : Tree) (settings : Settings) (verbose : Bool)
    (command project : Text) (rawArgs : String) : Tree × Transcript :=
  let r := runSingle t settings command project rawArgs
  let shown := eventLines verbose r.events
  match r.outcome with
  | .printed result => (r.tree, ⟨.code 0, [result.write], shown⟩)
  | .failed report => (r.tree, ⟨.code 1, [], shown ++ [report.toJson.write]⟩)
  | .beyond f => (r.tree, ⟨.uncaught f.label, [], shown⟩)

/-- The end of a single command whose arguments were taken away: there is nothing to be
read. -/
def withoutArgs : Exit := .uncaught "TypeError"

/-- Run the program (SPEC_FULL §4.5, `main`). -/
def run (t : Tree) (settings : Settings) (words : List String) (input : String) :
    Tree × Transcript :=
  match Options.ofWords words with
  | .error .help => (t, ⟨.code 0, helpLines, []⟩)
  | .error (.fault f) => (t, ⟨.code 2, [], faultReport f⟩)
  | .ok o =>
      if o.sidecar then runSession t settings o.verbose input
      else
        match given (o.command.map .ofString), given (o.project.map .ofString), o.args with
        | some command, some project, some args =>
            runCommand t settings o.verbose command project args
        | some _, some _, none => (t, ⟨withoutArgs, [], []⟩)
        | _, _, _ => (t, ⟨.code 2, [], faultReport .incomplete⟩)

end GoogIndex.Command
