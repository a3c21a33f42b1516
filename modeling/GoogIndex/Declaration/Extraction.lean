/-
  Declaration/Extraction.lean --- the record of a source.

  Normative source: SPEC_FULL §4.1, `extract_source`; §7 for failures.

  A source is cut into tokens and its declarations are collected.  A source that is
  only for tests declares nothing; the base file provides `goog` in addition, which
  its marker says.  A source that is no script text, or cannot be read, is a failure,
  and each failure is also reported as an event.
-/
import GoogIndex.Declaration.Marker
import GoogIndex.Declaration.Record
import GoogIndex.Declaration.Window
import GoogIndex.Event
import GoogIndex.Script.Grammar
import GoogIndex.Script.Source
import GoogIndex.Storage.Access

set_option autoImplicit false

namespace GoogIndex

open GoogIndex.Script GoogIndex.Storage

/-- A record, with the syntax tree if that was kept. -/
structure Extraction where
  record : Record
  tree : Option SyntaxTree
  deriving DecidableEq, Repr, Inhabited

/-- Why a source has no record. -/
inductive ExtractionCause where
  /-- the text is not a sequence of tokens -/
  | script (f : ScanFault)
  /-- the tokens are not a script -/
  | grammar (f : Grammar.Fault)
  | unreadable (f : ReadFault)
  deriving DecidableEq, Repr, Inhabited

/-- The kind of a cause in reports. -/
def ExtractionCause.label : ExtractionCause → String
  | .script f => f.label
  | .grammar f => f.label
  | .unreadable f => f.label

/-- The report of a cause. -/
def ExtractionCause.message : ExtractionCause → String
  | .script f => f.message
  | .grammar f => f.message
  | .unreadable f => f.message

/-- A failure of extraction: the source and the cause (SPEC_FULL §7, `ExtractionError`). -/
structure ExtractionFailure where
  path : Text
  cause : ExtractionCause
  deriving DecidableEq, Repr, Inhabited

/-- The report of a failure. -/
def ExtractionFailure.message (f : ExtractionFailure) : Text := f.path ++ ": " ++ f.cause.message

/-- Why extraction gives no record. -/
inductive ExtractionFault where
  /-- the source is to blame -/
  | failed (f : ExtractionFailure)
  /-- the path names nothing -/
  | broken (b : Breach)
  deriving DecidableEq, Repr, Inhabited

/-- The kind of a fault in reports. -/
def ExtractionFault.label : ExtractionFault → String
  | .failed _ => "ExtractionError"
  | .broken b => b.label

/-- The report of a fault. -/
def ExtractionFault.message : ExtractionFault → Text
  | .failed f => f.message
  | .broken b => b.message

/-- An outcome, with the events on the way to it. -/
structure Reported (α : Type) where
  outcome : α
  events : List Event
  deriving Repr, Inhabited

/-- The declarations of a source, from its tokens and its text. -/
def declarationsOf (tokens : List Token) (source : String) : Declarations :=
  let d := if isTestOnly tokens then .none else scanDeclarations tokens
  if hasProvideGoogFlag source then { d with provides := d.provides ++ ["goog"] } else d

/-- What the grammar and the tokens of a source give.  The tree is looked for first. -/
def readScript (source : String) (keepTree : Bool) :
    Except ExtractionCause (Option SyntaxTree × List Token) := do
  let tree ← if keepTree then ((parseScript source).mapError .grammar).map some else .ok none
  let tokens ← (tokenize source).mapError .script
  return (tree, tokens)

/-- The record that declarations make under a path. -/
def Declarations.record (d : Declarations) (path : Text) : Record :=
  ⟨path, d.provides.map Text.ofString, d.requires.map Text.ofString, d.isModule⟩

/-- The record of a source text under a path (SPEC_FULL §4.1, `extract_source`). -/
def extractSource (source : String) (path : Text) (keepTree : Bool) :
    Reported (Except ExtractionFailure Extraction) :=
  match readScript source keepTree with
  | .error f => ⟨.error ⟨path, f⟩, [.tokenizeFailure path f.label f.message]⟩
  | .ok (tree, tokens) =>
      ⟨.ok ⟨(declarationsOf tokens source).record path, tree⟩,
        if isTestOnly tokens then [.testOnly path] else []⟩

/-- The record of a source in a tree (SPEC_FULL §4.1, `ClosureExtractor`). -/
def extractFile (t : Tree) (path : Text) (keepTree : Bool) :
    Reported (Except ExtractionFault Extraction) :=
  match t.textOf (PathName.ofText path).toText with
  | .error (.access (.broken b)) => ⟨.error (.broken b), []⟩
  | .error f =>
      ⟨.error (.failed ⟨path, .unreadable f⟩), [.readFailure path f.label f.message]⟩
  | .ok source =>
      let r := extractSource source path keepTree
      ⟨r.outcome.mapError .failed, r.events⟩

end GoogIndex
