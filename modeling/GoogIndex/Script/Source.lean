/-
  Script/Source.lean --- source text as a sequence of pieces.

  Normative source: SPEC_FULL §4.1 step 1, `tokenize`.

  Every character of an accepted source belongs to exactly one piece: a token or a
  piece of trivia.  Scanning goes over the characters once; each piece is measured at
  its first character and the rest of it is passed over.  The tokens are the pieces
  that are no trivia.

  A slash is read as a regular expression if the tokens before it allow one and the
  literal is well formed, and as a punctuator otherwise.
-/
import GoogIndex.Script.Lexeme
import GoogIndex.Script.SlashContext
import GoogIndex.Script.Trivia

set_option autoImplicit false

namespace GoogIndex.Script

/-- A piece of source. -/
inductive Piece where
  | trivia (t : Trivia) (text : String)
  | token (t : Token)
  deriving DecidableEq, Repr, Inhabited

/-- The source text of a piece. -/
def Piece.text : Piece → String
  | .trivia _ text => text
  | .token t => t.text

/-- The token of a piece. -/
def Piece.token? : Piece → Option Token
  | .trivia _ _ => none
  | .token t => some t

/-- Why a source cannot be cut into pieces. -/
inductive ScanFault where
  /-- a lexical problem in this line -/
  | lexical (problem : LexicalProblem) (line : Nat)
  /-- a slash where the tokens before it have no such position -/
  | position
  deriving DecidableEq, Repr, Inhabited

/-- The report of a fault. -/
def ScanFault.message : ScanFault → String
  | .lexical problem line => "Line " ++ toString line ++ ": " ++ problem.words
  | .position => "list index out of range"

/-- The kind of a fault in reports. -/
def ScanFault.label : ScanFault → String
  | .lexical _ _ => "Error"
  | .position => "IndexError"

/-- What scanning has to remember between pieces. -/
structure ScanContext where
  lineStart : Bool
  braces : List Brace
  slash : SlashContext
  deriving Inhabited

/-- Before the first piece. -/
def ScanContext.start : ScanContext := ⟨true, [], .start⟩

/-- After a piece. -/
def ScanContext.push (x : ScanContext) : Piece → ScanContext
  | .trivia t _ => { x with lineStart := t.opensLine x.lineStart }
  | .token t =>
      { lineStart := false, braces := bracesAfter x.braces t, slash := x.slash.push t }

/-- A fault before its line is known: a lexical fault has its distance from the
piece's start. -/
inductive PieceFault where
  | lexeme (fault : LexemeFault)
  | position
  deriving DecidableEq, Repr

/-- The regular expression at the front, if the context allows one and it is well
formed. -/
def scanSlash? (x : SlashContext) (cs : List Char) : Except PieceFault (Option Nat) :=
  if cs.head? = some '/' then
    match x.patternMayStart with
    | .error _ => .error .position
    | .ok false => .ok none
    | .ok true =>
        match scanPattern cs with
        | .ok length => .ok (some length)
        | .error _ => .ok none
  else .ok none

/-- The piece at the front and its length. -/
def scanPiece (x : ScanContext) (cs : List Char) : Except PieceFault (Piece × Nat) :=
  match scanTrivia x.lineStart cs with
  | .piece t length => .ok (.trivia t (.ofList (cs.take length)), length)
  | .unclosed => .error (.lexeme ⟨.illegal, cs.length⟩)
  | .token =>
      match scanSlash? x.slash cs with
      | .error e => .error e
      | .ok (some length) =>
          .ok (.token ⟨.regularExpression, .ofList (cs.take length)⟩, length)
      | .ok none =>
          match scanLexeme x.braces cs with
          | .error e => .error (.lexeme e)
          | .ok l => .ok (.token ⟨l.kind, .ofList (cs.take l.length)⟩, l.length)

/-- Cut the source into pieces: `skip` characters belong to the last piece, the next
character is at `offset`, and the pieces so far stand reversed in `done`. -/
def piecesFrom : (x : ScanContext) → (skip offset : Nat) → (done : List Piece) → List Char →
    Except (PieceFault × Nat) (List Piece)
  | _, _, _, done, [] => .ok done.reverse
  | x, skip + 1, offset, done, _ :: rest => piecesFrom x skip (offset + 1) done rest
  | x, 0, offset, done, c :: rest =>
      match scanPiece x (c :: rest) with
      | .error e => .error (e, offset)
      | .ok (piece, length) =>
          piecesFrom (x.push piece) (length - 1) (offset + 1) (piece :: done) rest

/-- The pieces of a source, in order. -/
def pieces (source : String) : Except ScanFault (List Piece) :=
  let cs := source.toList
  match piecesFrom .start 0 0 [] cs with
  | .ok ps => .ok ps
  | .error (.position, _) => .error .position
  | .error (.lexeme e, offset) => .error (.lexical e.problem (lineAt cs (offset + e.distance)))

/-- The tokens of a source, in order (SPEC_FULL §4.1 step 1, `tokenize`). -/
def tokenize (source : String) : Except ScanFault (List Token) :=
  (pieces source).map fun ps => ps.filterMap Piece.token?

/-- The comments of a source, in order. -/
def comments (source : String) : Except ScanFault (List Comment) :=
  (pieces source).map fun ps => ps.filterMap fun
    | .trivia (.comment c) _ => some c
    | _ => none

end GoogIndex.Script
