/-
  Script/Trivia.lean --- what stands between tokens.

  White space, line breaks and comments carry no token.  Besides the two usual forms
  of comments there are the two markup forms: `<!--` begins a line comment anywhere
  between tokens, `-->` only where nothing but white space and comments came before
  it on its line.
-/
import GoogIndex.Script.Character

set_option autoImplicit false

namespace GoogIndex.Script

/-- How a comment is written. -/
inductive CommentForm where
  | block
  | line
  /-- a line comment that begins with `<!--` -/
  | markupOpen
  /-- a line comment that begins with `-->` -/
  | markupClose
  deriving DecidableEq, Repr, Inhabited

/-- A comment: its form and the text between its delimiters. -/
structure Comment where
  form : CommentForm
  text : String
  deriving DecidableEq, Repr, Inhabited

/-- A piece of source between tokens. -/
inductive Trivia where
  | space
  | lineBreak
  | comment (c : Comment)
  deriving DecidableEq, Repr, Inhabited

/-- Whether `-->` may follow, given whether it might before.  Line breaks open a line,
and so do comments of the form `//`; nothing between tokens closes it. -/
def Trivia.opensLine : Trivia → Bool → Bool
  | .lineBreak, _ => true
  | .comment ⟨.line, _⟩, _ => true
  | _, before => before

/-- A comment that runs to the end of its line, from the text after its opening, which
has `opening` characters.  It takes its line terminator along. -/
def lineComment (form : CommentForm) (opening : Nat) (cs : List Char) : Trivia × Nat :=
  let text := cs.takeWhile fun c => !isLineTerminator c
  let stop :=
    match cs.drop text.length with
    | c :: rest => terminatorLength c rest
    | [] => 0
  (.comment ⟨form, .ofList text⟩, opening + text.length + stop)

/-- The length of the text before the first `*/`. -/
def blockTextLength? : (n : Nat) → List Char → Option Nat
  | n, '*' :: '/' :: _ => some n
  | n, _ :: rest => blockTextLength? (n + 1) rest
  | _, [] => none

/-- Either nothing between tokens stands at the front, or a piece of this length, or a
block comment that is not closed. -/
inductive TriviaScan where
  | token
  | piece (t : Trivia) (length : Nat)
  | unclosed
  deriving Repr

/-- The piece at the front of the source, if it is not a token. -/
def scanTrivia (lineStart : Bool) (cs : List Char) : TriviaScan :=
  match cs with
  | '/' :: '/' :: rest =>
      let (t, length) := lineComment .line 2 rest
      .piece t length
  | '/' :: '*' :: rest =>
      match blockTextLength? 0 rest with
      | some n => .piece (.comment ⟨.block, .ofList (rest.take n)⟩) (n + 4)
      | none => .unclosed
  | '<' :: '!' :: '-' :: '-' :: rest =>
      let (t, length) := lineComment .markupOpen 4 rest
      .piece t length
  | '-' :: '-' :: '>' :: rest =>
      if lineStart then
        let (t, length) := lineComment .markupClose 3 rest
        .piece t length
      else .token
  | c :: rest =>
      if isSpace c then .piece .space 1
      else if isLineTerminator c then .piece .lineBreak (terminatorLength c rest)
      else .token
  | [] => .token

/-- All trivia at the front: the comments, in order, and the length; `none` if a block
comment is not closed.  `skip` characters are accounted for, `n` were read, and the
comments so far stand reversed in `done`. -/
def triviaFrom : (lineStart : Bool) → (skip n : Nat) → (done : List Comment) → List Char →
    Option (List Comment × Nat)
  | _, _, n, done, [] => some (done.reverse, n)
  | lineStart, skip + 1, n, done, _ :: rest => triviaFrom lineStart skip (n + 1) done rest
  | lineStart, 0, n, done, c :: rest =>
      match scanTrivia lineStart (c :: rest) with
      | .token => some (done.reverse, n)
      | .unclosed => none
      | .piece t length =>
          let done := match t with
            | .comment k => k :: done
            | _ => done
          triviaFrom (t.opensLine lineStart) (length - 1) (n + 1) done rest

end GoogIndex.Script
