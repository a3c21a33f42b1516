/-
  Script/Grammar/Reader.lean --- the token stream as the grammar reads it.

  The grammar sees one token ahead.  A token is scanned when the one before it is taken,
  under the rules that hold at that moment; a slash is a punctuator until the grammar
  asks for a regular expression in its place.  Comments are collected on the way.

  A problem is reported with a line: that of the offending token, that where the last
  token taken ends, or that which scanning has reached.
-/
import GoogIndex.Script.Grammar.Fault
import GoogIndex.Script.Grammar.Shape
import GoogIndex.Script.Lexeme
import GoogIndex.Script.SyntaxTree

set_option autoImplicit false

namespace GoogIndex.Script.Grammar

/-! ## Terminals -/

/-- A token as the grammar sees it. -/
structure Terminal where
  /-- its category; the end of the script has none -/
  kind : Option TokenKind
  /-- what it means: a string without its quotes, a template without its marks -/
  meaning : CodeText
  /-- the line in which it ends -/
  line : Nat
  octal : Bool
  /-- for a piece of a template: whether the template begins with it -/
  opens : Bool
  /-- for a piece of a template: whether the template ends with it -/
  closes : Bool
  deriving DecidableEq, Repr, Inhabited

/-- The text that a token means. -/
def Terminal.value (t : Terminal) : String := t.meaning.text

/-- Words that only strict mode reserves. -/
def strictReserved : List String :=
  ["implements", "interface", "package", "private", "protected", "public", "static", "yield", "let"]

/-- Words that are reserved for later editions. -/
def futureReserved : List String := ["enum", "export", "import", "super"]

/-- Names that strict mode does not let one bind. -/
def restrictedNames : List String := ["eval", "arguments"]

/-- The problem with a token that has no place. -/
def Terminal.problem (strict : Bool) (t : Terminal) : Problem :=
  match t.kind with
  | none => .unexpectedEnd
  | some .identifier => .unexpectedIdentifier
  | some .numeric => .unexpectedNumber
  | some .string => .unexpectedString
  | some .template => .unexpectedTemplate t.value
  | some .keyword =>
      if futureReserved.contains t.value then .unexpectedReserved
      else if strict && strictReserved.contains t.value then .reservedInStrict
      else .unexpectedToken t.value
  | some _ => .unexpectedToken t.value

/-! ## Positions -/

/-- A position in the source: what is left of it, whether it is the very start, the line,
and the open braces. -/
structure Cursor where
  rest : List Char
  atStart : Bool
  line : Nat
  braces : List Brace
  deriving Repr, Inhabited

namespace Cursor

/-- The first position of a source.  An empty source has no line. -/
def start (cs : List Char) : Cursor := ⟨cs, true, if cs.isEmpty then 0 else 1, []⟩

/-- Go some characters further. -/
def skip (c : Cursor) (n : Nat) : Cursor :=
  { c with
    rest := c.rest.drop n
    atStart := c.atStart && n == 0
    line := c.line + lineCount (c.rest.take n) }

/-- A lexical problem at some distance. -/
def fault {α : Type} (c : Cursor) (e : LexemeFault) : Except Fault α :=
  .error (.problem (.lexical e.problem) (c.skip e.distance).line)

/-- Go over what stands before the next token. -/
def skipTrivia (c : Cursor) : Except Fault (List Comment × Cursor) :=
  match triviaFrom c.atStart 0 0 [] c.rest with
  | some (comments, n) => .ok (comments, c.skip n)
  | none => c.fault ⟨.illegal, c.rest.length⟩

/-- The text of a piece of a template without its marks. -/
def templateText (raw : List Char) : String :=
  let inner := raw.drop 1
  .ofList (inner.take (inner.length - if raw.getLast? = some '\x7b' then 2 else 1))

/-- Scan a token, with its source text. -/
def scan (c : Cursor) : Except Fault (Terminal × String × Cursor) :=
  if c.rest.isEmpty then .ok (⟨none, .ofString "", c.line, false, false, false⟩, "", c)
  else
    match scanLexeme c.braces c.rest with
    | .error e => c.fault e
    | .ok l =>
        let raw := c.rest.take l.length
        let text := String.ofList raw
        let after := { c.skip l.length with braces := bracesAfter c.braces ⟨l.kind, text⟩ }
        let isTemplate := l.kind == .template
        let t : Terminal :=
          { kind := some l.kind
            meaning := if isTemplate then .ofString (templateText raw) else l.meaning
            line := after.line
            octal := l.octal
            opens := isTemplate && raw.head? == some '\x60'
            closes := isTemplate && raw.getLast? == some '\x60' }
        .ok (t, text, after)

end Cursor

/-! ## The state of parsing -/

/-- The rules that hold at some point of a script. -/
structure Context where
  strict : Bool
  allowIn : Bool
  allowStrictDirective : Bool
  /-- whether `yield` is a name -/
  allowYield : Bool
  /-- whether `await` is an operator -/
  allowAwait : Bool
  /-- whether what was read last can be assigned to -/
  isTarget : Bool
  /-- whether what was read last can be a parameter -/
  isBinding : Bool
  /-- the first default in an object that only a pattern can have -/
  patternDefault : Option Terminal
  inFunction : Bool
  inLoop : Bool
  inSwitch : Bool
  labels : List CodeText
  deriving Repr, Inhabited

/-- The rules at the start of a script. -/
def Context.start : Context :=
  ⟨false, true, true, true, false, false, false, none, false, false, false, []⟩

/-- Everything that parsing remembers. -/
structure State where
  /-- after the next token -/
  cursor : Cursor
  /-- at the next token -/
  place : Cursor
  next : Terminal
  /-- whether a line ends between the last token taken and the next one -/
  broken : Bool
  /-- the line of the last token taken -/
  lastLine : Nat
  /-- the tokens and comments so far, in reverse -/
  tokens : List Token
  comments : List Comment
  context : Context
  /-- the names bound by the pattern that is being read, in reverse -/
  bound : List Terminal
  /-- a bound on the length of all loops -/
  fuel : Nat
  deriving Inhabited

/-- A rule of the grammar. -/
abbrev Parse := StateT State (Except Fault)

namespace Parse

/-- Stop with a fault. -/
def fail {α : Type} (f : Fault) : Parse α := fun _ => .error f

/-- Stop with a problem in the line of the last token taken. -/
def failAfter {α : Type} (p : Problem) : Parse α := fun s => .error (.problem p s.lastLine)

/-- Stop with a problem in the line that scanning has reached. -/
def failAhead {α : Type} (p : Problem) : Parse α := fun s => .error (.problem p s.cursor.line)

/-- Stop with a problem of a token. -/
def failAt {α : Type} (t : Terminal) (p : Problem) : Parse α := fail (.problem p t.line)

/-- Stop at a token that has no place. -/
def unexpected {α : Type} (t : Terminal) : Parse α := do
  failAt t (t.problem (← get).context.strict)

/-- The next token. -/
def peek : Parse Terminal := return (← get).next

/-- The rules that hold. -/
def context : Parse Context := return (← get).context

/-- Change the rules. -/
def withContext (f : Context → Context) : Parse Unit :=
  modify fun s => { s with context := f s.context }

/-- What was read last is neither a target nor a parameter. -/
def noTarget : Parse Unit := withContext fun c => { c with isTarget := false, isBinding := false }

/-- What was read last can be assigned to, but is no parameter. -/
def memberTarget : Parse Unit :=
  withContext fun c => { c with isTarget := true, isBinding := false }

/-- Scan ahead from a position, behind the token `before`. -/
def scanAhead (s : State) (from? : Cursor) (before : Terminal) : Except Fault State := do
  let (comments, place) ← from?.skipTrivia
  let (t, raw, after) ← place.scan
  let reserved := s.context.strict && t.kind == some .identifier && strictReserved.contains t.value
  let t := if reserved then { t with kind := some .keyword } else t
  return { s with
    cursor := after
    place := place
    next := t
    broken := before.line != t.line
    lastLine := from?.line
    comments := comments.reverse ++ s.comments
    tokens :=
      match t.kind with
      | some kind => ⟨kind, raw⟩ :: s.tokens
      | none => s.tokens }

/-- Take the next token. -/
def take : Parse Terminal := fun s =>
  match scanAhead s s.cursor s.next with
  | .ok s' => .ok (s.next, s')
  | .error f => .error f

/-- Take the next token, a slash, as the start of a regular expression. -/
def takePattern : Parse Unit := fun s =>
  match scanPattern s.place.rest with
  | .error e => s.place.fault e
  | .ok length =>
      let after := s.place.skip length
      let t : Terminal := ⟨some .regularExpression, .ofString "", after.line, false, false, false⟩
      let token : Token := ⟨.regularExpression, .ofList (s.place.rest.take length)⟩
      match scanAhead { s with tokens := token :: s.tokens.drop 1 } after t with
      | .ok s' => .ok ((), s')
      | .error f => .error f

/-- The token after the next one.  Braces that it opens or closes count at once. -/
def lookBeyond : Parse Terminal := fun s =>
  match s.cursor.skipTrivia with
  | .error f => .error f
  | .ok (_, place) =>
      match place.scan with
      | .error f => .error f
      | .ok (t, _, after) =>
          .ok (t, { s with cursor := { s.cursor with braces := after.braces } })

/-! ## Conditions on the next token -/

/-- Whether a token is this punctuator. -/
def isSign (t : Terminal) (text : String) : Bool := t.kind == some .punctuator && t.value == text

/-- Whether the next token is this punctuator. -/
def sign (text : String) : Parse Bool := return isSign (← peek) text

/-- Whether the next token is one of these punctuators. -/
def signIn (texts : List String) : Parse Bool := do
  let t ← peek
  return t.kind == some .punctuator && texts.contains t.value

/-- Whether the next token is this reserved word. -/
def keyword (text : String) : Parse Bool := do
  let t ← peek
  return t.kind == some .keyword && t.value == text

/-- Whether the next token is this word, which is not reserved. -/
def word (text : String) : Parse Bool := do
  let t ← peek
  return t.kind == some .identifier && t.value == text

/-- Whether the script ends. -/
def atEnd : Parse Bool := return (← peek).kind.isNone

/-- Whether a line ends before the next token. -/
def lineBroken : Parse Bool := return (← get).broken

/-- Take this punctuator. -/
def expect (text : String) : Parse Unit := do
  let t ← take
  if !isSign t text then unexpected t

/-- Take this reserved word. -/
def expectKeyword (text : String) : Parse Unit := do
  let t ← take
  if t.kind != some .keyword || t.value != text then unexpected t

/-- The end of a statement: a semicolon, or a place where none is needed. -/
def endStatement : Parse Unit := do
  if ← sign ";" then
    let _ ← take
  else if !(← lineBroken) then
    if !(← atEnd) && !(← sign "\x7d") then unexpected (← peek)
    modify fun s => { s with lastLine := s.place.line }

/-! ## Expressions that may be patterns -/

/-- Read something on its own: it has to be an expression. -/
def isolate {α : Type} (p : Parse α) : Parse α := do
  let before ← context
  withContext fun c => { c with isBinding := true, isTarget := true, patternDefault := none }
  let result ← p
  if let some t := (← context).patternDefault then unexpected t
  withContext fun c =>
    { c with
      isBinding := before.isBinding
      isTarget := before.isTarget
      patternDefault := before.patternDefault }
  return result

/-- Read a part of something that may still turn out to be a pattern. -/
def inherit {α : Type} (p : Parse α) : Parse α := do
  let before ← context
  withContext fun c => { c with isBinding := true, isTarget := true, patternDefault := none }
  let result ← p
  withContext fun c =>
    { c with
      isBinding := c.isBinding && before.isBinding
      isTarget := c.isTarget && before.isTarget
      patternDefault := before.patternDefault.orElse fun _ => c.patternDefault }
  return result

/-! ## Loops -/

/-- Repeat a step until it gives a result. -/
def loop {α β : Type} (step : α → Parse (α ⊕ β)) : (fuel : Nat) → α → Parse β
  | 0, _ => fail .exhausted
  | fuel + 1, a => do
      match ← step a with
      | .inl a => loop step fuel a
      | .inr b => return b

/-- Repeat a step until it gives a result, within the bound of the source. -/
def repeatStep {α β : Type} (start : α) (step : α → Parse (α ⊕ β)) : Parse β := do
  loop step (← get).fuel start

/-- Read something with a list of bound names of its own, and return that too. -/
def collectBound {α : Type} (p : Parse α) : Parse (α × List Terminal) := do
  let outer := (← get).bound
  modify fun s => { s with bound := [] }
  let result ← p
  let found := (← get).bound.reverse
  modify fun s => { s with bound := outer }
  return (result, found)

end Parse

/-- The parts of the grammar that occur inside of each other. -/
inductive Nonterminal where
  | assignment
  | exponentiation
  | unary
  | leftHandSide
  | callee
  | statement
  | item
  /-- a pattern in a declaration with this word, if it is one -/
  | pattern (declaration : Option String)
  deriving DecidableEq, Repr, Inhabited

/-- How to read each of those parts. -/
abbrev Rules := Nonterminal → Parse Shape

end GoogIndex.Script.Grammar
