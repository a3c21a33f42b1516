/-
  Proofs/Declaration/Recovery.lean --- extraction recovers what was declared.

  Normative source: SPEC_FULL §4.1, `extract_source`; §11.

  A source is rendered from statements: declarations, each a call on `goog` with one literal,
  and literals that stand alone.  Any fillings may stand between its tokens.  Extraction gives
  the namespaces of the declarations in their order, whatever the fillings and the lone
  literals say, and only the marker of the base file is read from the text itself.
-/
import GoogIndex.Declaration.Extraction
import GoogIndex.Proofs.Script.Rendering

set_option autoImplicit false

namespace GoogIndex

open GoogIndex.Script

/-! ## Statements -/

/-- The methods of `goog` that are declarations. -/
inductive DeclarationMethod where
  | provide
  | require
  | module
  | setTestOnly
  deriving DecidableEq, Repr, Inhabited

/-- The name of a method. -/
def DeclarationMethod.name : DeclarationMethod → String
  | .provide => "provide"
  | .require => "require"
  | .module => "module"
  | .setTestOnly => "setTestOnly"

/-- A statement of a rendered source. -/
inductive Statement where
  | declaration (method : DeclarationMethod) (name : PlainLiteral)
  | filler (text : PlainLiteral)

namespace Statement

/-- The tokens of a statement. -/
def tokens : Statement → List Token
  | .declaration method name =>
      [⟨.identifier, "goog"⟩, ⟨.punctuator, "."⟩, ⟨.identifier, method.name⟩, ⟨.punctuator, "("⟩,
        name.token, ⟨.punctuator, ")"⟩, ⟨.punctuator, ";"⟩]
  | .filler text => [text.token, ⟨.punctuator, ";"⟩]

/-- The namespace that a statement provides. -/
def provided? : Statement → Option String
  | .declaration .provide name => some name.text
  | .declaration .module name => some name.text
  | _ => none

/-- The namespace that a statement requires. -/
def required? : Statement → Option String
  | .declaration .require name => some name.text
  | _ => none

/-- Whether a statement is a declaration with this method. -/
def calls (method : DeclarationMethod) : Statement → Bool
  | .declaration called _ => called = method
  | .filler _ => false

/-- The call that a statement is. -/
def call? : Statement → Option GoogCall
  | .declaration method name => some ⟨method.name, name.source⟩
  | .filler _ => none

end Statement

/-- The source of statements, with fillings before, between and behind their tokens. -/
def renderStatements (gap : Nat → List Filling) (statements : List Statement) : String :=
  .ofList (render gap (statements.flatMap Statement.tokens))

/-! ## The tokens of a source -/

theorem plain_method (method : DeclarationMethod) :
    Token.Plain ⟨.identifier, method.name⟩ := by
  cases method <;> exact .word (by decide) (List.all_eq_true.mp (by decide)) (by decide)

theorem plain_goog : Token.Plain ⟨.identifier, "goog"⟩ :=
  .word (by decide) (List.all_eq_true.mp (by decide)) (by decide)

/-- A point or a parenthesis may follow a word. -/
theorem endsBefore_word (text : String) {c : Char} (hc : c ∈ ['.', '(']) :
    Token.endsBefore ⟨.identifier, text⟩ c = true := by
  have hpart : ∀ c ∈ ['.', '('], (!isIdentifierPart c) = true :=
    List.all_eq_true.mp rfl
  exact hpart c hc

/-- Everything but a point and a digit may follow a punctuator. -/
theorem endsBefore_mark (text : String) {c : Char} (hpoint : c ≠ '.')
    (hdigit : isDecimalDigit c = false) : Token.endsBefore ⟨.punctuator, text⟩ c = true := by
  simp [Token.endsBefore, hpoint, hdigit]

/-- A statement begins with a letter or a quote. -/
theorem head?_statements {statements : List Statement} {next : Token} {c : Char}
    (hnext : (statements.flatMap Statement.tokens).head? = some next)
    (hc : next.text.toList.head? = some c) : c ∈ ['g', '\'', '"'] := by
  cases statements with
  | nil => cases hnext
  | cons s rest =>
      cases s with
      | declaration method name =>
          cases hnext
          cases hc
          decide
      | filler text =>
          cases hnext
          rw [PlainLiteral.token, text.toList_source, List.head?_cons, Option.some.injEq] at hc
          subst hc
          cases text.mark <;> decide

/-- One more token in front of spaced ones. -/
theorem spaced_cons (t next : Token) {ts : List Token} (h : t.Plain) {c : Char}
    {cs : List Char} (hnext : next.text.toList = c :: cs) (hends : t.endsBefore c = true)
    (hts : Spaced (next :: ts)) : Spaced (t :: next :: ts) := by
  refine .cons h ?_ hts
  intro next' heq d hd
  cases heq
  rw [hnext] at hd
  cases hd
  exact hends

/-- The tokens of a statement in front of spaced ones. -/
theorem spaced_statement (s : Statement) {ts : List Token} (hts : Spaced ts)
    (hfirst : ∀ next c, ts.head? = some next → next.text.toList.head? = some c →
      c ∈ ['g', '\'', '"']) : Spaced (s.tokens ++ ts) := by
  have hfronts : ∀ c ∈ ['g', '\'', '"'], c ≠ '.' ∧ isDecimalDigit c = false :=
    List.all_iff_forall_prop.mp (by decide)
  have hend : Spaced (⟨.punctuator, ";"⟩ :: ts) := by
    refine .cons (.mark (by decide)) (fun next hnext c hc => ?_) hts
    obtain ⟨hpoint, hdigit⟩ := hfronts c (hfirst next c hnext hc)
    exact endsBefore_mark _ hpoint hdigit
  cases s with
  | filler text => exact spaced_cons text.token _ (.literal text) rfl rfl hend
  | declaration method name =>
      obtain ⟨c, cs, hchars, hpoint, hdigit⟩ : ∃ c cs, method.name.toList = c :: cs ∧ c ≠ '.' ∧
          isDecimalDigit c = false := by
        cases method <;> exact ⟨_, _, rfl, by decide, by decide⟩
      have hquote : name.mark.char ≠ '.' ∧ isDecimalDigit name.mark.char = false := by
        cases name.mark <;> decide
      have hclose := spaced_cons ⟨.punctuator, ")"⟩ _ (.mark (by decide)) rfl
        (endsBefore_mark _ (by decide) (by decide)) hend
      have hname := spaced_cons name.token _ (.literal name) rfl rfl hclose
      have hopen := spaced_cons ⟨.punctuator, "("⟩ name.token (.mark (by decide))
        name.toList_source (endsBefore_mark _ hquote.1 hquote.2) hname
      have hmethod := spaced_cons ⟨.identifier, method.name⟩ _ (plain_method method) rfl
        (endsBefore_word _ (by decide)) hopen
      have hpoint := spaced_cons ⟨.punctuator, "."⟩ ⟨.identifier, method.name⟩
        (.mark (by decide)) hchars (endsBefore_mark _ hpoint hdigit) hmethod
      exact spaced_cons ⟨.identifier, "goog"⟩ _ plain_goog rfl
        (endsBefore_word _ (by decide)) hpoint

/-- The tokens of statements may stand directly behind each other. -/
theorem spaced_statements (statements : List Statement) :
    Spaced (statements.flatMap Statement.tokens) := by
  induction statements with
  | nil => exact .nil
  | cons s rest ih =>
      rw [List.flatMap_cons]
      exact spaced_statement s ih fun next c hnext hc => head?_statements hnext hc

/-! ## The calls of a source -/

/-- Only the word `goog` begins a call. -/
theorem googCalls_cons {t : Token} (h : ¬ (t.kind = .identifier ∧ t.text = "goog"))
    (ts : List Token) : googCalls (t :: ts) = googCalls ts := by
  have hnone : GoogCall.atFront? (t :: ts) = none := by
    unfold GoogCall.atFront?
    split
    · rename_i heq
      cases heq
      refine if_neg fun hall => h ?_
      simp only [Bool.and_eq_true, decide_eq_true_eq] at hall
      exact hall.1.1.1.1
    · rfl
  rw [googCalls, hnone]

/-- A declaration is one call, and a lone literal is none. -/
theorem googCalls_statement (s : Statement) (ts : List Token) :
    googCalls (s.tokens ++ ts) = s.call?.toList ++ googCalls ts := by
  cases s with
  | filler text =>
      rw [Statement.tokens, List.cons_append, List.cons_append,
        googCalls_cons (by simp [PlainLiteral.token]), googCalls_cons (by simp)]
      rfl
  | declaration method name =>
      have hmethod : ¬ (TokenKind.identifier = .identifier ∧ method.name = "goog") := by
        cases method <;> decide
      have hrest : googCalls ((Statement.declaration method name).tokens.tail ++ ts) =
          googCalls ts := by
        simp only [Statement.tokens, List.tail_cons, List.cons_append, List.nil_append]
        rw [googCalls_cons (by simp), googCalls_cons hmethod, googCalls_cons (by simp),
          googCalls_cons (by simp [PlainLiteral.token]), googCalls_cons (by simp),
          googCalls_cons (by simp)]
      have hcall : GoogCall.atFront? ((Statement.declaration method name).tokens ++ ts) =
          some ⟨method.name, name.source⟩ := rfl
      have hcons : (Statement.declaration method name).tokens ++ ts =
          ⟨.identifier, "goog"⟩ :: ((Statement.declaration method name).tokens.tail ++ ts) := rfl
      rw [hcons, googCalls, ← hcons, hcall]
      exact congrArg (List.cons _) hrest

/-- The calls of a rendered source are those of its declarations. -/
theorem googCalls_statements (statements : List Statement) :
    googCalls (statements.flatMap Statement.tokens) = statements.filterMap Statement.call? := by
  induction statements with
  | nil => rfl
  | cons s rest ih =>
      rw [List.flatMap_cons, googCalls_statement, ih]
      cases s <;> rfl

/-- A literal without its quotes is its text. -/
theorem unquote_source (l : PlainLiteral) : unquote l.source = l.text := by
  simp [unquote, l.toList_source]

/-! ## The record of a source -/

theorem filterMap_call?_declaration (method : DeclarationMethod) (name : PlainLiteral)
    (rest : List Statement) :
    (Statement.declaration method name :: rest).filterMap Statement.call? =
      ⟨method.name, name.source⟩ :: rest.filterMap Statement.call? := rfl

theorem isTestOnly_statements (statements : List Statement) :
    isTestOnly (statements.flatMap Statement.tokens) =
      statements.any (Statement.calls .setTestOnly) := by
  rw [isTestOnly, googCalls_statements]
  induction statements with
  | nil => rfl
  | cons s rest ih =>
      cases s with
      | filler text => exact ih
      | declaration method name =>
          rw [filterMap_call?_declaration, List.any_cons, List.any_cons, ih]
          cases method <;> rfl

/-- The declarations of rendered statements, in their order. -/
theorem scanDeclarations_statements (statements : List Statement) :
    scanDeclarations (statements.flatMap Statement.tokens) =
      ⟨statements.filterMap Statement.provided?, statements.filterMap Statement.required?,
        statements.any (Statement.calls .module)⟩ := by
  rw [scanDeclarations, googCalls_statements]
  induction statements with
  | nil => rfl
  | cons s rest ih =>
      simp only [Declarations.ofCalls, Declarations.mk.injEq] at ih
      obtain ⟨hprovides, hrequires, hmodule⟩ := ih
      cases s with
      | filler text =>
          rw [List.filterMap_cons_none rfl, Declarations.ofCalls, hprovides, hrequires, hmodule]
          rfl
      | declaration method name =>
          have hname := unquote_source name
          rw [filterMap_call?_declaration, Declarations.ofCalls]
          cases method <;>
            simp [List.filterMap_cons, DeclarationMethod.name, Statement.provided?,
              Statement.required?, Statement.calls, hprovides, hrequires, hmodule, hname]

/-- Extraction recovers what was declared.  A source with a declaration of `setTestOnly`
provides and requires nothing; any other provides the namespaces of `provide` and `module` and
requires those of `require`, in their order and as often as they are declared.  Only the marker
of the base file is looked for outside of declarations. -/
theorem extractSource_renderStatements (statements : List Statement) (gap : Nat → List Filling)
    (path : Text) :
    (extractSource (renderStatements gap statements) path false).outcome = .ok
      { record :=
          { path
            provides :=
              ((if statements.any (Statement.calls .setTestOnly) then []
                else statements.filterMap Statement.provided?) ++
              if hasProvideGoogFlag (renderStatements gap statements) then ["goog"] else []).map
                Text.ofString
            requires :=
              (if statements.any (Statement.calls .setTestOnly) then []
              else statements.filterMap Statement.required?).map Text.ofString
            isModule :=
              !statements.any (Statement.calls .setTestOnly) &&
                statements.any (Statement.calls .module) }
        tree := none } := by
  have htokens : tokenize (renderStatements gap statements) =
      .ok (statements.flatMap Statement.tokens) :=
    tokenize_render (spaced_statements statements) gap
  have hscript : readScript (renderStatements gap statements) false =
      .ok (none, statements.flatMap Statement.tokens) := by
    rw [readScript, htokens]
    rfl
  rw [extractSource, hscript]
  simp only [declarationsOf, isTestOnly_statements, scanDeclarations_statements]
  cases htest : statements.any (Statement.calls .setTestOnly) <;>
    cases hflag : hasProvideGoogFlag (renderStatements gap statements) <;>
      simp [Declarations.record, Declarations.none]

end GoogIndex
