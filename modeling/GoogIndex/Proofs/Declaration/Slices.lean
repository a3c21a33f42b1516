/-
  Proofs/Declaration/Slices.lean --- declared names are slices of the source.

  Normative source: SPEC_FULL §4.1 step 3, `_unquote`.

  The argument of a call is the fifth token of its window.  As windows slide from token to
  token, the arguments are some of the string tokens, in their order and each once.  A
  string token stands in the source between its quotes, at the place of its piece; so every
  name of a record is cut out of the source, and no two names share a character of it.
-/
import GoogIndex.Declaration.Extraction
import GoogIndex.Proofs.Script.Cutting

set_option autoImplicit false

namespace GoogIndex

open GoogIndex.Script

/-! ## Literals of a source -/

/-- A string literal at a place of a source. -/
structure Occurrence where
  start : Nat
  quote : Char
  text : String
  deriving DecidableEq, Repr, Inhabited

namespace Occurrence

/-- The characters of a literal. -/
def chars (o : Occurrence) : List Char := o.quote :: (o.text.toList ++ [o.quote])

/-- The offset behind a literal. -/
def stop (o : Occurrence) : Nat := o.start + o.chars.length

/-- A literal stands in a source that is cut into these pieces: its characters are there, they
are a string token of the source, and the quote at their ends does not end the string before. -/
structure StandsIn (o : Occurrence) (source : String) (ps : List Piece) : Prop where
  slice : o.chars <+: source.toList.drop o.start
  token : (o.start, .token ⟨.string, .ofList o.chars⟩) ∈ located 0 ps
  quotes : o.quote = '\'' ∨ o.quote = '"'
  enclosed : Enclosed o.quote o.text.toList

end Occurrence

/-- What a name is declared for. -/
inductive Role where
  | provided
  | required
  deriving DecidableEq, Repr, Inhabited

/-! ## Arguments of calls -/

namespace GoogCall

/-- The string token that a call has for its argument. -/
def argument (c : GoogCall) : Token := ⟨.string, c.literal⟩

/-- The role of the name in a call. -/
def role? (c : GoogCall) : Option Role :=
  if c.method = "provide" ∨ c.method = "module" then some .provided
  else if c.method = "require" then some .required
  else none

/-- The argument of a call, as a literal at this place. -/
def occurrence (start : Nat) (c : GoogCall) : Occurrence :=
  ⟨start, c.literal.toList.headD '"', unquote c.literal⟩

/-- The argument of the call at the front is the fifth token. -/
theorem argument_of_atFront {t : Token} {rest : List Token} {c : GoogCall}
    (h : atFront? (t :: rest) = some c) : rest.drop 3 = c.argument :: rest.drop 4 := by
  unfold atFront? at h
  split at h
  · rename_i object point method paren literal more heq
    cases heq
    split at h
    · rename_i hwindow
      cases h
      simp only [Bool.and_eq_true, decide_eq_true_eq] at hwindow
      obtain ⟨-, hkind⟩ := hwindow
      show literal :: more = ⟨.string, literal.text⟩ :: more
      rw [← hkind]
    · cases h
  · cases h

/-- A string token between quotes is the literal that it is read as. -/
theorem occurrence_of_quoted (start : Nat) {c : GoogCall} (h : c.argument.Quoted) :
    (c.occurrence start).chars = c.literal.toList ∧
      ((c.occurrence start).quote = '\'' ∨ (c.occurrence start).quote = '"') ∧
      Enclosed (c.occurrence start).quote (c.occurrence start).text.toList := by
  obtain ⟨quote, body, hquote, htext, hbody⟩ := h rfl
  have hliteral : c.literal.toList = quote :: (body ++ [quote]) := htext
  have hoccurrence : c.occurrence start = ⟨start, quote, .ofList body⟩ := by
    simp [occurrence, unquote, hliteral]
  rw [hoccurrence, hliteral]
  refine ⟨?_, hquote, ?_⟩
  · rw [Occurrence.chars, String.toList_ofList]
  · rwa [String.toList_ofList]

end GoogCall

/-- The arguments of the calls are tokens behind the first four, in their order. -/
theorem argument_sublist (tokens : List Token) :
    ((googCalls tokens).map GoogCall.argument).Sublist (tokens.drop 4) := by
  -- four tokens are left out so that the argument of a call is in front of those of later calls
  induction tokens with
  | nil => exact List.Sublist.refl []
  | cons t rest ih =>
      rw [List.drop_succ_cons]
      unfold googCalls
      split
      · rename_i call hcall
        rw [GoogCall.argument_of_atFront hcall, List.map_cons]
        exact ih.cons_cons _
      · have hstep : ((rest.drop 3).drop 1).Sublist (rest.drop 3) := List.drop_sublist 1 _
        rw [List.drop_drop] at hstep
        exact ih.trans hstep

/-! ## Places of arguments -/

/-- The tokens are some of the pieces. -/
theorem tokens_sublist (ps : List Piece) :
    ((ps.filterMap Piece.token?).map Piece.token).Sublist ps := by
  induction ps with
  | nil => exact List.Sublist.refl []
  | cons p ps ih =>
      cases p with
      | trivia t text => exact ih.cons _
      | token t => exact ih.cons_cons _

/-- What labels make of two lists that agree, element by element. -/
theorem exists_labelled {α β γ : Type} {f : α → β} {items : List α} {labelled : List (γ × β)}
    (h : items.map f = labelled.map (·.2)) :
    ∃ placed : List (γ × α), placed.map (·.2) = items ∧
      placed.map (fun q => (q.1, f q.2)) = labelled := by
  induction labelled generalizing items with
  | nil =>
      rw [List.map_nil, List.map_eq_nil_iff] at h
      exact ⟨[], h.symm, rfl⟩
  | cons first labelled ih =>
      obtain ⟨label, b⟩ := first
      rw [List.map_cons] at h
      obtain ⟨item, items, rfl, hitem, hitems⟩ := List.map_eq_cons_iff.mp h
      obtain ⟨placed, hplaced, hlabelled⟩ := ih hitems
      refine ⟨(label, item) :: placed, ?_, ?_⟩
      · rw [List.map_cons, hplaced]
      · rw [List.map_cons, hlabelled, hitem]

/-- Each call has its argument at a place of its own, and the places are in the order of the
calls. -/
theorem exists_placed (ps : List Piece) :
    ∃ placed : List (Nat × GoogCall),
      placed.map (·.2) = googCalls (ps.filterMap Piece.token?) ∧
      (placed.map fun q => (q.1, Piece.token q.2.argument)).Sublist (located 0 ps) := by
  have hsub : ((googCalls (ps.filterMap Piece.token?)).map fun c => Piece.token c.argument).Sublist
      ((located 0 ps).map (·.2)) := by
    have harguments := (argument_sublist (ps.filterMap Piece.token?)).trans (List.drop_sublist _ _)
    have htokens := (harguments.map Piece.token).trans (tokens_sublist ps)
    rw [map_snd_located]
    rwa [List.map_map] at htokens
  obtain ⟨kept, hkept, hcalls⟩ := List.sublist_map_iff.mp hsub
  obtain ⟨placed, hplaced, rfl⟩ := exists_labelled hcalls
  exact ⟨placed, hplaced, hkept⟩

/-! ## The record of a source -/

/-- The names that calls declare, with their places. -/
def declaredAt (placed : List (Nat × GoogCall)) : List (Role × Occurrence) :=
  placed.filterMap fun q => q.2.role?.map fun role => (role, q.2.occurrence q.1)

/-- Each call that declares a name has its place. -/
theorem roles_declaredAt (placed : List (Nat × GoogCall)) :
    (declaredAt placed).map (·.1) = (placed.map (·.2)).filterMap GoogCall.role? := by
  rw [declaredAt, List.map_filterMap, List.filterMap_map]
  congr 1
  funext q
  rw [Option.map_map]
  exact Option.map_id'

/-- The names for one role are those of its calls. -/
theorem texts_declaredAt (role : Role) (placed : List (Nat × GoogCall)) :
    ((declaredAt placed).filter (·.1 = role)).map (·.2.text) =
      ((placed.map (·.2)).filter fun c => c.role? = some role).map fun c => unquote c.literal := by
  induction placed with
  | nil => rfl
  | cons q placed ih =>
      obtain ⟨start, c⟩ := q
      rw [List.map_cons, List.filter_cons]
      cases hrole : c.role? with
      | none =>
          have hskip : declaredAt ((start, c) :: placed) = declaredAt placed :=
            List.filterMap_cons_none (by rw [hrole]; rfl)
          rw [hskip, ih]
          rfl
      | some other =>
          have hkeep : declaredAt ((start, c) :: placed) =
              (other, c.occurrence start) :: declaredAt placed :=
            List.filterMap_cons_some (by rw [hrole]; rfl)
          rw [hkeep, List.filter_cons]
          cases decEq other role with
          | isTrue heq => simp [heq, ih, GoogCall.occurrence]
          | isFalse hne => simp [hne, ih]

/-- What calls declare are the names of their two roles. -/
theorem ofCalls_eq (calls : List GoogCall) :
    (Declarations.ofCalls calls).provides =
        (calls.filter fun c => c.role? = some .provided).map (fun c => unquote c.literal) ∧
      (Declarations.ofCalls calls).requires =
        (calls.filter fun c => c.role? = some .required).map fun c => unquote c.literal := by
  constructor
  · apply congrArg (List.map _)
    apply List.filter_congr
    intro c _
    grind [GoogCall.role?]
  · apply congrArg (List.map _)
    apply List.filter_congr
    intro c _
    grind [GoogCall.role?]

/-- The tokens of a script are those of its pieces. -/
theorem pieces_of_readScript {source : String} {keepTree : Bool} {tree : Option SyntaxTree}
    {tokens : List Token} (h : readScript source keepTree = .ok (tree, tokens)) :
    ∃ ps, pieces source = .ok ps ∧ tokens = ps.filterMap Piece.token? := by
  have htokens : tokenize source = .ok tokens := by
    simp only [readScript, bind, Except.bind, pure, Except.pure] at h
    cases hread : tokenize source with
    | error f =>
        rw [hread] at h
        split at h
        · split at h <;> cases h
        · cases h
    | ok read =>
        rw [hread] at h
        split at h
        · split at h <;> cases h
          rfl
        · cases h
          rfl
  unfold tokenize at htokens
  cases hpieces : pieces source with
  | error f =>
      rw [hpieces] at htokens
      cases htokens
  | ok ps =>
      rw [hpieces] at htokens
      cases htokens
      exact ⟨ps, rfl, rfl⟩

/-- What tokens declare in a source.  The marker of the base file adds a name, and a source that
is only for tests has no others. -/
theorem declarationsOf_eq (tokens : List Token) (source : String) :
    (declarationsOf tokens source).provides =
        (if isTestOnly tokens then [] else (scanDeclarations tokens).provides) ++
          (if hasProvideGoogFlag source then ["goog"] else []) ∧
      (declarationsOf tokens source).requires =
        if isTestOnly tokens then [] else (scanDeclarations tokens).requires := by
  unfold declarationsOf
  cases isTestOnly tokens <;> cases hasProvideGoogFlag source <;>
    simp [Declarations.none]

/-- The argument of a call stands in the source, with the length of its token. -/
theorem standsIn_of_mem {source : String} {ps : List Piece} (h : pieces source = .ok ps)
    {start : Nat} {c : GoogCall} (hc : (start, Piece.token c.argument) ∈ located 0 ps) :
    (c.occurrence start).StandsIn source ps ∧
      (c.occurrence start).stop = start + c.argument.text.toList.length := by
  have hcut := cut_of_pieces h
  have hmem : Piece.token c.argument ∈ ps := by
    rw [← map_snd_located 0 ps]
    exact List.mem_map_of_mem (f := Prod.snd) hc
  obtain ⟨hchars, hquotes, henclosed⟩ :=
    GoogCall.occurrence_of_quoted start (hcut.quoted hmem)
  refine ⟨⟨?_, ?_, hquotes, henclosed⟩, ?_⟩
  · rw [hchars]
    exact hcut.slice hc
  · rw [hchars, String.ofList_toList]
    exact hc
  · rw [Occurrence.stop, hchars]
    rfl

/-- The names that the tokens of a source declare stand in it, one behind the other. -/
theorem exists_found {source : String} {ps : List Piece} (h : pieces source = .ok ps) :
    ∃ found : List (Role × Occurrence),
      (found.Pairwise fun a b => a.2.stop ≤ b.2.start) ∧
      (∀ f ∈ found, f.2.StandsIn source ps) ∧
      found.map (·.1) = (googCalls (ps.filterMap Piece.token?)).filterMap GoogCall.role? ∧
      (scanDeclarations (ps.filterMap Piece.token?)).provides =
        (found.filter (·.1 = .provided)).map (·.2.text) ∧
      (scanDeclarations (ps.filterMap Piece.token?)).requires =
        (found.filter (·.1 = .required)).map (·.2.text) := by
  obtain ⟨placed, hcalls, hplaced⟩ := exists_placed ps
  have hstands : ∀ q ∈ placed, (q.2.occurrence q.1).StandsIn source ps ∧
      (q.2.occurrence q.1).stop = q.1 + q.2.argument.text.toList.length := by
    intro q hq
    exact standsIn_of_mem h (hplaced.subset (List.mem_map_of_mem hq))
  have horder : placed.Pairwise fun a b => a.1 + a.2.argument.text.toList.length ≤ b.1 :=
    List.pairwise_map.mp ((pairwise_located 0 ps).sublist hplaced)
  refine ⟨declaredAt placed, ?_, ?_, ?_, ?_, ?_⟩
  · refine List.pairwise_filterMap.mpr (horder.imp_of_mem ?_)
    intro a b ha _ hle f hf g hg
    obtain ⟨_, _, rfl⟩ := Option.map_eq_some_iff.mp hf
    obtain ⟨_, _, rfl⟩ := Option.map_eq_some_iff.mp hg
    rw [(hstands a ha).2]
    exact hle
  · intro f hf
    obtain ⟨q, hq, hdeclared⟩ := List.mem_filterMap.mp hf
    obtain ⟨_, _, rfl⟩ := Option.map_eq_some_iff.mp hdeclared
    exact (hstands q hq).1
  · rw [roles_declaredAt, hcalls]
  · rw [texts_declaredAt, hcalls]
    exact (ofCalls_eq _).1
  · rw [texts_declaredAt, hcalls]
    exact (ofCalls_eq _).2

/-- Every name of a record is a slice of its source.  There are string literals in the source,
one behind the other and none overlapping another, each with the role for which its name is
declared: the texts between the quotes of those that are provided are what the record provides,
and those that are required what it requires, in order.  No call is left out, unless the source is
only for tests, which has no such literals; and only the marker of the base file adds a name of
its own. -/
theorem extractSource_slices {source : String} {path : Text} {keepTree : Bool} {e : Extraction}
    (h : (extractSource source path keepTree).outcome = .ok e) :
    ∃ ps, pieces source = .ok ps ∧ ∃ found : List (Role × Occurrence),
      (found.Pairwise fun a b => a.2.stop ≤ b.2.start) ∧
      (∀ f ∈ found, f.2.StandsIn source ps) ∧
      found.map (·.1) = (if isTestOnly (ps.filterMap Piece.token?) then []
        else (googCalls (ps.filterMap Piece.token?)).filterMap GoogCall.role?) ∧
      e.record.provides = ((found.filter (·.1 = .provided)).map (·.2.text) ++
        (if hasProvideGoogFlag source then ["goog"] else [])).map Text.ofString ∧
      e.record.requires = ((found.filter (·.1 = .required)).map (·.2.text)).map Text.ofString := by
  unfold extractSource at h
  split at h
  · cases h
  · rename_i tree tokens hscript
    cases h
    obtain ⟨ps, hpieces, rfl⟩ := pieces_of_readScript hscript
    obtain ⟨hprovides, hrequires⟩ := declarationsOf_eq (ps.filterMap Piece.token?) source
    refine ⟨ps, hpieces, ?_⟩
    cases htest : isTestOnly (ps.filterMap Piece.token?) with
    | true =>
        rw [htest] at hprovides hrequires
        exact ⟨[], List.Pairwise.nil, nofun, rfl, congrArg _ hprovides, congrArg _ hrequires⟩
    | false =>
        rw [htest] at hprovides hrequires
        obtain ⟨found, horder, hstands, hroles, hprovided, hrequired⟩ := exists_found hpieces
        refine ⟨found, horder, hstands, hroles, ?_, ?_⟩
        · rw [← hprovided]
          exact congrArg _ hprovides
        · rw [← hrequired]
          exact congrArg _ hrequires

/-- A base file with an escaped quote in a name. -/
theorem extractSource_slices_sample :
    let source := "/*@provideGoog*/goog.require(\"q\");goog.module('a\\'b')"
    let record : Record := ⟨"x.js", ["a\\'b", "goog"], ["q"], true⟩
    (extractSource source "x.js" false).outcome = .ok ⟨record, none⟩ ∧
      ∃ ps, pieces source = .ok ps ∧ ∃ found : List (Role × Occurrence),
        (found.Pairwise fun a b => a.2.stop ≤ b.2.start) ∧
        (∀ f ∈ found, f.2.StandsIn source ps) ∧
        found.map (·.1) = (if isTestOnly (ps.filterMap Piece.token?) then []
          else (googCalls (ps.filterMap Piece.token?)).filterMap GoogCall.role?) ∧
        record.provides = ((found.filter (·.1 = .provided)).map (·.2.text) ++
          (if hasProvideGoogFlag source then ["goog"] else [])).map Text.ofString ∧
        record.requires =
          ((found.filter (·.1 = .required)).map (·.2.text)).map Text.ofString := by
  have h : (extractSource "/*@provideGoog*/goog.require(\"q\");goog.module('a\\'b')" "x.js"
      false).outcome = .ok ⟨⟨"x.js", ["a\\'b", "goog"], ["q"], true⟩, none⟩ := rfl
  exact ⟨h, extractSource_slices h⟩

end GoogIndex
