/-
  Proofs/Declaration/Consuming.lean --- a call has its tokens for itself.

  Normative source: SPEC_FULL §4.1, the five-token windows.

  The window that slides over the tokens moves by one, also behind a call.  A single pass that
  takes a call out with all of its five tokens finds the same ones: where a call stands, no
  other one begins before its end.  So each call costs five tokens, and a token that is in no
  window cuts a stream into two that can be searched on their own.
-/
import GoogIndex.Declaration.Window

set_option autoImplicit false

namespace GoogIndex

open GoogIndex.Script

/-! ## Windows -/

namespace GoogCall

/-- The five tokens of a call. -/
def window (c : GoogCall) : List Token :=
  [⟨.identifier, "goog"⟩, ⟨.punctuator, "."⟩, ⟨.identifier, c.method⟩, ⟨.punctuator, "("⟩,
    ⟨.string, c.literal⟩]

theorem length_window (c : GoogCall) : c.window.length = 5 := rfl

/-- The call at the front is the one whose window stands there. -/
theorem atFront?_eq_some_iff {tokens : List Token} {c : GoogCall} :
    atFront? tokens = some c ↔ c.window <+: tokens := by
  constructor
  · intro h
    unfold atFront? at h
    split at h
    · rename_i object point method paren literal rest
      obtain ⟨objectKind, objectText⟩ := object
      obtain ⟨pointKind, pointText⟩ := point
      obtain ⟨methodKind, methodText⟩ := method
      obtain ⟨parenKind, parenText⟩ := paren
      obtain ⟨literalKind, literalText⟩ := literal
      split at h
      · rename_i hwindow
        cases h
        simp only [isPunctuator, Bool.and_eq_true, decide_eq_true_eq] at hwindow
        obtain ⟨⟨⟨⟨⟨rfl, rfl⟩, rfl, rfl⟩, rfl⟩, rfl, rfl⟩, rfl⟩ := hwindow
        exact ⟨rest, rfl⟩
      · cases h
    · cases h
  · rintro ⟨rest, rfl⟩
    simp [atFront?, window, isPunctuator]

/-- No call begins inside the window of another one. -/
theorem five_le_of_window {c d : GoogCall} {tokens : List Token} {k : Nat}
    (hc : c.window <+: tokens) (hd : d.window <+: tokens.drop k) (hk : 0 < k) : 5 ≤ k := by
  obtain ⟨rest, rfl⟩ := hc
  apply Nat.le_of_not_lt
  intro hlt
  -- the word `goog` could only be the method, and no point stands behind that
  have hinside : k = 1 ∨ k = 2 ∨ k = 3 ∨ k = 4 := by omega
  rcases hinside with rfl | rfl | rfl | rfl <;> simp [window] at hd

end GoogCall

/-! ## The calls behind a front -/

/-- Where no call begins in front of a place, all calls begin behind it. -/
theorem googCalls_eq_drop {tokens : List Token} {k : Nat}
    (h : ∀ j, j < k → ∀ c : GoogCall, ¬ c.window <+: tokens.drop j) :
    googCalls tokens = googCalls (tokens.drop k) := by
  induction k generalizing tokens with
  | zero => rfl
  | succ k ih =>
      cases tokens with
      | nil => rfl
      | cons t rest =>
          have hfront : GoogCall.atFront? (t :: rest) = none := by
            apply Option.eq_none_iff_forall_ne_some.mpr
            intro c hc
            exact h 0 (Nat.succ_pos k) c (GoogCall.atFront?_eq_some_iff.mp hc)
          have hrest : ∀ j, j < k → ∀ c : GoogCall, ¬ c.window <+: rest.drop j := by
            intro j hj
            exact h (j + 1) (Nat.succ_lt_succ hj)
          rw [googCalls, hfront]
          exact ih hrest

/-! ## A pass that takes calls out -/

/-- The calls that a single pass takes out of a token stream, with their places, counted from
`place`.  A call is taken with all of its tokens; any other token is passed over. -/
def takenCalls (place : Nat) : List Token → List (Nat × GoogCall)
  | [] => []
  | t :: rest =>
      match GoogCall.atFront? (t :: rest) with
      | some call => (place, call) :: takenCalls (place + 5) (rest.drop 4)
      | none => takenCalls (place + 1) rest
  termination_by tokens => tokens.length

/-- The pass takes out the calls that the sliding window finds. -/
theorem map_snd_takenCalls (place : Nat) (tokens : List Token) :
    (takenCalls place tokens).map Prod.snd = googCalls tokens := by
  fun_induction takenCalls place tokens with
  | case1 => rfl
  | case2 place t rest call hcall ih =>
      have hwindow := GoogCall.atFront?_eq_some_iff.mp hcall
      have hskip : googCalls rest = googCalls (rest.drop 4) := by
        apply googCalls_eq_drop
        intro j hj c hc
        have hfar := GoogCall.five_le_of_window (k := j + 1) hwindow hc (Nat.succ_pos j)
        omega
      rw [List.map_cons, ih, googCalls, hcall, hskip]
  | case3 place t rest hcall ih => rw [googCalls, hcall, ih]

/-- A call is taken out exactly where its window stands. -/
theorem mem_takenCalls_iff {place i : Nat} {tokens : List Token} {c : GoogCall} :
    (i, c) ∈ takenCalls place tokens ↔ place ≤ i ∧ c.window <+: tokens.drop (i - place) := by
  fun_induction takenCalls place tokens with
  | case1 => simp [GoogCall.window]
  | case2 place t rest call hcall ih =>
      have hwindow := GoogCall.atFront?_eq_some_iff.mp hcall
      rw [List.mem_cons, ih, Prod.mk.injEq, List.drop_drop]
      constructor
      · rintro (⟨rfl, rfl⟩ | ⟨hplace, hc⟩)
        · rw [Nat.sub_self]
          exact ⟨Nat.le_refl _, hwindow⟩
        · have hshift : i - place = 4 + (i - (place + 5)) + 1 := by omega
          rw [hshift, List.drop_succ_cons]
          exact ⟨by omega, hc⟩
      · rintro ⟨hplace, hc⟩
        rcases Nat.eq_or_lt_of_le hplace with rfl | hlt
        · rw [Nat.sub_self, List.drop_zero] at hc
          have hsame := hcall.symm.trans (GoogCall.atFront?_eq_some_iff.mpr hc)
          exact .inl ⟨rfl, (Option.some.inj hsame).symm⟩
        · have hfar := GoogCall.five_le_of_window hwindow hc (Nat.sub_pos_of_lt hlt)
          have hshift : i - place = 4 + (i - (place + 5)) + 1 := by omega
          rw [hshift, List.drop_succ_cons] at hc
          exact .inr ⟨by omega, hc⟩
  | case3 place t rest hcall ih =>
      rw [ih]
      constructor
      · rintro ⟨hplace, hc⟩
        have hshift : i - place = i - (place + 1) + 1 := by omega
        rw [hshift, List.drop_succ_cons]
        exact ⟨by omega, hc⟩
      · rintro ⟨hplace, hc⟩
        rcases Nat.eq_or_lt_of_le hplace with rfl | hlt
        · rw [Nat.sub_self, List.drop_zero] at hc
          rw [GoogCall.atFront?_eq_some_iff.mpr hc] at hcall
          cases hcall
        · have hshift : i - place = i - (place + 1) + 1 := by omega
          rw [hshift, List.drop_succ_cons] at hc
          exact ⟨hlt, hc⟩

/-- Calls are taken out in the order of their places, each behind the tokens of the one before. -/
theorem pairwise_takenCalls (place : Nat) (tokens : List Token) :
    (takenCalls place tokens).Pairwise fun a b => a.1 + 5 ≤ b.1 := by
  fun_induction takenCalls place tokens with
  | case1 => exact .nil
  | case2 place t rest call hcall ih =>
      refine List.pairwise_cons.mpr ⟨?_, ih⟩
      rintro ⟨i, c⟩ hmem
      exact (mem_takenCalls_iff.mp hmem).1
  | case3 place t rest hcall ih => exact ih

/-- Each call costs five tokens. -/
theorem five_mul_length_googCalls_le (tokens : List Token) :
    5 * (googCalls tokens).length ≤ tokens.length := by
  rw [← map_snd_takenCalls 0 tokens, List.length_map]
  generalize 0 = place
  fun_induction takenCalls place tokens with
  | case1 => exact Nat.zero_le _
  | case2 place t rest call hcall ih =>
      have hlong := (GoogCall.atFront?_eq_some_iff.mp hcall).length_le
      rw [GoogCall.length_window, List.length_cons] at hlong
      rw [List.length_drop] at ih
      rw [List.length_cons, List.length_cons]
      omega
  | case3 place t rest hcall ih =>
      rw [List.length_cons]
      omega

/-- A call declares at most one name. -/
theorem length_ofCalls_le (calls : List GoogCall) :
    (Declarations.ofCalls calls).provides.length + (Declarations.ofCalls calls).requires.length ≤
      calls.length := by
  simp only [Declarations.ofCalls, List.length_map, ← List.countP_eq_length_filter]
  induction calls with
  | nil => exact Nat.le_refl 0
  | cons c calls ih =>
      by_cases hrequire : c.method = "require"
      · simp only [List.countP_cons, List.length_cons, hrequire]
        simp
        omega
      · simp only [List.countP_cons, List.length_cons, hrequire]
        split <;> simp <;> omega

/-! ## Two streams -/

/-- A token that stands in no window: no word, no string, no point and no opening parenthesis. -/
structure Separates (x : Token) : Prop where
  notString : x.kind ≠ .string
  notIdentifier : x.kind ≠ .identifier
  notPoint : isPunctuator "." x = false
  notParen : isPunctuator "(" x = false

theorem Separates.not_mem_window {x : Token} (h : Separates x) (c : GoogCall) : x ∉ c.window := by
  obtain ⟨hstring, hidentifier, hpoint, hparen⟩ := h
  simp only [GoogCall.window, List.mem_cons, List.not_mem_nil, or_false, not_or]
  refine ⟨?_, ?_, ?_, ?_, ?_⟩ <;> rintro rfl
  · exact hidentifier rfl
  · cases hpoint
  · exact hidentifier rfl
  · cases hparen
  · exact hstring rfl

/-- A list without an element stands in front of it or not at all. -/
theorem prefix_append_cons_iff {α : Type} {l s t : List α} {x : α} (hx : x ∉ l) :
    l <+: s ++ x :: t ↔ l <+: s := by
  constructor
  · intro h
    induction s generalizing l with
    | nil =>
        cases l with
        | nil => exact List.nil_prefix
        | cons a l =>
            rw [List.nil_append, List.cons_prefix_cons] at h
            exact absurd (h.1 ▸ List.mem_cons_self) hx
    | cons b s ih =>
        cases l with
        | nil => exact List.nil_prefix
        | cons a l =>
            rw [List.cons_append, List.cons_prefix_cons] at h
            obtain ⟨rfl, hrest⟩ := h
            have hl : x ∉ l := fun hmem => hx (List.mem_cons_of_mem a hmem)
            exact List.cons_prefix_cons.mpr ⟨rfl, ih hl hrest⟩
  · intro h
    exact h.trans (List.prefix_append s (x :: t))

theorem atFront?_append_cons {x : Token} (h : Separates x) (s t : List Token) :
    GoogCall.atFront? (s ++ x :: t) = GoogCall.atFront? s := by
  apply Option.ext
  intro c
  rw [GoogCall.atFront?_eq_some_iff, GoogCall.atFront?_eq_some_iff]
  exact prefix_append_cons_iff (h.not_mem_window c)

/-- The calls of two streams with a separating token between them are those of each. -/
theorem googCalls_append_cons {x : Token} (h : Separates x) (s t : List Token) :
    googCalls (s ++ x :: t) = googCalls s ++ googCalls t := by
  induction s with
  | nil =>
      have hfront := atFront?_append_cons h [] t
      rw [List.nil_append] at hfront
      show googCalls (x :: t) = googCalls t
      rw [googCalls, hfront]
      rfl
  | cons a s ih =>
      have hfront := atFront?_append_cons h (a :: s) t
      rw [List.cons_append] at hfront ⊢
      rw [googCalls, googCalls, hfront, ih]
      cases GoogCall.atFront? (a :: s) <;> rfl

/-- What is declared by one of two streams or the other. -/
def Declarations.append (d e : Declarations) : Declarations :=
  ⟨d.provides ++ e.provides, d.requires ++ e.requires, d.isModule || e.isModule⟩

theorem Declarations.ofCalls_append (calls more : List GoogCall) :
    Declarations.ofCalls (calls ++ more) =
      (Declarations.ofCalls calls).append (Declarations.ofCalls more) := by
  simp only [Declarations.ofCalls, Declarations.append, List.filter_append, List.map_append,
    List.any_append]

/-- The sliding window is a pass that takes calls out.  Of every token stream it reads the
declarations of the calls that a single pass takes out with all of their tokens.  These are all
calls of the stream, each where its window stands, and no token belongs to two of them; so each
declared name costs five tokens.  A token that stands in no window cuts a stream in two: what is
declared is what the first part declares and then what the second one does. -/
theorem scanDeclarations_consuming :
    (∀ tokens : List Token,
      scanDeclarations tokens = .ofCalls ((takenCalls 0 tokens).map Prod.snd) ∧
      isTestOnly tokens = (takenCalls 0 tokens).any (fun q => q.2.method = "setTestOnly") ∧
      (∀ i c, (i, c) ∈ takenCalls 0 tokens ↔ c.window <+: tokens.drop i) ∧
      ((takenCalls 0 tokens).Pairwise fun a b => a.1 + 5 ≤ b.1) ∧
      5 * ((scanDeclarations tokens).provides.length +
        (scanDeclarations tokens).requires.length) ≤ tokens.length) ∧
    ∀ (s t : List Token) (x : Token), x.kind ≠ .string → x.kind ≠ .identifier →
      isPunctuator "." x = false → isPunctuator "(" x = false →
      scanDeclarations (s ++ [x] ++ t) = (scanDeclarations s).append (scanDeclarations t) ∧
      isTestOnly (s ++ [x] ++ t) = (isTestOnly s || isTestOnly t) := by
  constructor
  · intro tokens
    refine ⟨?_, ?_, ?_, pairwise_takenCalls 0 tokens, ?_⟩
    · rw [map_snd_takenCalls, scanDeclarations]
    · rw [isTestOnly, ← map_snd_takenCalls 0 tokens, List.any_map]
      rfl
    · intro i c
      rw [mem_takenCalls_iff, Nat.sub_zero]
      exact and_iff_right (Nat.zero_le i)
    · have hnames := length_ofCalls_le (googCalls tokens)
      have hcalls := five_mul_length_googCalls_le tokens
      calc 5 * ((scanDeclarations tokens).provides.length +
            (scanDeclarations tokens).requires.length)
          ≤ 5 * (googCalls tokens).length := Nat.mul_le_mul_left 5 hnames
        _ ≤ tokens.length := hcalls
  · intro s t x hstring hidentifier hpoint hparen
    have hcalls := googCalls_append_cons ⟨hstring, hidentifier, hpoint, hparen⟩ s t
    rw [List.append_assoc, List.singleton_append]
    constructor
    · rw [scanDeclarations, hcalls]
      exact Declarations.ofCalls_append _ _
    · rw [isTestOnly, hcalls, List.any_append]
      rfl

/-- The tokens of a call of `goog.goog` in front of a call of another method. -/
def callTokens (method name : String) : List Token :=
  (GoogCall.mk "goog" "'x'").window ++ [⟨.punctuator, ")"⟩] ++ (GoogCall.mk method name).window

/-- A semicolon between two streams, in each of which the window meets the word `goog` as a
method first. -/
theorem scanDeclarations_consuming_sample :
    let semicolon : Token := ⟨.punctuator, ";"⟩
    let provided := callTokens "provide" "'a'"
    let required := callTokens "require" "'b'"
    (semicolon.kind ≠ .string ∧ semicolon.kind ≠ .identifier ∧
      isPunctuator "." semicolon = false ∧ isPunctuator "(" semicolon = false) ∧
    (takenCalls 0 provided).map Prod.fst = [0, 6] ∧
    scanDeclarations (provided ++ [semicolon] ++ required) = ⟨["a"], ["b"], false⟩ ∧
    isTestOnly (provided ++ [semicolon] ++ required) = false := by
  intro semicolon provided required
  have hstring : semicolon.kind ≠ .string := by decide
  have hidentifier : semicolon.kind ≠ .identifier := by decide
  obtain ⟨hdeclared, htest⟩ := scanDeclarations_consuming.2 provided required semicolon hstring
    hidentifier rfl rfl
  refine ⟨⟨hstring, hidentifier, rfl, rfl⟩, ?_, ?_, ?_⟩
  · have hpairs : takenCalls 0 provided =
        [(0, GoogCall.mk "goog" "'x'"), (6, GoogCall.mk "provide" "'a'")] := by
      simp [takenCalls, provided, callTokens, GoogCall.window, GoogCall.atFront?, isPunctuator]
    rw [hpairs]
    rfl
  · rw [hdeclared]
    rfl
  · rw [htest]
    rfl

end GoogIndex
