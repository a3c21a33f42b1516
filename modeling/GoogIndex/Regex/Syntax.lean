/-
  Regex/Syntax.lean --- which texts are regular expressions.

  The dialect has groups with and without names, assertions on both sides, atomic
  groups, conditional groups, inline flags and possessive repeats.  Only validity is
  decided here.  Four rules need more than the shape of the text: a reference needs a
  group that is complete, an assertion that looks behind needs one fixed width, a
  repeat needs something to repeat, and groups may be nested only so deep.  So the checker
  carries the groups seen so far and the room for more of them inside each other, and for
  each sequence its measure and the kind of its last item.

  A pattern is a list of code points, because an escape may name a code point that
  is no character.
-/
import GoogIndex.Regex.GroupName
import GoogIndex.Text.CharacterName

set_option autoImplicit false

namespace GoogIndex.Regex

/-! ## Units -/

/-- A code point of a pattern, alone or behind a backslash. -/
inductive Symbol where
  | plain (code : Nat)
  | escaped (code : Nat)
  deriving DecidableEq, Repr

/-- Pair each backslash with what it escapes; one at the very end escapes nothing. -/
def symbols? : List Nat → Option (List Symbol)
  | [] => some []
  | 0x5C :: c :: rest => (symbols? rest).map (.escaped c :: ·)
  | 0x5C :: [] => none
  | c :: rest => (symbols? rest).map (.plain c :: ·)

/-- A character as a symbol. -/
def sym (c : Char) : Symbol := .plain c.toNat

/-- Whether a code point is one of these characters. -/
def among (cs : String) (n : Nat) : Bool := cs.toList.any fun c => c.toNat == n

/-- Whether a symbol stands plainly for one of these characters. -/
def Symbol.isAmong (cs : String) : Symbol → Bool
  | .plain n => among cs n
  | .escaped _ => false

/-- The digits of the octal system. -/
def octalDigits : String := "01234567"

/-- The digits of the decimal system. -/
def decimalDigits : String := "0123456789"

/-- The digits of the hexadecimal system. -/
def hexDigits : String := "0123456789abcdefABCDEF"

/-- The ASCII letters. -/
def isLetter (n : Nat) : Bool := (65 ≤ n && n ≤ 90) || (97 ≤ n && n ≤ 122)

/-- The longest front of at most `most` symbols of this class, as code points. -/
def frontOf (cs : String) (most : Nat) (s : List Symbol) : List Nat :=
  ((s.take most).takeWhile (·.isAmong cs)).map fun
    | .plain n => n
    | .escaped n => n

/-- The number that digits spell in a base up to sixteen. -/
def numberOf (base : Nat) (digits : List Nat) : Nat :=
  digits.foldl (fun n d => n * base + ((Text.hexValue? (Char.ofNat d)).getD 0)) 0

/-! ## Measures -/

/-- The least and the greatest length of what an expression matches, and the levels of
groups, repeats and alternatives in it. -/
structure Measure where
  least : Nat
  most : Nat
  height : Nat
  deriving DecidableEq, Repr, Inhabited

/-- Lengths from here on are not told apart. -/
def lengthLimit : Nat := 0x10000000000000000

/-- The upper bound that stands for no bound. -/
def noBound : Nat := 0xFFFFFFFF

/-- The greatest length that an assertion may look behind. -/
def farthestBehind : Nat := 0x7FFFFFFF

/-- The levels that an expression may have. -/
def heightLimit : Nat := 982

namespace Measure

/-- A measure with its lengths within the limit. -/
def clamp (m : Measure) : Measure :=
  { m with least := min m.least lengthLimit, most := min m.most lengthLimit }

/-- One after the other. -/
def append (a b : Measure) : Measure :=
  clamp ⟨a.least + b.least, a.most + b.most, max a.height b.height⟩

/-- One or the other. -/
def either (a b : Measure) : Measure :=
  ⟨min a.least b.least, max a.most b.most, max a.height b.height⟩

/-- One level higher. -/
def raise (m : Measure) : Measure := { m with height := m.height + 1 }

/-- Repeated between `low` and `high` times. -/
def times (m : Measure) (low high : Nat) : Measure :=
  clamp ⟨m.least * low, if high = noBound ∧ m.most ≠ 0 then lengthLimit else m.most * high,
    m.height + 1⟩

/-- Nothing, at this height. -/
def nothing (height : Nat) : Measure := ⟨0, 0, height⟩

/-- Nothing. -/
def zero : Measure := nothing 0

/-- One character. -/
def one : Measure := ⟨1, 1, 0⟩

end Measure

/-! ## Sequences and groups -/

/-- What a repeat has to know about the item before it. -/
inductive ItemKind where
  /-- a position, which cannot be repeated -/
  | position
  /-- a repeat, which cannot be repeated again -/
  | repeated
  | other
  deriving DecidableEq, Repr

/-- A sequence: the measure of all but its last item, and that item. -/
structure Sequence where
  front : Measure
  last : Option (ItemKind × Measure)
  deriving Repr

namespace Sequence

/-- No items. -/
def empty : Sequence := ⟨.zero, none⟩

/-- The measure of the whole. -/
def measure (s : Sequence) : Measure :=
  match s.last with
  | none => s.front
  | some (_, m) => s.front.append m

/-- Add an item. -/
def push (s : Sequence) (kind : ItemKind) (m : Measure) : Sequence := ⟨s.measure, some (kind, m)⟩

end Sequence

/-- Where an expression stands: whether blanks in it are passed over, and how many levels
of nesting it may open. -/
structure Place where
  verbose : Bool
  room : Nat
  deriving Repr

/-- The place of a whole pattern. -/
def Place.outermost : Place := ⟨false, 980⟩

/-- The place inside of something that takes this many levels. -/
def Place.inside? (p : Place) (levels : Nat) : Option Place :=
  if levels ≤ p.room then some { p with room := p.room - levels } else none

/-- The groups and flags met so far.  A group's measure is known once it is closed, and a
reference to it matches as much, with no levels of its own. -/
structure Context where
  groups : List (Option Measure)
  names : List (List Nat × Nat)
  /-- inside an assertion that looks behind: the number of groups opened before it -/
  behind : Option Nat
  verbose : Bool
  ascii : Bool
  unicode : Bool
  /-- a flag under which nothing may be repeated -/
  template : Bool
  repeats : Bool
  /-- the greatest group number that a condition names -/
  farthest : Nat

namespace Context

/-- Before anything was read. -/
def start : Context := ⟨[none], [], none, false, false, false, false, false, 0⟩

/-- The measure of a reference to a closed group. -/
def closed? (x : Context) (group : Nat) : Option Measure := (x.groups[group]?).join

/-- Inside an assertion that looks behind, only groups closed before it count. -/
def mayRefer (x : Context) (group : Nat) : Bool :=
  match x.behind with
  | none => true
  | some limit => (x.closed? group).isSome && group < limit

/-- The number of a name. -/
def named? (x : Context) (name : List Nat) : Option Nat :=
  (x.names.find? fun n => n.1 == name).map (·.2)

/-- Open a group; a name may be used once. -/
def openGroup? (x : Context) (name : Option (List Nat)) : Option (Context × Nat) :=
  let group := x.groups.length
  let opened := { x with groups := x.groups ++ [none] }
  match name with
  | none => some (opened, group)
  | some n =>
      if (x.named? n).isSome then none
      else some ({ opened with names := (n, group) :: x.names }, group)

/-- Close a group. -/
def closeGroup (x : Context) (group : Nat) (m : Measure) : Context :=
  { x with groups := x.groups.set group (some { m with height := 0 }) }

end Context

/-! ## Escapes -/

/-- The symbols up to a terminator, which has to come, and those after it.  A name has
no escapes. -/
def nameUntil? (stop : Char) (s : List Symbol) : Option (List Nat × List Symbol) :=
  let front := s.takeWhile (· ≠ sym stop)
  let after := s.drop front.length
  if front.isEmpty ∨ after.isEmpty then none
  else
    match front.mapM (fun | Symbol.plain n => some n | Symbol.escaped _ => none) with
    | some name => some (name, after.drop 1)
    | none => none

/-- A name in braces after an escape letter: the code point and the symbols after it. -/
def namedEscape? (rest : List Symbol) : Option (Nat × List Symbol) := do
  let (name, after) ←
    match rest with
    | .plain 0x7B :: rest => nameUntil? '\x7d' rest
    | _ => none
  let code ← Text.characterNamed? (name.map Char.ofNat)
  return (code, after)

/-- A fixed count of hexadecimal digits after an escape letter: the code point and
the symbols after it. -/
def hexEscape? (count : Nat) (rest : List Symbol) : Option (Nat × List Symbol) :=
  let digits := frontOf hexDigits count rest
  let code := numberOf 16 digits
  if digits.length = count ∧ code ≤ 0x10FFFF then some (code, rest.drop count) else none

/-- A member of a character class. -/
inductive Member where
  | code (n : Nat)
  | category

/-- An escape inside a character class, and the symbols after it. -/
def classEscape? (c : Nat) (rest : List Symbol) : Option (Member × List Symbol) :=
  if among "abfnrtv\\" c then
    let value :=
      if among "a" c then 7 else if among "b" c then 8 else if among "t" c then 9
      else if among "n" c then 10 else if among "v" c then 11 else if among "f" c then 12
      else if among "r" c then 13 else 92
    some (.code value, rest)
  else if among "dDsSwW" c then some (.category, rest)
  else if among "x" c then (hexEscape? 2 rest).map fun r => (.code r.1, r.2)
  else if among "u" c then (hexEscape? 4 rest).map fun r => (.code r.1, r.2)
  else if among "U" c then (hexEscape? 8 rest).map fun r => (.code r.1, r.2)
  else if among "N" c then (namedEscape? rest).map fun r => (.code r.1, r.2)
  else if among octalDigits c then
    let more := frontOf octalDigits 2 rest
    let value := numberOf 8 (c :: more)
    if 0o377 < value then none else some (.code value, rest.drop more.length)
  else if among decimalDigits c || isLetter c then none
  else some (.code c, rest)

/-- The rest of a character class, after its bracket and its negation sign.  The first
member may be a closing bracket.  The answer is what follows the class. -/
def classRest? : (fuel : Nat) → (first : Bool) → List Symbol → Option (List Symbol)
  | 0, _, _ => none
  | _ + 1, _, [] => none
  | fuel + 1, first, s :: rest =>
      if s = sym ']' ∧ !first then some rest
      else do
        let (low, rest) ←
          match s with
          | .plain n => some (Member.code n, rest)
          | .escaped c => classEscape? c rest
        match rest with
        | .plain 0x2D :: .plain 0x5D :: rest => some rest
        | .plain 0x2D :: t :: rest => do
            let (high, rest) ←
              match t with
              | .plain n => some (Member.code n, rest)
              | .escaped c => classEscape? c rest
            match low, high with
            | .code a, .code b => if b < a then none else classRest? fuel false rest
            | _, _ => none
        | _ => classRest? fuel false rest

/-- The item that an escape outside of classes makes, and the symbols after it. -/
def itemEscape? (x : Context) (c : Nat) (rest : List Symbol) :
    Option (ItemKind × Measure × List Symbol) :=
  if among "AbBZ" c then some (.position, .zero, rest)
  else if among "dDsSwWafnrtv\\" c then some (.other, .one, rest)
  else if among "x" c then (hexEscape? 2 rest).map fun r => (.other, .one, r.2)
  else if among "u" c then (hexEscape? 4 rest).map fun r => (.other, .one, r.2)
  else if among "U" c then (hexEscape? 8 rest).map fun r => (.other, .one, r.2)
  else if among "N" c then (namedEscape? rest).map fun r => (.other, .one, r.2)
  else if among "0" c then
    some (.other, .one, rest.drop (frontOf octalDigits 2 rest).length)
  else if among decimalDigits c then
    let second := frontOf decimalDigits 1 rest
    let octal := frontOf octalDigits 2 rest
    if among octalDigits c && octal.length = 2 then
      if 0o377 < numberOf 8 (c :: octal) then none else some (.other, .one, rest.drop 2)
    else
      let group := numberOf 10 (c :: second)
      match x.closed? group with
      | some m => if x.mayRefer group then some (.other, m, rest.drop second.length) else none
      | none => none
  else if isLetter c then none
  else some (.other, .one, rest)

/-! ## Group openings -/

/-- The letters of inline flags. -/
def flagLetters : String := "iLmsxatu"

/-- Inline flags: for the whole pattern, or added and removed for one group. -/
inductive InlineFlags where
  | whole (add : List Nat)
  | group (add remove : List Nat)

/-- The flags that fix how characters are classified exclude each other. -/
def isTypeFlag (n : Nat) : Bool := among "aLu" n

/-- Read flags that are turned off, up to the colon. -/
def removedFlags? : List Nat → List Symbol → Option (List Nat × List Symbol)
  | done, .plain c :: rest =>
      if among ":" c then (if done.isEmpty then none else some (done, rest))
      else if among flagLetters c && !isTypeFlag c then removedFlags? (c :: done) rest
      else none
  | _, _ => none

/-- Read flags that are turned on, and those turned off after them. -/
def inlineFlags? : List Nat → List Symbol → Option (InlineFlags × List Symbol)
  | add, .plain c :: rest =>
      if among ")" c && !add.isEmpty then some (.whole add, rest)
      else if among ":" c && !add.isEmpty then
        if add.any (among "t") then none else some (.group add [], rest)
      else if among "-" c then do
        if add.any (among "t") then none
        let (remove, rest) ← removedFlags? [] rest
        if remove.any (among "t") ∨ add.any (remove.contains ·) then none
        return (.group add remove, rest)
      else if among flagLetters c then
        if among "L" c ∨ (isTypeFlag c ∧ add.any fun f => isTypeFlag f && f != c) then none
        else inlineFlags? (c :: add) rest
      else none
  | _, _ => none

/-- The bounds of a counted repeat after its opening brace, and the symbols after it.
Without its shape the brace stands for itself. -/
inductive Counted where
  | bounds (low high : Nat) (rest : List Symbol)
  | literal
  | invalid

/-- Read the bounds of a counted repeat. -/
def counted (s : List Symbol) : Counted :=
  if s.head? = some (sym '\x7d') then .literal
  else
    let low := frontOf decimalDigits s.length s
    let afterLow := s.drop low.length
    let comma := afterLow.head? = some (sym ',')
    let high := if comma then frontOf decimalDigits s.length (afterLow.drop 1) else low
    let rest := if comma then afterLow.drop (1 + high.length) else afterLow
    if rest.head? ≠ some (sym '\x7d') then .literal
    else
      let least := if low.isEmpty then 0 else numberOf 10 low
      let most := if high.isEmpty then noBound else numberOf 10 high
      if digitLimit < low.length ∨ digitLimit < high.length then .invalid
      else if (!low.isEmpty ∧ noBound ≤ least) ∨
          (!high.isEmpty ∧ (noBound ≤ most ∨ most < least)) then
        .invalid
      else .bounds least most (rest.drop 1)

/-- Apply a repeat to the last item; a question mark or plus sign after it changes
how it matches only. -/
def repeatLast? (s : Sequence) (low high : Nat) (rest : List Symbol) :
    Option (Sequence × List Symbol) :=
  match s.last with
  | some (.other, m) =>
      let rest := if (rest.head?.any (·.isAmong "?+")) then rest.drop 1 else rest
      some (⟨s.front, some (.repeated, m.times low high)⟩, rest)
  | _ => none

/-! ## Expressions -/

mutual

/-- Alternatives up to a closing parenthesis or the end; `first` holds for the first one.
`nested` tells a group from the whole pattern, whose verbosity follows the global flag. -/
def alternatives? : (fuel : Nat) → (place : Place) → (nested first : Bool) → Context →
    List Symbol → Option (Measure × Context × List Symbol)
  | 0, _, _, _, _, _ => none
  | fuel + 1, place, nested, first, x, s => do
      let (seq, x, rest) ← sequence? fuel place (first && !nested) .empty x s
      match rest with
      | .plain 0x7C :: rest => do
          let place := if nested then place else { place with verbose := x.verbose }
          let (m, x, rest) ← alternatives? fuel place nested false x rest
          return (seq.measure.raise.either m, x, rest)
      | _ => return (if first then seq.measure else seq.measure.raise, x, rest)

/-- Items up to a bar, a closing parenthesis or the end.  Global flags are allowed
while `first` holds and there is no item yet. -/
def sequence? : (fuel : Nat) → (place : Place) → (first : Bool) → Sequence → Context →
    List Symbol → Option (Sequence × Context × List Symbol)
  | 0, _, _, _, _, _ => none
  | _ + 1, _, _, seq, x, [] => some (seq, x, [])
  | fuel + 1, place, first, seq, x, s :: rest =>
      if s.isAmong "|)" then some (seq, x, s :: rest)
      else if place.verbose ∧ s.isAmong " \t\n\r\x0b\x0c" then
        sequence? fuel place first seq x rest
      else if place.verbose ∧ s = sym '#' then
        sequence? fuel place first seq x ((rest.dropWhile (· ≠ sym '\n')).drop 1)
      else
        match s with
        | .escaped c => do
            let (kind, m, rest) ← itemEscape? x c rest
            sequence? fuel place first (seq.push kind m) x rest
        | .plain c =>
            if among "[" c then do
              let rest := if rest.head? = some (sym '^') then rest.drop 1 else rest
              let rest ← classRest? (rest.length + 1) true rest
              sequence? fuel place first (seq.push .other .one) x rest
            else if among "^$" c then
              sequence? fuel place first (seq.push .position .zero) x rest
            else if among "?*+\x7b" c then
              let reading :=
                if among "?" c then Counted.bounds 0 1 rest
                else if among "*" c then .bounds 0 noBound rest
                else if among "+" c then .bounds 1 noBound rest
                else counted rest
              match reading with
              | .invalid => none
              | .literal => sequence? fuel place first (seq.push .other .one) x rest
              | .bounds low high rest => do
                  let (seq, rest) ← repeatLast? seq low high rest
                  sequence? fuel place first seq { x with repeats := true } rest
            else if among "(" c then
              match rest with
              | .plain 0x3F :: .plain 0x23 :: rest =>
                  -- a comment
                  let after := rest.dropWhile (· ≠ sym ')')
                  if after.isEmpty then none
                  else sequence? fuel place first seq x (after.drop 1)
              | .plain 0x3F :: rest =>
                  match rest with
                  | .plain k :: _ =>
                      if among flagLetters k || among "-" k then
                        match inlineFlags? [] rest with
                        | none => none
                        | some (.whole add, rest) =>
                            if !first ∨ seq.last.isSome then none
                            else
                              let x := { x with
                                verbose := x.verbose || add.any (among "x")
                                ascii := x.ascii || add.any (among "a")
                                unicode := x.unicode || add.any (among "u")
                                template := x.template || add.any (among "t") }
                              sequence? fuel { place with verbose := x.verbose } first seq x rest
                        | some (.group add remove, rest) => do
                            let inner := (place.verbose || add.any (among "x")) &&
                              !remove.any (among "x")
                            let (m, x, rest) ← closing? fuel { place with verbose := inner } x rest
                            sequence? fuel place first (seq.push .other m.raise) x rest
                      else do
                        let (m, x, rest) ← extension? fuel place x rest
                        sequence? fuel place first (seq.push .other m) x rest
                  | _ => none
              | _ => do
                  let (x, group) ← x.openGroup? none
                  let (m, x, rest) ← closing? fuel place x rest
                  sequence? fuel place first (seq.push .other m.raise) (x.closeGroup group m) rest
            else sequence? fuel place first (seq.push .other .one) x rest

/-- The inside of a group with its closing parenthesis.  It takes two levels, one for the
alternatives and one for each of them. -/
def closing? : (fuel : Nat) → (place : Place) → Context → List Symbol →
    Option (Measure × Context × List Symbol)
  | 0, _, _, _ => none
  | fuel + 1, place, x, s => do
      let inner ← place.inside? 2
      let (m, x, rest) ← alternatives? fuel inner true true x s
      match rest with
      | .plain 0x29 :: rest => return (m, x, rest)
      | _ => none

/-- A group that begins with a question mark, read after it: named groups and
references, plain and atomic groups, assertions, conditional groups.  A plain group
adds nothing to the height. -/
def extension? : (fuel : Nat) → (place : Place) → Context → List Symbol →
    Option (Measure × Context × List Symbol)
  | 0, _, _, _ => none
  | fuel + 1, place, x, s =>
      match s with
      | .plain 0x50 :: .plain 0x3C :: rest => do
          let (name, rest) ← nameUntil? '>' rest
          if !isName name then none
          let (x, group) ← x.openGroup? (some name)
          let (m, x, rest) ← closing? fuel place x rest
          return (m.raise, x.closeGroup group m, rest)
      | .plain 0x50 :: .plain 0x3D :: rest => do
          let (name, rest) ← nameUntil? ')' rest
          if !isName name then none
          let group ← x.named? name
          let m ← x.closed? group
          if x.mayRefer group then return (m, x, rest) else none
      | .plain 0x3A :: rest => closing? fuel place x rest
      | .plain 0x3E :: rest => do
          let (m, x, rest) ← closing? fuel place x rest
          return (m.raise, x, rest)
      | .plain 0x3D :: rest => do
          let (m, x, rest) ← closing? fuel place x rest
          return (.nothing (m.height + 1), x, rest)
      | .plain 0x21 :: rest => do
          let (m, x, rest) ← closing? fuel place x rest
          return (.nothing (m.height + 1), x, rest)
      | .plain 0x3C :: .plain k :: rest => do
          if !among "=!" k then none
          let before := x.behind
          let (m, x, rest) ← closing? fuel place
            { x with behind := some (before.getD x.groups.length) } rest
          if m.least ≠ m.most ∨ farthestBehind < m.least then none
          return (.nothing (m.height + 1), { x with behind := before }, rest)
      | .plain 0x28 :: rest => do
          let (name, rest) ← nameUntil? ')' rest
          let (group, x) ←
            if isName name then (x.named? name).map fun g => (g, x)
            else (groupNumber? name).map fun g => (g, { x with farthest := max x.farthest g })
          if !x.mayRefer group then none
          let inner ← place.inside? 1
          let (yes, x, rest) ← sequence? fuel inner false .empty x rest
          match rest with
          | .plain 0x29 :: rest => return (({ yes.measure with least := 0 }).raise, x, rest)
          | .plain 0x7C :: rest => do
              let (no, x, rest) ← sequence? fuel inner false .empty x rest
              match rest with
              | .plain 0x29 :: rest => return ((yes.measure.either no.measure).raise, x, rest)
              | _ => none
          | _ => none
      | _ => none

end

/-- Whether a pattern is a regular expression of the dialect. -/
def isValid (pattern : List Nat) : Bool :=
  match symbols? pattern with
  | none => false
  | some s =>
      match alternatives? (4 * s.length + 8) .outermost false true .start s with
      | some (m, x, []) =>
          decide (m.height ≤ heightLimit) && decide (x.farthest < x.groups.length)
            && !(x.ascii && x.unicode) && !(x.template && x.repeats)
      | _ => false

end GoogIndex.Regex
