/-
  Decimal/Shortest.lean --- the fewest decimal digits that read back.

  The reals that round to a number form an interval around it.  For one digit, two
  digits and so on, the two multiples of the digit's unit next to the value are
  tested; the first length with a multiple inside the interval gives the digits,
  of two such multiples the nearer, and on a tie the even one.
-/
import GoogIndex.Decimal.Binary64

set_option autoImplicit false

namespace GoogIndex.Decimal

/-- The decimal `digits * 10 ^ exponent`, without a zero at the end of `digits`. -/
structure DecimalForm where
  digits : Nat
  exponent : Int
  deriving DecidableEq, Repr, Inhabited

/-- Drop the zeros at the end, at most `fuel` of them. -/
def DecimalForm.trim : Nat → Nat → Int → DecimalForm
  | 0, n, e => ⟨n, e⟩
  | fuel + 1, n, e => if n % 10 = 0 ∧ n ≠ 0 then trim fuel (n / 10) (e + 1) else ⟨n, e⟩

/-- How many decimal digits a number has. -/
def digitCount (n : Nat) : Nat := (Nat.toDigits 10 n).length

/-- The power of ten at or below `num / den`, as an exponent. -/
def magnitude (num den : Nat) : Int :=
  let guess : Int := (digitCount num : Int) - digitCount den
  -- the value lies between `10 ^ (guess - 1)` and `10 ^ (guess + 1)`
  let reaches : Bool :=
    if 0 ≤ guess then decide (den * powTen guess.toNat ≤ num)
    else decide (den ≤ num * powTen (-guess).toNat)
  if reaches then guess else guess - 1

/-- An interval of rationals over one denominator, with its inner point. -/
structure Interval where
  low : Nat
  middle : Nat
  high : Nat
  den : Nat
  closed : Bool

/-- The reals that round to `m * 2 ^ e`.  Below a power of two the neighbour is half
as far away.  The ends belong to the interval when the mantissa is even. -/
def Interval.around (m : Nat) (e : Int) : Interval :=
  let below := if m = powTwo 52 ∧ -1074 < e then 1 else 2
  let factor := if 0 ≤ e then powTwo e.toNat else 1
  let den := if 0 ≤ e then 4 else 4 * powTwo (-e).toNat
  ⟨(4 * m - below) * factor, 4 * m * factor, (4 * m + 2) * factor, den, m % 2 == 0⟩

/-- Whether `n * 10 ^ e` lies in the interval. -/
def Interval.holds (i : Interval) (n : Nat) (e : Int) : Bool :=
  let x := if 0 ≤ e then n * powTen e.toNat * i.den else n * i.den
  let scale := if 0 ≤ e then 1 else powTen (-e).toNat
  if i.closed then decide (i.low * scale ≤ x) && decide (x ≤ i.high * scale)
  else decide (i.low * scale < x) && decide (x < i.high * scale)

/-- The choice between the two multiples of `10 ^ e` next to the inner point. -/
def Interval.pick (i : Interval) (e : Int) : Option Nat :=
  let num := if 0 ≤ e then i.middle else i.middle * powTen (-e).toNat
  let den := if 0 ≤ e then i.den * powTen e.toNat else i.den
  let q := num / den
  let r := num % den
  let lower := i.holds q e
  let upper := i.holds (q + 1) e
  if lower && upper then
    some (if 2 * r < den then q else if den < 2 * r then q + 1 else if q % 2 = 0 then q else q + 1)
  else if lower then some q
  else if upper then some (q + 1)
  else none

/-- Try ever more digits, starting from the unit `10 ^ e`. -/
def Interval.shortest (i : Interval) : Nat → Int → DecimalForm
  | 0, e => ⟨i.middle / i.den, e⟩
  | fuel + 1, e =>
      match i.pick e with
      | some n => if n = 0 then shortest i fuel (e - 1) else .trim 20 n e
      | none => shortest i fuel (e - 1)

/-- The fewest digits that read back as `m * 2 ^ e`, for `m ≠ 0`. -/
def shortest (m : Nat) (e : Int) : DecimalForm :=
  let i := Interval.around m e
  i.shortest 20 (magnitude i.middle i.den)

end GoogIndex.Decimal
