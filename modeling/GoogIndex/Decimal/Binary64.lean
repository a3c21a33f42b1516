/-
  Decimal/Binary64.lean --- the 64-bit binary floating-point numbers as exact values.

  A finite number is a sign and `mantissa * 2 ^ exponent`.  Reading a decimal rounds
  the exact rational to the nearest number with 53 significant bits, a tie going to
  the even mantissa.  Nothing here uses the machine's floating point, so a
  comparison with an integer is an equation between integers.
-/

set_option autoImplicit false

namespace GoogIndex.Decimal

/-- A 64-bit floating-point number. -/
inductive Binary64 where
  /-- the value `± mantissa * 2 ^ exponent` -/
  | finite (negative : Bool) (mantissa : Nat) (exponent : Int)
  /-- beyond every finite number -/
  | infinite (negative : Bool)
  /-- no number at all -/
  | notANumber
  deriving DecidableEq, Repr, Inhabited

/-- `2 ^ k`. -/
def powTwo (k : Nat) : Nat := Nat.pow 2 k

/-- `10 ^ k`. -/
def powTen (k : Nat) : Nat := Nat.pow 10 k

namespace Binary64

/-- A quotient rounded to the nearest integer, a tie going to the even one. -/
def divideToNearest (num den : Nat) : Nat :=
  let q := num / den
  let r := num % den
  if 2 * r < den then q
  else if den < 2 * r then q + 1
  else if q % 2 = 0 then q else q + 1

/-- `num / den` in units of `2 ^ e`, rounded to the nearest integer. -/
def scaled (num den : Nat) (e : Int) : Nat :=
  if 0 ≤ e then divideToNearest num (den * powTwo e.toNat)
  else divideToNearest (num * powTwo (-e).toNat) den

/-- The unit of the last bit for a value near `num / den`: 53 bits, but never finer
than the smallest subnormal number. -/
def unitExponent (num den : Nat) : Int :=
  let guess : Int := (num.log2 : Int) - den.log2 - 52
  -- with this guess the quotient in units of `2 ^ guess` lies between `2 ^ 51` and `2 ^ 53`
  let reaches : Bool :=
    if 0 ≤ guess then decide (den * powTwo guess.toNat * powTwo 52 ≤ num)
    else decide (den * powTwo 52 ≤ num * powTwo (-guess).toNat)
  max (if reaches then guess else guess - 1) (-1074)

/-- The number nearest to the ratio `± num / den`. -/
def ofRatio (negative : Bool) (num den : Nat) : Binary64 :=
  if num = 0 then .finite negative 0 0
  else
    let e := unitExponent num den
    let m := scaled num den e
    let (m, e) := if m = powTwo 53 then (powTwo 52, e + 1) else (m, e)
    if 971 < e then .infinite negative
    else if m = 0 then .finite negative 0 0
    else .finite negative m e

/-- The number nearest to `± digits * 10 ^ exponent`, where `digits` has `count`
decimal digits.  Exponents far outside the range are decided by size alone. -/
def ofDecimal (negative : Bool) (digits count : Nat) (exponent : Int) : Binary64 :=
  if digits = 0 then .finite negative 0 0
  else if 400 < count + exponent then .infinite negative
  else if count + exponent < -400 then .finite negative 0 0
  else if 0 ≤ exponent then ofRatio negative (digits * powTen exponent.toNat) 1
  else ofRatio negative digits (powTen (-exponent).toNat)

/-- A number equals an integer when their exact values agree. -/
def equalsInt (x : Binary64) (n : Int) : Bool :=
  match x with
  | .finite negative m e =>
      let value : Int := if negative then -(m : Int) else m
      if 0 ≤ e then value * powTwo e.toNat == n else value == n * powTwo (-e).toNat
  | _ => false

/-- Both zeros are zero, and nothing else is. -/
def isZero (x : Binary64) : Bool := x.equalsInt 0

end Binary64

end GoogIndex.Decimal
