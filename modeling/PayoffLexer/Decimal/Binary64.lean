/-!
# Double precision

A double is not a number, infinite, or a signed multiple of a power of two. A quotient of natural
numbers is rounded to the nearest double, a tie to the one with the even significand, in exact
arithmetic.
-/

namespace PayoffLexer.Decimal

/-- A double; a finite one is `significand * 2 ^ exponent` up to its sign. -/
inductive Binary64
  | nan
  | infinity (negative : Bool)
  | finite (negative : Bool) (significand : Nat) (exponent : Int)
deriving DecidableEq

/-- The natural number nearest to a quotient; of two equally near ones the even one. -/
def roundDiv (numerator denominator : Nat) : Nat :=
  let floor := numerator / denominator
  let twice := 2 * (numerator % denominator)
  if twice < denominator ∨ (twice = denominator ∧ floor % 2 = 0) then floor else floor + 1

/-- The greatest `e` with `2 ^ e` at most the quotient of two positive numbers. -/
def floorLog2 (numerator denominator : Nat) : Int :=
  let guess : Int := numerator.log2 - denominator.log2
  let reached :=
    if 0 ≤ guess then denominator * Nat.pow 2 guess.toNat ≤ numerator
    else denominator ≤ numerator * Nat.pow 2 (-guess).toNat
  if reached then guess else guess - 1

namespace Binary64

def precision : Nat := 53

/-- Exponent of the last place of the smallest doubles. -/
def minExponent : Int := -1074

/-- Exponent of the last place of the greatest doubles. -/
def maxExponent : Int := 971

def zero (negative : Bool) : Binary64 := finite negative 0 minExponent

def nearest (negative : Bool) (numerator denominator : Nat) : Binary64 :=
  let exponent := max (floorLog2 numerator denominator - (precision - 1)) minExponent
  let significand :=
    if 0 ≤ exponent then roundDiv numerator (denominator * Nat.pow 2 exponent.toNat)
    else roundDiv (numerator * Nat.pow 2 (-exponent).toNat) denominator
  let (significand, exponent) :=
    if significand = Nat.pow 2 precision then (Nat.pow 2 (precision - 1), exponent + 1)
    else (significand, exponent)
  if maxExponent < exponent then infinity negative else finite negative significand exponent

/-- The double nearest to `significand * 10 ^ exponent`. Exponents that decide the answer alone
are taken first: ten to the 400 is out of range, and less than `2 ^ (b + 1) / 8 ^ k` is nearest to
zero once `3 * k` exceeds `b + 1100`. -/
def ofScientific (negative : Bool) (significand : Nat) (exponent : Int) : Binary64 :=
  if significand = 0 then zero negative
  else if 400 < exponent then infinity negative
  else if significand.log2 + 1100 < 3 * (-exponent) then zero negative
  else if 0 ≤ exponent then nearest negative (significand * Nat.pow 10 exponent.toNat) 1
  else nearest negative significand (Nat.pow 10 (-exponent).toNat)

/-- Is the sign of the double negative? That which is not a number has none. -/
def isNegative : Binary64 → Bool
  | nan => false
  | infinity negative | finite negative _ _ => negative

/-- The sixty-four bits of the interchange form: sign, biased exponent, and the significand
without its first bit. -/
def toBits : Binary64 → Nat
  | nan => 0x7FF8000000000000
  | infinity negative => signBit negative + 0x7FF0000000000000
  | finite negative significand exponent =>
    let biased := if significand < firstBit then 0 else (exponent - minExponent).toNat
    signBit negative + biased * firstBit + significand
where
  /-- The value of the bit that tells the sign. -/
  signBit (negative : Bool) : Nat := if negative then 0x8000000000000000 else 0
  /-- The value of the first bit of a significand. -/
  firstBit : Nat := Nat.pow 2 (precision - 1)

end Binary64

end PayoffLexer.Decimal
