/-
  Binary floating point numbers of 64 bits, as exact values.

  A finite number is a significand below `2 ^ 53` times a
  power of two.  A decimal is rounded to the nearest of them,
  a tie to the even significand.

  Key definitions include:
    * `Binary64`
    * `Binary64.ofDecimal`
    * `Binary64.truncate`
-/

namespace ElementBindings

------------------------------------------------------------
-- Numbers
------------------------------------------------------------

/-
  A number is finite, with value `significand * 2 ^ exponent`
  and a sign, or infinite, or not a number.
-/
inductive Binary64 where
  | finite
      (negative : Bool)
      (significand : Nat)
      (exponent : Int)
  | infinity
      (negative : Bool)
  | nan
deriving DecidableEq, Repr

namespace Binary64

/- The least exponent of a finite number. -/
def minExponent : Int := -1074

/- The greatest exponent of a finite number. -/
def maxExponent : Int := 971

/- Zero of either sign. -/
def zero
    (negative : Bool) : Binary64 :=
  .finite negative 0 minExponent

/- A number is zero. -/
def isZero : Binary64 → Bool
  | .finite _ significand _ => significand = 0
  | .infinity _ => false
  | .nan => false

------------------------------------------------------------
-- Powers
------------------------------------------------------------

/- A power of two. -/
def twoTo
    (exponent : Nat) : Nat :=
  Nat.pow 2 exponent

/- A power of ten. -/
def tenTo
    (exponent : Nat) : Nat :=
  Nat.pow 10 exponent

------------------------------------------------------------
-- Rounding
------------------------------------------------------------

/- The quotient rounded to the nearest, a tie to the even. -/
def roundDiv
    (num den : Nat) : Nat :=
  let q := num / den
  let r := num % den
  if 2 * r < den then q
  else if 2 * r > den then q + 1
  else if q % 2 = 0 then q else q + 1

/- A fraction divided by a power of two, as a fraction. -/
def scaled
    (num den : Nat)
    (exponent : Int) : Nat × Nat :=
  if 0 ≤ exponent then
    (num, den * twoTo exponent.toNat)
  else
    (num * twoTo (-exponent).toNat, den)

/- The exponent at which a fraction has 53 bits, or the least. -/
def fittingExponent
    (num den : Nat) : Int :=
  let guess : Int := (num.log2 : Int) - den.log2 - 52
  let (n, d) := scaled num den guess
  let exponent := if n / d < twoTo 52 then guess - 1 else guess
  max exponent minExponent

/- The number nearest to a fraction. -/
def ofFraction
    (negative : Bool)
    (num den : Nat) : Binary64 :=
  let exponent := fittingExponent num den
  let (n, d) := scaled num den exponent
  let significand := roundDiv n d
  let (significand, exponent) :=
    if significand = twoTo 53 then
      (twoTo 52, exponent + 1)
    else
      (significand, exponent)
  if exponent > maxExponent then
    .infinity negative
  else
    .finite negative significand exponent

/-
  The number nearest to `digits * 10 ^ exponent`.  Values far
  outside the range are settled by their length alone.
-/
def ofDecimal
    (negative : Bool)
    (digits : Nat)
    (exponent : Int) : Binary64 :=
  let size : Int := (Nat.toDigits 10 digits).length + exponent
  if digits = 0 then zero negative
  else if size > 310 then .infinity negative
  else if size < -330 then zero negative
  else if 0 ≤ exponent then
    ofFraction negative (digits * tenTo exponent.toNat) 1
  else
    ofFraction negative digits (tenTo (-exponent).toNat)

------------------------------------------------------------
-- Integers
------------------------------------------------------------

/- The integer part of a finite number. -/
def truncate
    (negative : Bool)
    (significand : Nat)
    (exponent : Int) : Int :=
  let whole :=
    if 0 ≤ exponent then
      significand * twoTo exponent.toNat
    else
      significand / twoTo (-exponent).toNat
  if negative then -whole else whole

end Binary64

end ElementBindings
