import ElementBindings.Decimal.Binary64

/-
  The shortest decimal text of a floating point number.

  Of the decimals that round to the number, those with the
  fewest digits are taken, and of these the nearest; a tie
  goes to the even digit.

  Key definitions include:
    * `Binary64.shortestDigits`
    * `Binary64.text`
-/

namespace ElementBindings

namespace Binary64

------------------------------------------------------------
-- The Interval of a Number
------------------------------------------------------------

/-
  A fraction `num / den` rounds to the number with this
  significand and exponent.  The ends of the interval belong
  to it when the significand is even; below a power of two
  the neighbour is nearer by half.
-/
def roundsTo
    (significand : Nat)
    (exponent : Int)
    (num den : Nat) : Bool :=
  let (n, d) := scaled num den (exponent - 2)
  let below :=
    if significand = twoTo 52 && exponent > minExponent then
      4 * significand - 1
    else
      4 * significand - 2
  let above := 4 * significand + 2
  if significand % 2 = 0 then
    below * d ≤ n && n ≤ above * d
  else
    below * d < n && n < above * d

------------------------------------------------------------
-- Digits
------------------------------------------------------------

/- The value as a fraction. -/
def fraction
    (significand : Nat)
    (exponent : Int) : Nat × Nat :=
  if 0 ≤ exponent then
    (significand * twoTo exponent.toNat, 1)
  else
    (significand, twoTo (-exponent).toNat)

/-
  The position of the decimal point: the value lies below
  `10 ^ point` and not below `10 ^ (point - 1)`.
-/
def decimalPoint
    (num den : Nat) : Int :=
  if den ≤ num then
    (Nat.toDigits 10 (num / den)).length
  else
    let zeros :=
      (List.range 330).find? fun k =>
        den ≤ num * tenTo (k + 1)
    Int.neg (zeros.getD 330 : Nat)

/- A decimal `digits * 10 ^ exponent` as a fraction. -/
def decimalFraction
    (digits : Nat)
    (exponent : Int) : Nat × Nat :=
  if 0 ≤ exponent then
    (digits * tenTo exponent.toNat, 1)
  else
    (digits, tenTo (-exponent).toNat)

/-
  The best decimal on the grid of `10 ^ place`, if one of the
  two neighbours of the value rounds to it.
-/
def bestOnGrid?
    (significand : Nat)
    (exponent place : Int) : Option Nat :=
  let (num, den) := fraction significand exponent
  let (gridNum, gridDen) := decimalFraction 1 place
  let n := num * gridDen
  let d := den * gridNum
  let low := n / d
  let fits (digits : Nat) : Bool :=
    let (a, b) := decimalFraction digits place
    roundsTo significand exponent a b
  match fits low, fits (low + 1) with
  | true, true =>
      let twice := 2 * (n % d)
      if twice < d then some low
      else if twice > d then some (low + 1)
      else if low % 2 = 0 then some low
      else some (low + 1)
  | true, false => some low
  | false, true => some (low + 1)
  | false, false => none

/-
  The digits of the shortest decimal and the exponent of its
  last digit.
-/
def shortestDigits
    (significand : Nat)
    (exponent : Int) : Nat × Int :=
  let (num, den) := fraction significand exponent
  let point := decimalPoint num den
  let hit :=
    (List.range 17).findSome? fun (k : Nat) =>
      let place := point - (k + 1)
      (bestOnGrid? significand exponent place).map (·, place)
  hit.getD (0, 0)

------------------------------------------------------------
-- Text
------------------------------------------------------------

/- Drop the zeros at the end of a list of digits. -/
def dropZeros
    (digits : List Char) : List Char :=
  (digits.reverse.dropWhile (· = '0')).reverse

/-
  The text of decimal digits whose point stands after
  `point` of them.  From `10 ^ 16` on, and below `10 ^ -4`,
  an exponent is written, with a sign and two digits at least.
-/
def layout
    (digits : List Char)
    (point : Int) : List Char :=
  if -4 < point && point ≤ 16 then
    if point ≤ 0 then
      '0' :: '.' :: List.replicate (-point).toNat '0' ++ digits
    else if point.toNat < digits.length then
      digits.take point.toNat ++ '.' :: digits.drop point.toNat
    else
      digits
        ++ List.replicate (point.toNat - digits.length) '0'
        ++ ['.', '0']
  else
    let shown := (point - 1).natAbs
    let places := Nat.toDigits 10 shown
    let padded := if shown < 10 then '0' :: places else places
    let sign := if point - 1 < 0 then '-' else '+'
    let mantissa :=
      match digits with
      | [] => []
      | [d] => [d]
      | d :: rest => d :: '.' :: rest
    mantissa ++ 'e' :: sign :: padded

/- The shortest text that reads back as the number. -/
def text : Binary64 → String
  | .nan => "nan"
  | .infinity negative => if negative then "-inf" else "inf"
  | .finite negative significand exponent =>
      let sign := if negative then "-" else ""
      if significand = 0 then
        sign ++ "0.0"
      else
        let (digits, place) := shortestDigits significand exponent
        let all := Nat.toDigits 10 digits
        sign ++ String.ofList
          (layout (dropZeros all) (all.length + place))

end Binary64

end ElementBindings
