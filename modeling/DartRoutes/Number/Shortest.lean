import DartRoutes.Number.Binary64

/-!
# Shortest decimal text

A binary number is written with the fewest decimal digits that read back as the same number; of
several such decimals the nearest is taken. The text is positional while the decimal point stays
within reach of the digits, and has an exponent otherwise.
-/

namespace DartRoutes

/-- A decimal in scientific form: `digits` as a whole number and the place of the point. -/
structure Decimal where
  digits : Nat
  /-- The number of digits before the point. -/
  point : Int
  deriving DecidableEq, Repr

/-- How the decimals of a format are written. -/
structure DecimalLayout where
  /-- Positional notation needs the point in front of no more zeros than this. -/
  leadingZeros : Int
  /-- Positional notation needs the point behind no more digits than this. -/
  wholeDigits : Int
  /-- Least number of digits of an exponent. -/
  exponentDigits : Nat

/-- Values are written positionally from one ten-thousandth to below ten to the sixteenth. -/
def valueLayout : DecimalLayout := ⟨3, 16, 2⟩

namespace Binary64

/-- The number of decimal digits before the point of a positive quotient. -/
def decimalPoint (numerator denominator : Nat) : Int :=
  let estimate : Int :=
    ((Nat.toDigits 10 numerator).length : Int) - (Nat.toDigits 10 denominator).length
  let below (point : Int) : Bool :=
    if 0 ≤ point then numerator < denominator * Nat.pow 10 point.toNat
    else numerator * Nat.pow 10 (-point).toNat < denominator
  if below estimate then estimate else estimate + 1

/-- The neighbours of a quotient on the decimal grid with `count` digits, the nearer one first. -/
def decimalNeighbours (numerator denominator count : Nat) (point : Int) : List Nat :=
  let shift : Int := count - point
  let (scaled, unit) :=
    if 0 ≤ shift then (numerator * Nat.pow 10 shift.toNat, denominator)
    else (numerator, denominator * Nat.pow 10 (-shift).toNat)
  let below := scaled / unit
  if roundQuotient scaled unit = below then [below, below + 1] else [below + 1, below]

/-- The shortest decimal, with at most `further` digits more than `count`, that reads back. -/
def shortestFrom (mantissa : Nat) (exponent : Int) (numerator denominator : Nat) (point : Int)
    (count : Nat) : (further : Nat) → Decimal
  | 0 => ⟨mantissa, point⟩
  | further + 1 =>
      let fits (digits : Nat) : Bool :=
        ofDecimal false digits (point - count) = .finite false mantissa exponent
      match (decimalNeighbours numerator denominator count point).find? fits with
      | some digits =>
          if digits = Nat.pow 10 count then ⟨1, point + 1⟩ else ⟨digits, point⟩
      | none => shortestFrom mantissa exponent numerator denominator point (count + 1) further

/-- The shortest decimal of a positive finite number. -/
def shortest (mantissa : Nat) (exponent : Int) : Decimal :=
  let (numerator, denominator) := quotient mantissa exponent
  shortestFrom mantissa exponent numerator denominator (decimalPoint numerator denominator) 1 17

end Binary64

namespace Decimal

/-- Digits without the zeros at their end. -/
def significant (decimal : Decimal) : Text :=
  ((Text.ofNat decimal.digits).reverse.dropWhile (· = '0')).reverse

/-- The decimal written in a layout. -/
def write (layout : DecimalLayout) (decimal : Decimal) : Text :=
  let digits := decimal.significant
  if decimal.point ≤ layout.wholeDigits ∧ -layout.leadingZeros ≤ decimal.point then
    if decimal.point ≤ 0 then
      "0." ++ List.replicate (-decimal.point).toNat '0' ++ digits
    else
      let whole := digits.take decimal.point.toNat
      let part := digits.drop decimal.point.toNat
      whole ++ List.replicate (decimal.point.toNat - whole.length) '0' ++ "."
        ++ (if part.isEmpty then ['0'] else part)
  else
    let exponent := decimal.point - 1
    let size := Text.ofNat exponent.natAbs
    digits.take 1 ++ (if digits.length ≤ 1 then [] else '.' :: digits.drop 1)
      ++ (if exponent < 0 then "e-" else "e+")
      ++ List.replicate (layout.exponentDigits - size.length) '0' ++ size

end Decimal

namespace Binary64

/-- The number as it is written in messages and generated text. -/
def write : Binary64 → Text
  | .finite negative mantissa exponent =>
      let magnitude : Text :=
        if mantissa = 0 then "0.0"
        else (shortest mantissa exponent).write valueLayout
      if negative then '-' :: magnitude else magnitude
  | .infinite negative => if negative then "-inf" else "inf"
  | .nan => "nan"

end Binary64

end DartRoutes
