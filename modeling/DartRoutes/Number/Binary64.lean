import DartRoutes.Text.Basic

/-!
# Binary floating-point numbers

Numbers of the binary64 format with exact arithmetic: a finite number is a sign, a mantissa and a
power of two, and every result is the exact one rounded once, to the nearest representable number
and to an even mantissa when two are equally near.
-/

namespace DartRoutes

/-- A number of the binary64 format. -/
inductive Binary64 where
  /-- The number `± mantissa · 2 ^ exponent`. -/
  | finite (negative : Bool) (mantissa : Nat) (exponent : Int)
  | infinite (negative : Bool)
  | nan
  deriving DecidableEq, Repr

/-- The nearest integer to a quotient, the even one when two are equally near. -/
def roundQuotient (numerator denominator : Nat) : Nat :=
  let quotient := numerator / denominator
  let twice := 2 * (numerator % denominator)
  if twice < denominator then quotient
  else if denominator < twice then quotient + 1
  else if quotient % 2 = 0 then quotient
  else quotient + 1

/-- Numerator and denominator of `numerator / denominator / 2 ^ exponent`. -/
def scaleQuotient (numerator denominator : Nat) (exponent : Int) : Nat × Nat :=
  if 0 ≤ exponent then (numerator, denominator * Nat.pow 2 exponent.toNat)
  else (numerator * Nat.pow 2 (-exponent).toNat, denominator)

namespace Binary64

def precision : Nat := 53

def leastExponent : Int := -1074

/-- Greatest exponent of a finite number with a full mantissa. -/
def greatestExponent : Int := 971

/-- The whole part of the binary logarithm of a positive quotient. -/
def quotientLog2 (numerator denominator : Nat) : Int :=
  let estimate : Int := (numerator.log2 : Int) - denominator.log2
  let (scaled, unit) := scaleQuotient numerator denominator estimate
  if scaled < unit then estimate - 1 else estimate

/-- The number nearest to `± numerator / denominator`. -/
def ofQuotient (negative : Bool) (numerator denominator : Nat) : Binary64 :=
  if numerator = 0 ∨ denominator = 0 then .finite negative 0 leastExponent
  else
    let exponent := max leastExponent (quotientLog2 numerator denominator - (precision - 1 : Int))
    let (scaled, unit) := scaleQuotient numerator denominator exponent
    let mantissa := roundQuotient scaled unit
    let (mantissa, exponent) :=
      if mantissa = Nat.pow 2 precision then (Nat.pow 2 (precision - 1), exponent + 1)
      else (mantissa, exponent)
    if greatestExponent < exponent then .infinite negative
    else .finite negative mantissa exponent

/-- The number nearest to `± digits · 10 ^ exponent`. -/
def ofDecimal (negative : Bool) (digits : Nat) (exponent : Int) : Binary64 :=
  let magnitude : Int := exponent + (Nat.toDigits 10 digits).length
  if digits = 0 ∨ magnitude < -400 then .finite negative 0 leastExponent
  else if 400 < magnitude then .infinite negative
  else if 0 ≤ exponent then ofQuotient negative (digits * Nat.pow 10 exponent.toNat) 1
  else ofQuotient negative digits (Nat.pow 10 (-exponent).toNat)

def ofInt (number : Int) : Binary64 :=
  ofQuotient (number < 0) number.natAbs 1

/-- Numerator and denominator of the magnitude of a finite number. -/
def quotient (mantissa : Nat) (exponent : Int) : Nat × Nat :=
  if 0 ≤ exponent then (mantissa * Nat.pow 2 exponent.toNat, 1)
  else (mantissa, Nat.pow 2 (-exponent).toNat)

/-- The number as a fraction with a positive denominator, if it is finite. -/
def fraction? : Binary64 → Option (Int × Nat)
  | .finite negative mantissa exponent =>
      let (numerator, denominator) := quotient mantissa exponent
      some (if negative then -(numerator : Int) else numerator, denominator)
  | .infinite _ => none
  | .nan => none

/-- The number nearest to a fraction with a positive denominator. -/
def ofFraction (numerator : Int) (denominator : Nat) : Binary64 :=
  ofQuotient (numerator < 0) numerator.natAbs denominator

def neg : Binary64 → Binary64
  | .finite negative mantissa exponent => .finite (!negative) mantissa exponent
  | .infinite negative => .infinite (!negative)
  | .nan => .nan

def isZero : Binary64 → Bool
  | .finite _ mantissa _ => mantissa == 0
  | .infinite _ => false
  | .nan => false

def sub : (left right : Binary64) → Binary64
  | .nan, _ => .nan
  | _, .nan => .nan
  | .infinite left, .infinite right => if left = right then .nan else .infinite left
  | .infinite left, .finite _ _ _ => .infinite left
  | .finite _ _ _, .infinite right => .infinite !right
  | left@(.finite ..), right@(.finite ..) =>
      match left.fraction?, right.fraction? with
      | some (leftNumerator, leftDenominator), some (rightNumerator, rightDenominator) =>
          ofFraction (leftNumerator * rightDenominator - rightNumerator * leftDenominator)
            (leftDenominator * rightDenominator)
      | _, _ => .nan

def add (left right : Binary64) : Binary64 :=
  left.sub right.neg

def isNegative : Binary64 → Bool
  | .finite negative _ _ => negative
  | .infinite negative => negative
  | .nan => false

def mul (left right : Binary64) : Binary64 :=
  let negative := left.isNegative != right.isNegative
  match left, right with
  | .nan, _ => .nan
  | _, .nan => .nan
  | .finite _ mantissa exponent, .finite _ factor power =>
      let (numerator, denominator) := quotient (mantissa * factor) (exponent + power)
      ofQuotient negative numerator denominator
  | left, right => if left.isZero || right.isZero then .nan else .infinite negative

end Binary64

end DartRoutes
