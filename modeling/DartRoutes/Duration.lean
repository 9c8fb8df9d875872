import DartRoutes.Number.Binary64

/-!
# Durations

Elapsed time in seconds and the figure that shows it: milliseconds below a second, seconds with one
decimal below a minute, and whole minutes and seconds from there on. Whole numbers of seconds have
any size; other times are binary numbers, and each operation on them is rounded once.
-/

namespace DartRoutes

/-- A time in seconds. -/
inductive Seconds where
  | whole (count : Int)
  | binary (number : Binary64)
  deriving DecidableEq, Repr

/-- Why a time has no figure. -/
inductive DurationFault where
  /-- The time is infinite or no number. -/
  | unbounded
  /-- The whole number of seconds is beyond all binary numbers. -/
  | tooLarge
  deriving DecidableEq, Repr

def DurationFault.message : DurationFault → Text
  | .unbounded => "cannot convert float NaN to integer"
  | .tooLarge => "int too large to convert to float"

namespace Seconds

def toBinary : Seconds → Except DurationFault Binary64
  | .whole count =>
      match Binary64.ofInt count with
      | .finite negative mantissa exponent => .ok (.finite negative mantissa exponent)
      | _ => .error .tooLarge
  | .binary number => .ok number

def since (start finish : Seconds) : Except DurationFault Seconds :=
  match finish, start with
  | .whole finish, .whole start => .ok (.whole (finish - start))
  | finish, start => do return .binary ((← finish.toBinary).sub (← start.toBinary))

end Seconds

/-- The figure in which a duration is shown. -/
inductive Duration where
  | milliseconds (count : Nat)
  /-- Seconds with one decimal, counted in tenths. -/
  | tenths (count : Nat)
  | minutes (count seconds : Nat)
  deriving DecidableEq, Repr

namespace Duration

/-- The whole part of the rounded product of a fraction with a thousand. -/
def thousandfold (numerator denominator : Nat) : Nat :=
  match Binary64.ofQuotient false (numerator * 1000) denominator with
  | .finite _ mantissa exponent =>
      let (numerator, denominator) := Binary64.quotient mantissa exponent
      numerator / denominator
  | .infinite _ => 0
  | .nan => 0

/--
The rounded number of whole minutes in a fraction of seconds: what is left after the remainder is
taken off is rounded, and so is its sixtieth part.
-/
def wholeMinutes (numerator denominator : Nat) : Nat :=
  let remainder := numerator % (60 * denominator)
  match (Binary64.ofQuotient false (numerator - remainder) denominator).fraction? with
  | none => 0
  | some (multiple, unit) =>
      match (Binary64.ofQuotient false multiple.toNat (unit * 60)).fraction? with
      | none => 0
      | some (sixtieth, unit) =>
          let count := sixtieth.toNat / unit
          if unit < 2 * (sixtieth.toNat % unit) then count + 1 else count

/-- The figure of a non-negative fraction of seconds. -/
def ofFraction (numerator denominator : Nat) : Duration :=
  if numerator < denominator then .milliseconds (thousandfold numerator denominator)
  else if numerator < 60 * denominator then .tenths (roundQuotient (numerator * 10) denominator)
  else .minutes (wholeMinutes numerator denominator)
    (numerator % (60 * denominator) / denominator)

/-- The figure of a whole number of seconds. -/
def ofWhole (seconds : Nat) : Duration :=
  if seconds < 1 then .milliseconds 0
  else if seconds < 60 then .tenths (seconds * 10)
  else .minutes (seconds / 60) (seconds % 60)

/-- The figure of a time; a negative time counts as none. -/
def ofSeconds : Seconds → Except DurationFault Duration
  | .whole count => .ok (ofWhole count.toNat)
  | .binary (.finite negative mantissa exponent) =>
      if negative then .ok (.milliseconds 0)
      else
        let (numerator, denominator) := Binary64.quotient mantissa exponent
        .ok (ofFraction numerator denominator)
  | .binary (.infinite negative) =>
      if negative then .ok (.milliseconds 0) else .error .unbounded
  | .binary .nan => .error .unbounded

def between (start finish : Seconds) : Except DurationFault Duration := do
  ofSeconds (← start.since finish)

/-- The figure in words. -/
def text : Duration → Text
  | .milliseconds count => Text.ofNat count ++ "ms"
  | .tenths count => Text.ofNat (count / 10) ++ "." ++ Text.ofNat (count % 10) ++ "s"
  | .minutes count seconds => Text.ofNat count ++ "m " ++ Text.ofNat seconds ++ "s"

end Duration

end DartRoutes
