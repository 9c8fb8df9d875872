import DartRoutes.Yaml.Cursor

/-!
# Points in time

Dates, and dates with a time of day and perhaps an offset from universal time. A text may look like
a point in time that does not exist. Two points with offsets are the same if they are the same
moment.
-/

namespace DartRoutes.Yaml

structure TimeOfDay where
  hour : Nat
  minute : Nat
  second : Nat
  microsecond : Nat
  deriving DecidableEq, Repr

/-- A point in time as it is written. -/
structure Timestamp where
  year : Nat
  month : Nat
  day : Nat
  time? : Option TimeOfDay
  /-- The offset from universal time in minutes. -/
  offset? : Option Int
  deriving DecidableEq, Repr

namespace Timestamp

/-- Digits at the beginning of a text, at least and at most as many as stated. -/
def digits? (least greatest : Nat) (text : Text) : Option (Nat × Text) :=
  let digits := (text.take greatest).takeWhile Char.isDigit
  if least ≤ digits.length then some (digitsValue 10 digits, text.drop digits.length) else none

/-- The text behind one character. -/
def behind? (character : Char) (text : Text) : Option Text :=
  Text.withoutBeginning? [character] text

def skipBlanks (text : Text) : Text :=
  text.dropWhile fun character => character == ' ' || character == '\t'

/-- The offset at the end of a point in time. -/
def readOffset? (text : Text) : Option (Option Int) :=
  match skipBlanks text with
  | [] => if text.isEmpty then some none else none
  | ['Z'] => some (some 0)
  | sign :: rest =>
      if sign = '+' ∨ sign = '-' then do
        let (hours, rest) ← digits? 1 2 rest
        let minutes ←
          match rest with
          | [] => some 0
          | rest => do
              let (minutes, rest) ← digits? 2 2 (← behind? ':' rest)
              if rest.isEmpty then some minutes else none
        let span : Int := hours * 60 + minutes
        return some (if sign = '-' then -span else span)
      else none

/-- The microseconds that the digits of a fraction of a second denote; further digits do not
count. -/
def microseconds (digits : Text) : Nat :=
  digitsValue 10 ((digits ++ List.replicate 6 '0').take 6)

/-- The time of day of a point in time, and its offset. -/
def readTime? (text : Text) : Option (TimeOfDay × Option Int) := do
  let start ←
    match text with
    | 'T' :: rest => some rest
    | 't' :: rest => some rest
    | blank :: _ => if blank = ' ' ∨ blank = '\t' then some (skipBlanks text) else none
    | [] => none
  let (hour, rest) ← digits? 1 2 start
  let (minute, rest) ← digits? 2 2 (← behind? ':' rest)
  let (second, rest) ← digits? 2 2 (← behind? ':' rest)
  let (fraction, rest) : Text × Text :=
    match rest with
    | '.' :: fraction => (fraction.takeWhile Char.isDigit, fraction.dropWhile Char.isDigit)
    | rest => ([], rest)
  return (⟨hour, minute, second, microseconds fraction⟩, ← readOffset? rest)

/-- The point in time that a text denotes. -/
def ofText? (text : Text) : Option Timestamp := do
  let (year, rest) ← digits? 4 4 text
  let (month, rest) ← digits? 1 2 (← behind? '-' rest)
  let (day, rest) ← digits? 1 2 (← behind? '-' rest)
  if rest.isEmpty then return ⟨year, month, day, none, none⟩
  else
    let (time, offset) ← readTime? rest
    return ⟨year, month, day, some time, offset⟩

def daysOfMonth (year month : Nat) : Nat :=
  if month = 2 then
    if year % 4 = 0 ∧ (year % 100 ≠ 0 ∨ year % 400 = 0) then 29 else 28
  else if month = 4 ∨ month = 6 ∨ month = 9 ∨ month = 11 then 30
  else 31

/-- The fault of a point in time that does not exist. -/
def fault? (timestamp : Timestamp) : Option Fault :=
  let offsetFault? : Option Fault :=
    match timestamp.offset? with
    | some minutes => if 1440 ≤ minutes.natAbs then some (.offsetRange minutes) else none
    | none => none
  match offsetFault? with
  | some fault => some fault
  | none =>
      if timestamp.year = 0 then some (.yearRange timestamp.year)
      else if timestamp.month = 0 ∨ 12 < timestamp.month then some .monthRange
      else if timestamp.day = 0 ∨ daysOfMonth timestamp.year timestamp.month < timestamp.day then
        some .dayRange
      else
        match timestamp.time? with
        | some time =>
            if 23 < time.hour then some .hourRange
            else if 59 < time.minute then some .minuteRange
            else if 59 < time.second then some .secondRange
            else none
        | none => none

/-- The number of days up to a date. -/
def dayNumber (timestamp : Timestamp) : Nat :=
  let years := timestamp.year - 1
  let months := (List.range (timestamp.month - 1)).map fun month =>
    daysOfMonth timestamp.year (month + 1)
  years * 365 + years / 4 - years / 100 + years / 400 + months.foldl (· + ·) 0 + timestamp.day

/-- The microseconds up to a point in time, as it would be without its offset. -/
def moment (timestamp : Timestamp) : Int :=
  let time := timestamp.time?.getD ⟨0, 0, 0, 0⟩
  let minutes : Int :=
    (timestamp.dayNumber * 24 + time.hour) * 60 + time.minute - timestamp.offset?.getD 0
  (minutes * 60 + time.second) * 1000000 + time.microsecond

/-- Are two points in time the same? A date is no point in its day, and a time with an offset is none
without one. -/
def same (left right : Timestamp) : Bool :=
  left.time?.isSome == right.time?.isSome && left.offset?.isSome == right.offset?.isSome
    && left.moment == right.moment

end Timestamp

end DartRoutes.Yaml
