import DartRoutes.Number.Binary64
import DartRoutes.Text.Blank
import DartRoutes.Text.Digit
import DartRoutes.Text.Quoted

/-!
# Numerals

Texts that denote numbers. Blanks around a numeral do not count, and the decimal digits of every
script are as good as those of ASCII.
-/

namespace DartRoutes

/-- Why a text denotes no number. -/
inductive NumeralFault where
  | notWhole (base : Nat) (text : Text)
  | notReal (text : Text)
  /-- A decimal numeral with more digits than are read. -/
  | tooLong (count : Nat)
  /-- A whole number beyond all binary numbers. -/
  | tooLarge
  deriving DecidableEq, Repr

namespace NumeralFault

/-- The greatest number of characters of a whole numeral that are shown. -/
def shownWidth : Nat := 200

/-- The greatest number of digits of a decimal numeral. -/
def greatestLength : Nat := 4300

def message : NumeralFault → Text
  | notWhole base text =>
      "invalid literal for int() with base " ++ Text.ofNat base ++ ": "
        ++ text.quoted.take shownWidth
  | notReal text => "could not convert string to float: " ++ text.quoted
  | tooLong count =>
      "Exceeds the limit (" ++ Text.ofNat greatestLength
        ++ " digits) for integer string conversion: value has " ++ Text.ofNat count
        ++ " digits; use sys.set_int_max_str_digits() to increase the limit"
  | tooLarge => "int too large to convert to float"

end NumeralFault

def isHexDigit (character : Char) : Bool :=
  character.isDigit || ('a' ≤ character && character ≤ 'f') || ('A' ≤ character && character ≤ 'F')

def digitValue (character : Char) : Nat :=
  if character.isDigit then character.toNat - '0'.toNat
  else character.toLower.toNat - 'a'.toNat + 10

def digitsValue (base : Nat) (digits : Text) : Nat :=
  digits.foldl (fun total digit => total * base + digitValue digit) 0

namespace Numeral

/-- The character of ASCII that a numeral reads in the place of another one: blanks are spaces and
decimal digits are digits. What is neither reads as a question mark, which no numeral holds. -/
def plainCharacter (character : Char) : Char :=
  if character.toNat < 0x7F then character
  else if isBlank character then ' '
  else
    match decimalDigit? character with
    | some value => Nat.digitChar value
    | none => '?'

/-- May the character stand around a numeral? -/
def isPadding (character : Char) : Bool :=
  character == ' ' || ('\t' ≤ character && character ≤ '\r')

/-- Whether a minus sign stands at the beginning, and the text behind the sign, if there is one. -/
def splitSign : Text → Bool × Text
  | '-' :: text => (true, text)
  | '+' :: text => (false, text)
  | text => (false, text)

/-- The letter that marks a base. -/
def baseMark? : (base : Nat) → Option Char
  | 2 => some 'b'
  | 8 => some 'o'
  | 16 => some 'x'
  | _ => none

/-- The text behind a zero and the letter of the base, small or capital, which may be left out. -/
def withoutBaseMark (base : Nat) : Text → Text
  | '0' :: letter :: text =>
      if baseMark? base = some letter.toLower then text else '0' :: letter :: text
  | text => text

/-- Is the character a digit of the base? -/
def isDigitOf (base : Nat) (character : Char) : Bool :=
  isHexDigit character && digitValue character < base

/-- The whole number that a text denotes in a base up to sixteen. -/
def whole (base : Nat) (text : Text) : Except NumeralFault Int :=
  let plain := (text.map plainCharacter).dropWhile isPadding
  let (negative, unsigned) := splitSign plain
  let number := withoutBaseMark base unsigned
  let digits := number.takeWhile (isDigitOf base)
  if base = 10 ∧ NumeralFault.greatestLength < digits.length then .error (.tooLong digits.length)
  else if digits.isEmpty || !(number.drop digits.length).all isPadding then
    .error (.notWhole base text)
  else
    let magnitude : Int := digitsValue base digits
    .ok (if negative then -magnitude else magnitude)

/-- The exponent at the end of a numeral, if nothing else stands there. -/
def exponent? : Text → Option Int
  | [] => some 0
  | mark :: text =>
      let (negative, digits) := splitSign text
      if mark.toLower = 'e' ∧ digits ≠ [] ∧ digits.all Char.isDigit then
        let size : Int := digitsValue 10 digits
        some (if negative then -size else size)
      else none

/-- The number that digits, a point and an exponent denote. -/
def decimal? (negative : Bool) (text : Text) : Option Binary64 :=
  let start := text.takeWhile Char.isDigit
  let (part, rest) : Text × Text :=
    match text.drop start.length with
    | '.' :: rest => (rest.takeWhile Char.isDigit, rest.dropWhile Char.isDigit)
    | rest => ([], rest)
  if start.isEmpty && part.isEmpty then none
  else
    (exponent? rest).map fun exponent =>
      .ofDecimal negative (digitsValue 10 (start ++ part)) (exponent - part.length)

/-- The text without the padding around it. -/
def trim (text : Text) : Text :=
  ((text.dropWhile isPadding).reverse.dropWhile isPadding).reverse

/-- The real number that a text denotes; words for infinity and for no number are allowed. -/
def real (text : Text) : Except NumeralFault Binary64 :=
  let (negative, unsigned) := splitSign (trim (text.map plainCharacter))
  let word := unsigned.map Char.toLower
  if word = ("inf" : Text) ∨ word = ("infinity" : Text) then .ok (.infinite negative)
  else if word = ("nan" : Text) then .ok .nan
  else
    match decimal? negative unsigned with
    | some number => .ok number
    | none => .error (.notReal text)

/-- The whole number that digits to base sixty denote, the first digit first. -/
def sexagesimal (digits : List Int) : Int :=
  digits.foldl (fun total digit => total * 60 + digit) 0

/-- The sum of real digits to base sixty, the last digit first, onto a total; `unit` is what the next
digit counts for, and every step is rounded. -/
def realSexagesimal (unit : Nat) (total : Binary64) :
    List Binary64 → Except NumeralFault Binary64
  | [] => .ok total
  | digit :: digits =>
      match Binary64.ofInt unit with
      | .infinite _ => .error .tooLarge
      | factor => realSexagesimal (unit * 60) (total.add (digit.mul factor)) digits

end Numeral

end DartRoutes
