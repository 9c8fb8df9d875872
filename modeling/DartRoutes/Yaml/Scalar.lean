import DartRoutes.Text.Casing
import DartRoutes.Value
import DartRoutes.Yaml.Timestamp

/-!
# Scalars of a YAML document

What a plain scalar stands for: a truth value, a number, nothing, a point in time, or else a text.
The spelling decides, and a spelling that looks like a number or a date may still be none. A tag may
ask for a value of a scalar that is not spelled like one.
-/

namespace DartRoutes.Yaml

/-- The kinds of values that a tag can ask for. -/
inductive Tag where
  | null
  | bool
  | int
  | float
  | binary
  | timestamp
  | text
  | sequence
  | mapping
  | set
  | pairs
  /-- The key that takes over the entries of another mapping. -/
  | merge
  /-- The key of the default value. -/
  | defaultValue
  | unknown
  deriving DecidableEq, Repr

/-- The tag of a full tag name. -/
def Tag.ofName (name : Text) : Tag :=
  match Text.withoutBeginning? "tag:yaml.org,2002:" name with
  | none => .unknown
  | some kind =>
      match String.ofList kind with
      | "null" => .null
      | "bool" => .bool
      | "int" => .int
      | "float" => .float
      | "binary" => .binary
      | "timestamp" => .timestamp
      | "str" => .text
      | "seq" => .sequence
      | "map" => .mapping
      | "set" => .set
      | "omap" => .pairs
      | "pairs" => .pairs
      | "merge" => .merge
      | "value" => .defaultValue
      | _ => .unknown

namespace Scalar

/-- The spellings of truth values. -/
def flagWords : List (Text × Bool) :=
  [("yes", true), ("no", false), ("true", true), ("false", false), ("on", true), ("off", false)]

/-- Is the text a truth value, in small letters, with a capital first letter, or in capitals? -/
def isFlag (text : Text) : Bool :=
  flagWords.any fun (word, _) =>
    text == word || text == Text.upper word
      || text == Text.upper (word.take 1) ++ word.drop 1

def isNull (text : Text) : Bool :=
  text.isEmpty || text == ['~'] || [("null" : Text), "Null", "NULL"].contains text

/-- The text without a sign. -/
def unsigned : Text → Text
  | '+' :: text => text
  | '-' :: text => text
  | text => text

/-- Is every character a digit of the base, or an underscore? -/
def areDigits (isDigit : Char → Bool) (text : Text) : Bool :=
  text.all fun character => isDigit character || character == '_'

/-- Is the text one or two digits below sixty? -/
def isSixtieth : Text → Bool
  | [digit] => digit.isDigit
  | [ten, digit] => '0' ≤ ten && ten ≤ '5' && digit.isDigit
  | _ => false

/-- Is the text a whole number with digits to base sixty behind it? -/
def isSexagesimal (isStart : Text → Bool) (text : Text) : Bool :=
  match text.splitOn ':' with
  | start :: digit :: digits => isStart start && (digit :: digits).all isSixtieth
  | _ => false

/-- Does the text start with a digit from one to nine, with digits and underscores behind it? -/
def isWholeStart : Text → Bool
  | first :: rest => '1' ≤ first && first ≤ '9' && areDigits Char.isDigit rest
  | [] => false

/-- Does the text start with a digit, with digits and underscores behind it? -/
def isNumberStart : Text → Bool
  | first :: rest => first.isDigit && areDigits Char.isDigit rest
  | [] => false

def isInt (text : Text) : Bool :=
  match unsigned text with
  | ['0'] => true
  | '0' :: 'b' :: digits =>
      !digits.isEmpty && areDigits (fun digit => digit == '0' || digit == '1') digits
  | '0' :: 'x' :: digits => !digits.isEmpty && areDigits isHexDigit digits
  | '0' :: digits => areDigits (fun digit => '0' ≤ digit && digit ≤ '7') digits
  | number => isWholeStart number || isSexagesimal isWholeStart number

/-- Is the text empty or a signed exponent? -/
def isExponent : Text → Bool
  | [] => true
  | mark :: sign :: digits =>
      (mark == 'e' || mark == 'E') && (sign == '+' || sign == '-') && !digits.isEmpty
        && digits.all Char.isDigit
  | _ => false

/-- Is the text digits and underscores, with an exponent behind them? -/
def isFractionEnd (text : Text) : Bool :=
  isExponent (text.dropWhile fun character => character.isDigit || character == '_')

def isFloat (text : Text) : Bool :=
  let number := unsigned text
  let start := number.takeWhile (· != '.')
  match number.dropWhile (· != '.') with
  | '.' :: rest =>
      (isNumberStart start && isFractionEnd rest)
        || (number == text && start.isEmpty && rest.head?.any Char.isDigit && isFractionEnd rest)
        || (isSexagesimalStart start && areDigits Char.isDigit rest)
        || (start.isEmpty && [("inf" : Text), "Inf", "INF"].contains rest)
        || (number == text && start.isEmpty && [("nan" : Text), "NaN", "NAN"].contains rest)
  | _ => false
where
  isSexagesimalStart (start : Text) : Bool := isSexagesimal isNumberStart start

/-- Is the text a point in time? A date alone needs two digits for its month and its day. -/
def isTimestamp (text : Text) : Bool :=
  match Timestamp.ofText? text with
  | some timestamp => timestamp.time?.isSome || text.length == 10
  | none => false

/-- The text without a line feed at its end, which a spelling may have. -/
def withoutLineFeed (text : Text) : Text :=
  (Text.withoutEnding? ['\n'] text).getD text

/-- The tag of a spelling that is not empty. -/
def tagOfSpelling (text : Text) : Tag :=
  if isFlag text then .bool
  else if isFloat text then .float
  else if isInt text then .int
  else if text = ("<<" : Text) then .merge
  else if isNull text then .null
  else if isTimestamp text then .timestamp
  else if text = ['='] then .defaultValue
  else if [['!'], ['&'], ['*']].contains text then .unknown
  else .text

/-- The tag of a plain scalar. -/
def tagOf (text : Text) : Tag :=
  if text.isEmpty then .null
  else
    match withoutLineFeed text with
    | [] => .text
    | spelling => tagOfSpelling spelling

def withoutUnderscores (text : Text) : Text :=
  text.filter (· != '_')

/-- The whole number of a text without a sign. A zero at the beginning announces the base. -/
def toMagnitude (number : Text) : Read Int :=
  match number with
  | [] => .error .noDigits
  | ['0'] => .ok 0
  | '0' :: 'b' :: digits => Read.ofNumeral (Numeral.whole 2 digits)
  | '0' :: 'x' :: digits => Read.ofNumeral (Numeral.whole 16 digits)
  | '0' :: _ => Read.ofNumeral (Numeral.whole 8 number)
  | _ => Read.ofNumeral do
      return Numeral.sexagesimal (← (number.splitOn ':').mapM (Numeral.whole 10))

def toInt (text : Text) : Read Int := do
  let (negative, number) := Numeral.splitSign (withoutUnderscores text)
  let magnitude ← toMagnitude number
  return if negative then -magnitude else magnitude

/-- The number with a point of a text without a sign, in small letters. -/
def toRealMagnitude (number : Text) : Read Binary64 :=
  if number = (".inf" : Text) then .ok (.infinite false)
  else if number = (".nan" : Text) then .ok .nan
  else
    match number.splitOn ':' with
    | start :: digit :: digits => Read.ofNumeral do
        let digits ← (start :: digit :: digits).mapM Numeral.real
        Numeral.realSexagesimal 1 (.ofInt 0) digits.reverse
    | _ => Read.ofNumeral (Numeral.real number)

def toFloat (text : Text) : Read Binary64 := do
  let plain := Text.lower (withoutUnderscores text)
  if plain.isEmpty then throw .noDigits
  let (negative, number) := Numeral.splitSign plain
  let magnitude ← toRealMagnitude number
  return if negative then magnitude.neg else magnitude

/-- The place of a character among the digits to base sixty-four. -/
def base64Digit? (character : Char) : Option Nat :=
  if 'A' ≤ character ∧ character ≤ 'Z' then some (character.toNat - 'A'.toNat)
  else if 'a' ≤ character ∧ character ≤ 'z' then some (character.toNat - 'a'.toNat + 26)
  else if character.isDigit then some (character.toNat - '0'.toNat + 52)
  else if character = '+' then some 62
  else if character = '/' then some 63
  else none

/-- The bytes of digits to base sixty-four, which come in groups of four, the last one with its
padding. Other characters carry no meaning. `place` is the place in the group, `carry` what is left
of the digit before, and `padding` the number of padding characters in front of the text. -/
def ofBase64? (place carry padding : Nat) : Text → Option Bytes
  | [] => if place = 0 then some [] else none
  | character :: rest =>
      if character = '=' then
        if 2 ≤ place then
          if 4 ≤ place + padding + 1 then some [] else ofBase64? place carry (padding + 1) rest
        else ofBase64? place carry padding rest
      else
        match base64Digit? character with
        | none => ofBase64? place carry padding rest
        | some digit =>
            if place = 0 then ofBase64? 1 digit 0 rest
            else
              let total := carry * 64 + digit
              let width := 2 ^ (6 - 2 * place)
              (ofBase64? ((place + 1) % 4) (total % width) 0 rest).map
                (UInt8.ofNat (total / width) :: ·)

end Scalar

/-- The value of a scalar. -/
inductive Atom where
  | null
  | bool (flag : Bool)
  | int (number : Int)
  | real (number : Binary64)
  | text (content : Text)
  | bytes (content : Bytes)
  | timestamp (timestamp : Timestamp)
  deriving DecidableEq

namespace Atom

/-- The value of a scalar with a tag. -/
def ofScalar (tag : Tag) (text : Text) : Read Atom :=
  match tag with
  | .null => .ok .null
  | .bool =>
      let word := Text.lower text
      match Scalar.flagWords.lookup word with
      | some flag => .ok (.bool flag)
      | none => .error (.unknownFlag word)
  | .int => int <$> Scalar.toInt text
  | .float => real <$> Scalar.toFloat text
  | .binary =>
      if text.all (·.toNat < 0x80) then
        match Scalar.ofBase64? 0 0 0 text with
        | some content => .ok (.bytes content)
        | none => .error .malformed
      else .error .malformed
  | .timestamp =>
      match Timestamp.ofText? (Scalar.withoutLineFeed text) with
      | some written =>
          match written.fault? with
          | some fault => .error fault
          | none => .ok (.timestamp written)
      | none => .error .noTimestamp
  | .text => .ok (.text text)
  | _ => .error .malformed

/-- The number that counts when a key is compared with another one. -/
def fraction? : Atom → Option (Int × Nat)
  | bool flag => some (flag.toNat, 1)
  | int number => some (number, 1)
  | real number => number.fraction?
  | _ => none

/-- Are two keys the same? Numbers of every kind are the same if they are equal. -/
def same (left right : Atom) : Bool :=
  match left.fraction?, right.fraction? with
  | some (leftPart, leftUnit), some (rightPart, rightUnit) =>
      leftPart * rightUnit == rightPart * leftUnit
  | _, _ =>
      match left, right with
      | timestamp left, timestamp right => left.same right
      | left, right => left == right

/-- The value as it stands in a configuration. -/
def value : Atom → Value
  | null => .null
  | bool flag => .bool flag
  | int number => .int number
  | real number => .real number
  | text content => .text content
  | bytes content => .bytes content
  | timestamp _ => .other

end Atom

end DartRoutes.Yaml
