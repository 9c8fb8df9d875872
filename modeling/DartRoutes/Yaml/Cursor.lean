import DartRoutes.Number.Numeral

/-!
# Reading YAML text

A cursor is a place in a YAML text, with its line and column. The end of the text reads as the NUL
character, which no YAML text holds.
-/

namespace DartRoutes.Yaml

/-- Why a text is no YAML document. -/
inductive Fault where
  /-- The text or the nodes break the rules of YAML. -/
  | malformed
  /-- A scalar looks like a date but is none. -/
  | yearRange (year : Nat)
  | monthRange
  | dayRange
  | hourRange
  | minuteRange
  | secondRange
  /-- A time offset, in minutes, of a day or more. -/
  | offsetRange (minutes : Int)
  | numeral (fault : NumeralFault)
  | unknownFlag (word : Text)
  | noTimestamp
  /-- A date is looked for in a mapping. -/
  | mappedTimestamp
  | noDigits
  /-- An escape with a code beyond the last character. -/
  | characterRange (code : Nat)
  /-- A mapping is its own default value. -/
  | endlessDefault
  deriving DecidableEq, Repr

/-- Is the fault one of YAML itself, and not of the reading of a scalar? -/
def Fault.isMalformed : Fault → Bool
  | .malformed => true
  | _ => false

/-- A time span of whole minutes, which are not zero, in days and seconds. -/
def spanText (minutes : Int) : Text :=
  let days := minutes.fdiv 1440
  let seconds := minutes.fmod 1440 * 60
  let parts : List Text :=
    (if days = 0 then [] else ["days=" ++ Text.ofInt days])
      ++ (if seconds = 0 then [] else ["seconds=" ++ Text.ofInt seconds])
  "datetime.timedelta(" ++ Text.join ", " parts ++ ")"

/-- Wording of a fault; a fault of YAML itself is not described further. -/
def Fault.message : Fault → Text
  | .malformed => "<yaml error>"
  | .yearRange year => "year " ++ Text.ofNat year ++ " is out of range"
  | .monthRange => "month must be in 1..12"
  | .dayRange => "day is out of range for month"
  | .hourRange => "hour must be in 0..23"
  | .minuteRange => "minute must be in 0..59"
  | .secondRange => "second must be in 0..59"
  | .offsetRange minutes =>
      "offset must be a timedelta strictly between -timedelta(hours=24) and "
        ++ "timedelta(hours=24), not " ++ spanText minutes ++ "."
  | .numeral fault => fault.message
  | .unknownFlag word => word.quoted
  | .noTimestamp => "'NoneType' object has no attribute 'groupdict'"
  | .mappedTimestamp => "expected string or bytes-like object, got 'list'"
  | .noDigits => "string index out of range"
  | .characterRange code =>
      if code < 0x80000000 then "chr() arg not in range(0x110000)"
      else "Python int too large to convert to C int"
  | .endlessDefault => "maximum recursion depth exceeded"

/-- What a part of a text gives. -/
abbrev Read (α : Type) := Except Fault α

/-- The number of a numeral. -/
def Read.ofNumeral {α : Type} : Except NumeralFault α → Read α
  | .ok number => .ok number
  | .error fault => .error (.numeral fault)

/-- The character that stands for the end of the text. -/
def endMark : Char := '\x00'

/-- May a YAML text hold the character? -/
def isYamlCharacter (character : Char) : Bool :=
  let code := character.toNat
  code == 0x9 || code == 0xA || code == 0xD || (0x20 ≤ code && code ≤ 0x7E) || code == 0x85
    || (0xA0 ≤ code && code ≤ 0xD7FF) || (0xE000 ≤ code && code ≤ 0xFFFD) || 0x10000 ≤ code

def isLineBreak (character : Char) : Bool :=
  character == '\n' || character == '\u0085' || character == '\u2028' || character == '\u2029'

/-- Does the character end a line or the text? -/
def endsLine (character : Char) : Bool :=
  character == endMark || isLineBreak character

/-- Is the character a space, or does it end a line or the text? -/
def isSpaceOrEnd (character : Char) : Bool :=
  character == ' ' || endsLine character

/-- Is the character a space or a tab, or does it end a line or the text? -/
def isBlankOrEnd (character : Char) : Bool :=
  character == '\t' || isSpaceOrEnd character

/-- May the character stand in the name of an anchor, a directive or a tag handle? -/
def isNameCharacter (character : Char) : Bool :=
  character.isAlphanum || character == '-' || character == '_'

structure Cursor where
  rest : Text
  index : Nat
  line : Nat
  column : Int

namespace Cursor

/-- The beginning of a text. -/
def ofText (text : Text) : Cursor :=
  ⟨text, 0, 0, 0⟩

/-- The character some places further on. -/
def peek (cursor : Cursor) (distance : Nat) : Char :=
  (cursor.rest[distance]?).getD endMark

def next (cursor : Cursor) : Char :=
  cursor.peek 0

/-- The place behind the next character. A byte order mark takes no column. -/
def step (cursor : Cursor) : Cursor :=
  match cursor.rest with
  | [] => cursor
  | character :: rest =>
      if isLineBreak character then ⟨rest, cursor.index + 1, cursor.line + 1, 0⟩
      else
        ⟨rest, cursor.index + 1, cursor.line,
          if character = '\uFEFF' then cursor.column else cursor.column + 1⟩

/-- The place some characters further on. -/
def skip : Nat → Cursor → Cursor
  | 0, cursor => cursor
  | count + 1, cursor => skip count cursor.step

/-- The characters with a property at the cursor. -/
def chunk (property : Char → Bool) (cursor : Cursor) : Text :=
  cursor.rest.takeWhile property

/-- The place behind the characters with a property. -/
def skipWhile (property : Char → Bool) (cursor : Cursor) : Cursor :=
  cursor.skip (cursor.chunk property).length

def skipSpaces (cursor : Cursor) : Cursor :=
  cursor.skipWhile (· == ' ')

/-- The place behind a comment, if there is one. -/
def skipComment (cursor : Cursor) : Cursor :=
  if cursor.next = '#' then cursor.skipWhile (!isLineBreak ·) else cursor

/-- A line break, if there is one, as it counts inside a scalar, and the place behind it. -/
def lineBreak (cursor : Cursor) : Text × Cursor :=
  let character := cursor.next
  if character = '\n' ∨ character = '\u0085' then (['\n'], cursor.step)
  else if isLineBreak character then ([character], cursor.step)
  else ([], cursor)

/-- Does a line of three dashes or three dots start here, which separates documents? -/
def atSeparator (cursor : Cursor) : Bool :=
  let start := cursor.rest.take 3
  (start == ['-', '-', '-'] || start == ['.', '.', '.']) && isBlankOrEnd (cursor.peek 3)

/-- The place behind the spaces and the comment that may end a line, and behind its line break. -/
def endLine (cursor : Cursor) : Read Cursor :=
  let cursor := cursor.skipSpaces.skipComment
  if endsLine cursor.next then .ok cursor.lineBreak.2 else .error .malformed

end Cursor

/-- The text of line breaks inside a scalar: a single line feed counts as a space, and of several
the first one vanishes. -/
def foldBreaks (first further : Text) : Text :=
  if first ≠ ['\n'] then first ++ further
  else if further.isEmpty then [' ']
  else further

end DartRoutes.Yaml
