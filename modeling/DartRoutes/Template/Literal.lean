import DartRoutes.Number.Numeral
import DartRoutes.Text.Lines
import DartRoutes.Text.Surrogate

/-!
# Literals of a template

Texts between single or double quotes, which escapes with a backslash may stand in. A backslash in
front of a character that needs no escape stands for itself.
-/

namespace DartRoutes

/-- Why a literal has no text. -/
inductive LiteralFault where
  /-- Too few digits follow the letter of an escape that needs a number of them. -/
  | truncated (letter : Char) (width : Nat)
  /-- An escape with a code beyond the last character. -/
  | codeRange
  /-- An escape by name without a name. -/
  | missingName
  | unknownName
  deriving DecidableEq, Repr

def LiteralFault.message : LiteralFault → Text
  | .truncated letter width =>
      "truncated \\" ++ [letter] ++ List.replicate width 'X' ++ " escape"
  | .codeRange => "illegal Unicode character"
  | .missingName => "malformed \\N character escape"
  | .unknownName => "unknown Unicode character name"

namespace Literal

/-- Characters that are escaped by one letter. -/
def replacements : List (Char × Text) :=
  [('\n', []), ('\\', ['\\']), ('\'', ['\'']), ('"', ['"']), ('a', ['\x07']), ('b', ['\x08']),
    ('f', ['\x0C']), ('n', ['\n']), ('r', ['\r']), ('t', ['\t']), ('v', ['\x0B'])]

/-- The number of hexadecimal digits behind an escape. -/
def codeWidths : List (Char × Nat) :=
  [('x', 2), ('u', 4), ('U', 8)]

def isOctalDigit (character : Char) : Bool :=
  '0' ≤ character && character ≤ '7'

/-- The character of a code, as one that escapes keep. -/
def ofCode (code : Nat) : Except LiteralFault Text :=
  if 0x10FFFF < code then .error .codeRange else .ok [characterOf code]

/-- The fault of an escape by name; no names are known. -/
def nameFault (rest : Text) : LiteralFault :=
  match rest with
  | '\x7b' :: name :: rest =>
      if name ≠ '\x7d' ∧ rest.contains '\x7d' then .unknownName else .missingName
  | _ => .missingName

/-- How a character beyond ASCII is spelled behind a backslash that does not escape it. -/
def spelled (character : Char) : Text :=
  if character.toNat < 0x80 then [character] else (escapedCode character.toNat).drop 1

/-- The text of the escape behind a backslash, and the number of characters that it takes. -/
def escape : Text → Except LiteralFault (Text × Nat)
  | [] => .ok (['\\'], 0)
  | letter :: rest =>
      match replacements.lookup letter, codeWidths.lookup letter with
      | some text, _ => .ok (text, 1)
      | none, some width => do
          let digits := (rest.take width).takeWhile isHexDigit
          if digits.length < width then throw (.truncated letter width)
          return (← ofCode (digitsValue 16 digits), width + 1)
      | none, none =>
          if isOctalDigit letter then do
            let digits := ((letter :: rest).take 3).takeWhile isOctalDigit
            return (← ofCode (digitsValue 8 digits), digits.length)
          else if letter = 'N' then .error (nameFault rest)
          else .ok ('\\' :: spelled letter, 1)

/-- The text of what stands between the quotes. -/
def unescape : Text → Except LiteralFault Text
  | [] => .ok []
  | character :: rest =>
      if character = '\\' then do
        let (shown, length) ← escape rest
        return shown ++ (← unescape (rest.drop length))
      else (character :: ·) <$> unescape rest
termination_by text => text.length
decreasing_by
  · simp only [List.length_cons, List.length_drop]; omega
  · simp

/-- What stands up to the closing quote, and the text behind it. -/
def upToQuote? (quote : Char) : Text → Option (Text × Text)
  | [] => none
  | '\\' :: escaped :: rest =>
      (upToQuote? quote rest).map fun (inside, behind) => ('\\' :: escaped :: inside, behind)
  | character :: rest =>
      if character = quote then some ([], rest)
      else if character = '\\' then none
      else (upToQuote? quote rest).map fun (inside, behind) => (character :: inside, behind)

/-- A literal at the beginning of a text, if there is one, and the text behind it. -/
def read? : Text → Option (Except LiteralFault Text × Text)
  | quote :: rest =>
      if quote = '\'' ∨ quote = '"' then
        (upToQuote? quote rest).map fun (inside, behind) =>
          (unescape inside.withLineFeeds, behind)
      else none
  | [] => none

end Literal

end DartRoutes
