import DartRoutes.Text.Printable
import DartRoutes.Text.Surrogate

/-!
# Quoted display

A text shown inside a message stands between single quotes, or between double quotes if it holds a
single quote and no double quote. The backslash and the chosen quote are escaped, and characters
that cannot be printed are shown by their code.
-/

namespace DartRoutes

/-- A code in lower-case hexadecimal digits, padded with zeros to a width. -/
def hexadecimal (width code : Nat) : Text :=
  let digits := Nat.toDigits 16 code
  List.replicate (width - digits.length) '0' ++ digits

/-- The code of a character that cannot be printed. -/
def escapedCode (code : Nat) : Text :=
  if code < 0x100 then "\\x" ++ hexadecimal 2 code
  else if code < 0x10000 then "\\u" ++ hexadecimal 4 code
  else "\\U" ++ hexadecimal 8 code

/-- The character as it stands between quotes. -/
def quotedCharacter (quote character : Char) : Text :=
  if character = quote ∨ character = '\\' then ['\\', character]
  else if character = '\t' then "\\t"
  else if character = '\n' then "\\n"
  else if character = '\r' then "\\r"
  else if isPrintable character then [character]
  else escapedCode (codePointOf character)

/-- The quote that needs fewer escapes, the single one by preference. -/
def chosenQuote (text : Text) : Char :=
  if text.contains '\'' && !text.contains '"' then '"' else '\''

namespace Text

def quoted (text : Text) : Text :=
  let quote := chosenQuote text
  quote :: text.flatMap (quotedCharacter quote) ++ [quote]

end Text

end DartRoutes
