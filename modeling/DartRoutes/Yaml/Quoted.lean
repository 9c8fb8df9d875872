import DartRoutes.Text.Surrogate
import DartRoutes.Yaml.Cursor

/-!
# Quoted scalars

Scalars between single or double quotes. Lines are folded in both; double quotes allow escapes.
-/

namespace DartRoutes.Yaml

namespace Quoted

/-- Characters that are escaped by one character. -/
def replacements : List (Char × Char) :=
  [('0', '\x00'), ('a', '\x07'), ('b', '\x08'), ('t', '\t'), ('\t', '\t'), ('n', '\n'),
    ('v', '\x0B'), ('f', '\x0C'), ('r', '\r'), ('e', '\x1B'), (' ', ' '), ('"', '"'),
    ('\\', '\\'), ('/', '/'), ('N', '\u0085'), ('_', '\u00A0'), ('L', '\u2028'), ('P', '\u2029')]

/-- The number of hexadecimal digits behind an escape. -/
def codeLengths : List (Char × Nat) :=
  [('x', 2), ('u', 4), ('U', 8)]

/-- The character of an escaped code. -/
def ofCode (code : Nat) : Read Char :=
  if 0x10FFFF < code then .error (.characterRange code) else .ok (characterOf code)

/-- The line breaks and blanks at the beginning of lines, of which there are at most `fuel`. -/
def breaks : (fuel : Nat) → Cursor → Read (Text × Cursor)
  | 0, _ => .error .malformed
  | fuel + 1, cursor =>
      if cursor.atSeparator then .error .malformed
      else
        let cursor := cursor.skipWhile fun character => character == ' ' || character == '\t'
        if isLineBreak cursor.next then do
          let (first, cursor) := cursor.lineBreak
          let (further, cursor) ← breaks fuel cursor
          return (first ++ further, cursor)
        else .ok ([], cursor)

/-- Blanks inside a quoted scalar, which are folded at the end of a line. -/
def blanks (fuel : Nat) (cursor : Cursor) : Read (Text × Cursor) :=
  let isBlank := fun character => character == ' ' || character == '\t'
  let spaces := cursor.chunk isBlank
  let cursor := cursor.skipWhile isBlank
  if isLineBreak cursor.next then do
    let (first, cursor) := cursor.lineBreak
    let (further, cursor) ← breaks fuel cursor
    return (foldBreaks first further, cursor)
  else .ok (spaces, cursor)

def escape (fuel : Nat) (cursor : Cursor) : Read (Text × Cursor) :=
  match replacements.lookup cursor.next, codeLengths.lookup cursor.next with
  | some character, _ => .ok ([character], cursor.step)
  | none, some length => do
      let cursor := cursor.step
      let digits := cursor.rest.take length
      if digits.length = length ∧ digits.all isHexDigit then
        return ([← ofCode (digitsValue 16 digits)], cursor.skip length)
      else .error .malformed
  | none, none =>
      if isLineBreak cursor.next then do
        let (further, cursor) ← breaks fuel cursor.lineBreak.2
        return (further, cursor)
      else .error .malformed

/-- The rest of a scalar up to its closing quote; the text is at most `fuel` characters long. -/
def scan (quote : Char) : (fuel : Nat) → Cursor → Read (Text × Cursor)
  | 0, _ => .error .malformed
  | fuel + 1, cursor =>
      let character := cursor.next
      if character = endMark then .error .malformed
      else if character = quote then
        if quote = '\'' ∧ cursor.peek 1 = quote then do
          let (further, cursor) ← scan quote fuel (cursor.skip 2)
          return (quote :: further, cursor)
        else .ok ([], cursor.step)
      else if quote = '"' ∧ character = '\\' then do
        let (escaped, cursor) ← escape fuel cursor.step
        let (further, cursor) ← scan quote fuel cursor
        return (escaped ++ further, cursor)
      else if isBlankOrEnd character then do
        let (folded, cursor) ← blanks fuel cursor
        let (further, cursor) ← scan quote fuel cursor
        return (folded ++ further, cursor)
      else do
        let (further, cursor) ← scan quote fuel cursor.step
        return (character :: further, cursor)

end Quoted

end DartRoutes.Yaml
