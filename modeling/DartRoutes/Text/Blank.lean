import DartRoutes.Text.CodeRange

/-!
# Blank characters

The characters that may stand between the tokens of a route table. The information separators
U+001C to U+001F, the next-line mark and the no-break spaces are blank; the zero-width space and
the byte order mark are not.
-/

namespace DartRoutes

def blankRanges : CodeRanges := [
  (0x9, 0xD), (0x1C, 0x20), (0x85, 0x85), (0xA0, 0xA0), (0x1680, 0x1680), (0x2000, 0x200A),
  (0x2028, 0x2029), (0x202F, 0x202F), (0x205F, 0x205F), (0x3000, 0x3000)]

def isBlank (character : Char) : Bool :=
  blankRanges.hold character

end DartRoutes
