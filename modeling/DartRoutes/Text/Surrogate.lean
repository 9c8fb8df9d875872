import DartRoutes.Text.Basic

/-!
# Surrogates

A document may spell code points that are no characters: the surrogates. A text holds a stand-in for
each of them, a private use character of a block of their own, so that it can be passed on, compared
and shown. A text with a stand-in has no encoding. A document that has such a private use character
itself is taken for one that spells the surrogate.
-/

namespace DartRoutes

def firstSurrogate : Nat := 0xD800

def surrogateCount : Nat := 0x800

/-- The first stand-in. -/
def firstStandIn : Nat := 0x10F000

/-- The character of a code point, or the stand-in if it is a surrogate. -/
def characterOf (code : Nat) : Char :=
  if firstSurrogate ≤ code ∧ code < firstSurrogate + surrogateCount then
    Char.ofNat (code - firstSurrogate + firstStandIn)
  else Char.ofNat code

/-- The surrogate for which a character stands. -/
def surrogate? (character : Char) : Option Nat :=
  let code := character.toNat
  if firstStandIn ≤ code ∧ code < firstStandIn + surrogateCount then
    some (code - firstStandIn + firstSurrogate)
  else none

/-- The code point of a character or of the surrogate for which it stands. -/
def codePointOf (character : Char) : Nat :=
  (surrogate? character).getD character.toNat

end DartRoutes
