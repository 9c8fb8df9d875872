import DartRoutes.Text.Basic

/-!
# Dart string literals

A text as a single-quoted string literal. The backslash, the quote and the dollar sign, which would
start an interpolation, are escaped.
-/

namespace DartRoutes

def needsEscape (character : Char) : Bool :=
  character == '\\' || character == '\'' || character == '$'

/-- The character as it stands inside a literal. -/
def literalCharacter (character : Char) : Text :=
  if needsEscape character then ['\\', character] else [character]

/-- The literal that stands for a text. -/
def dartLiteral (text : Text) : Text :=
  '\'' :: text.flatMap literalCharacter ++ ['\'']

/-- A text with every occurrence of a character replaced. -/
def Text.replacing (text : Text) (mark : Char) (replacement : Text) : Text :=
  text.flatMap fun character => if character = mark then replacement else [character]

theorem literalCharacter_eq_replacing (character : Char) :
    literalCharacter character =
      ((Text.replacing [character] '\\' "\\\\").replacing '\'' "\\'").replacing '$' "\\$" := by
  by_cases isBackslash : character = '\\'
  · subst isBackslash
    rfl
  by_cases isQuote : character = '\''
  · subst isQuote
    rfl
  by_cases isDollar : character = '$'
  · subst isDollar
    rfl
  simp [literalCharacter, needsEscape, Text.replacing, isBackslash, isQuote, isDollar]

/-- One pass escapes what three replacements one after another escape. The backslash comes first,
because the other two bring backslashes of their own. -/
theorem dartLiteral_eq_replacing (text : Text) :
    dartLiteral text =
      '\'' :: ((text.replacing '\\' "\\\\").replacing '\'' "\\'").replacing '$' "\\$" ++ ['\''] := by
  have escaped : text.flatMap literalCharacter =
      ((text.replacing '\\' "\\\\").replacing '\'' "\\'").replacing '$' "\\$" := by
    rw [funext literalCharacter_eq_replacing]
    simp only [Text.replacing, List.flatMap_assoc, List.flatMap_singleton]
  rw [dartLiteral, escaped]

end DartRoutes
