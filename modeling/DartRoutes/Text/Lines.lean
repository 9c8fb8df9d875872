import DartRoutes.Text.Basic

/-!
# Lines

Text files are read with one kind of line end: a carriage return, alone or before a line feed,
becomes a line feed. Generated files are written line by line.
-/

namespace DartRoutes

namespace Text

/-- Every line end as a single line feed. -/
def withLineFeeds : Text → Text
  | [] => []
  | '\r' :: '\n' :: rest => '\n' :: withLineFeeds rest
  | character :: rest =>
      (if character = '\r' then '\n' else character) :: withLineFeeds rest

/-- The text of a list of lines, each with its line feed. -/
def ofLines (lines : List Text) : Text :=
  lines.flatMap fun line => line ++ ['\n']

/-- Line number, counted from one, of the character at an offset. -/
def lineAt (text : Text) (offset : Nat) : Nat :=
  (text.take offset).count '\n' + 1

end Text

end DartRoutes
