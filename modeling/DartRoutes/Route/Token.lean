import DartRoutes.Text.Basic
import DartRoutes.Text.Blank
import DartRoutes.Text.Word

/-!
# Tokens of a route table

The lexemes of a route table are brackets, commas, quoted strings, the two flags, blanks and
comments; every other character is a lexeme of its own. Tokens are the lexemes without blanks and
comments, each with its offset in the text.
-/

namespace DartRoutes

/-- The kinds of lexemes. -/
inductive Lexeme.Kind where
  | blank
  | lineComment
  | blockComment
  | opening
  | closing
  | comma
  | string
  | flag
  | other
  deriving DecidableEq, Repr

/-- Blanks and comments only separate tokens. -/
def Lexeme.Kind.separates : Lexeme.Kind → Bool
  | .blank | .lineComment | .blockComment => true
  | _ => false

namespace Lexeme

/-- Length of a string behind its opening quote, the closing quote included. -/
def stringLength? (quote : Char) : Text → Option Nat
  | [] => none
  | '\\' :: _ :: rest => (· + 2) <$> stringLength? quote rest
  | character :: rest =>
      if character = quote then some 1
      else if character = '\\' ∨ character = '\n' then none
      else (· + 1) <$> stringLength? quote rest

/-- Length of a block comment behind its opening mark, the closing mark included. -/
def blockLength? : Text → Option Nat
  | [] => none
  | '*' :: '/' :: _ => some 2
  | _ :: rest => (· + 1) <$> blockLength? rest

/-- Length of a flag at the beginning of a text; a flag is a whole word. -/
def flagLength? (before : Option Char) (text : Text) : Option Nat :=
  ([("true" : Text), "false"].find? fun word =>
    word.isPrefixOf text && isBoundary before text.head?
      && isBoundary word.getLast? (text.drop word.length).head?).map List.length

/--
The kind of the lexeme at the beginning of a text and the number of characters that it takes
behind the first one.
-/
def scan (before : Option Char) (first : Char) (rest : Text) : Kind × Nat :=
  if isBlank first then (.blank, (rest.takeWhile isBlank).length)
  else
    match first, rest with
    | '/', '/' :: more => (.lineComment, (more.takeWhile (· != '\n')).length + 1)
    | '/', '*' :: more =>
        match blockLength? more with
        | some length => (.blockComment, length + 1)
        | none => (.other, 0)
    | '[', _ => (.opening, 0)
    | ']', _ => (.closing, 0)
    | ',', _ => (.comma, 0)
    | '\'', _ =>
        match stringLength? '\'' rest with
        | some length => (.string, length)
        | none => (.other, 0)
    | '"', _ =>
        match stringLength? '"' rest with
        | some length => (.string, length)
        | none => (.other, 0)
    | _, _ =>
        match flagLength? before (first :: rest) with
        | some length => (.flag, length - 1)
        | none => (.other, 0)

end Lexeme

/-- A lexeme of the table with its place in the text. -/
structure Token where
  kind : Lexeme.Kind
  lexeme : Text
  offset : Nat
  deriving DecidableEq, Repr

namespace Token

/-- The tokens of a text that stands at an offset behind the character `before`. -/
def ofText (before : Option Char) (offset : Nat) : Text → List Token
  | [] => []
  | first :: rest =>
      let (kind, further) := Lexeme.scan before first rest
      let lexeme := first :: rest.take further
      let tokens := ofText lexeme.getLast? (offset + lexeme.length) (rest.drop further)
      if kind.separates then tokens else ⟨kind, lexeme, offset⟩ :: tokens
termination_by text => text.length
decreasing_by
  simp only [List.length_cons, List.length_drop]
  omega

/-- The text without the backslashes that escape a character; a line feed cannot be escaped. -/
def unescape : Text → Text
  | [] => []
  | '\\' :: '\n' :: rest => '\\' :: '\n' :: unescape rest
  | '\\' :: character :: rest => character :: unescape rest
  | character :: rest => character :: unescape rest

/-- The text that a string lexeme stands for. -/
def unquote (lexeme : Text) : Text :=
  unescape (lexeme.drop 1).dropLast

end Token

end DartRoutes
