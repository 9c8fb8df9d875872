import DartRoutes.Text.Casing

/-!
# Names

Casing rules shared by everything that is generated. A page class name such as `CartPage` gives
the file stem `cart_page`, the constant name `cart` and the stems `cart_controller`, `cart_state`
and `cart_repository` of the files beside the page. A resource file name such as `ic_form-text`
gives the constant name `icFormText`.
-/

namespace DartRoutes

def pageSuffix : Text := "Page"

/-- The name without one `Page` at its end. -/
def stripPageSuffix (name : Text) : Text :=
  (Text.withoutEnding? pageSuffix name).getD name

namespace Snake

/-- A run of capitals before a small letter: its last capital starts a word of its own. -/
def acronymRule (text : Text) : Option (Nat × Text) :=
  let run := text.takeWhile Char.isUpper
  match run.getLast?, text.dropWhile Char.isUpper with
  | some last, next :: _ =>
      if 2 ≤ run.length ∧ next.isLower then
        some (run.length, run.dropLast.map Char.toLower ++ ['_', last.toLower, next])
      else none
  | _, _ => none

/-- A capital right after a small letter starts a word. -/
def wordRule : Text → Option (Nat × Text)
  | first :: second :: _ =>
      if first.isLower ∧ second.isUpper then some (1, [first, '_', second.toLower]) else none
  | _ => none

/-- Two capitals in a row become small. -/
def pairRule : Text → Option (Nat × Text)
  | first :: second :: _ =>
      if first.isUpper ∧ second.isUpper then some (1, [first.toLower, second.toLower]) else none
  | _ => none

/-- The words of a class name, small and joined by underscores. -/
def ofClass (name : Text) : Text :=
  Text.lower
    (Text.substitute pairRule (Text.substitute wordRule (Text.substitute acronymRule name)))

end Snake

/-- The file stem of a page's companion file for a layer. -/
def layerStem (page layer : Text) : Text :=
  Snake.ofClass (stripPageSuffix page) ++ "_" ++ layer

/-- The file stem of a page. -/
def toSnake (page : Text) : Text :=
  layerStem page "page"

/-- The constant name of a page: the first character is made small. It may be empty. -/
def toRouteName (page : Text) : Text :=
  match stripPageSuffix page with
  | [] => []
  | first :: rest => Text.lower [first] ++ rest

/-- The first character in upper case and all others in lower case. -/
def capitalize : Text → Text
  | [] => []
  | first :: rest => Text.upper [first] ++ Text.lower rest

/-- Does the character separate the words of a resource name? -/
def isResourceSeparator (character : Char) : Bool :=
  character == '_' || character == '-' || character == '.'

/-- The words of a resource name in camel case. -/
def toCamel (name : Text) : Text :=
  match name.splitOnP isResourceSeparator with
  | [] => []
  | head :: words => Text.lower head ++ words.flatMap capitalize

end DartRoutes
