import DartRoutes.Source.Literal
import DartRoutes.Template.View
import DartRoutes.Text.Blank
import DartRoutes.Text.Identifier
import DartRoutes.Text.Lines

/-!
# Custom templates

Templates from a directory of one's own consist of literal text and placeholders. A placeholder
names a variable and may pass it through naming filters. A template is read as a whole before any of
its placeholders is filled.
-/

namespace DartRoutes

inductive Filter where
  | routeName
  | stripPage
  | layerStem (layer : Text)
  | dartString
  deriving DecidableEq, Repr

namespace Filter

/-- The text of a value behind the filter. -/
def pass (filter : Filter) (value : Value) : Rendered Text :=
  match filter with
  | routeName => toRouteName <$> value.asName
  | stripPage => stripPageSuffix <$> value.asName
  | layerStem layer => (DartRoutes.layerStem · layer) <$> value.asName
  | dartString => dartLiteral <$> value.asLiteral

/-- The filter of a name and its arguments. -/
def ofName? (name : Text) (arguments : List Text) : Option Filter :=
  match String.ofList name, arguments with
  | "route_name", [] => some routeName
  | "strip_page", [] => some stripPage
  | "layer_stem", [layer] => some (layerStem layer)
  | "dart_string", [] => some dartString
  | _, _ => none

end Filter

/-- A variable and the filters that it passes through. -/
structure Placeholder where
  variableName : Text
  filters : List Filter
  deriving DecidableEq, Repr

namespace Placeholder

/-- What a reader finds at the beginning of a text, and the text behind it; there is no answer if it
is not there, and a fault if it holds a broken literal. -/
abbrev Reader (α : Type) := Text → Option (Except LiteralFault (α × Text))

/-- Goes on behind what a reader found. -/
def andThen {α β : Type} (found : Option (Except LiteralFault (α × Text)))
    (next : α → Reader β) : Option (Except LiteralFault (β × Text)) :=
  match found with
  | none => none
  | some (.error fault) => some (.error fault)
  | some (.ok (result, rest)) => next result rest

/-- A result without looking at the text. -/
def done {α : Type} (result : α) : Reader α := fun text =>
  some (.ok (result, text))

def skipBlanks (text : Text) : Text :=
  text.dropWhile isBlank

def readName : Reader Text := fun text =>
  let word := (skipBlanks text).takeWhile isIdentifierCharacter
  if word.isEmpty then none else done word ((skipBlanks text).drop word.length)

/-- A literal of one or more pieces, of which there are at most `fuel` more. -/
def readLiteral : (fuel : Nat) → Reader Text
  | 0, _ => none
  | fuel + 1, text =>
      match Literal.read? (skipBlanks text) with
      | none => none
      | some (.error fault, _) => some (.error fault)
      | some (.ok piece, rest) =>
          match (skipBlanks rest).head? with
          | some '\'' | some '"' =>
              andThen (readLiteral fuel rest) fun further => done (piece ++ further)
          | _ => done piece rest

/-- The arguments up to the closing parenthesis; the last one may have a comma behind it. -/
def readArgumentsBehind : (fuel : Nat) → Reader (List Text)
  | 0, _ => none
  | fuel + 1, text =>
      match skipBlanks text with
      | ')' :: rest => done [] rest
      | text =>
          andThen (readLiteral (text.length + 1) text) fun argument rest =>
            match skipBlanks rest with
            | ')' :: rest => done [argument] rest
            | ',' :: rest =>
                andThen (readArgumentsBehind fuel rest) fun further => done (argument :: further)
            | _ => none

/-- The arguments in parentheses, if there are any. -/
def readArguments : Reader (List Text) := fun text =>
  match skipBlanks text with
  | '(' :: rest => readArgumentsBehind (rest.length + 1) rest
  | _ => done [] text

/-- The filters up to the end of the placeholder, of which there are less than `fuel`. -/
def readFilters : (fuel : Nat) → Reader (List Filter)
  | 0, _ => none
  | fuel + 1, text =>
      match skipBlanks text with
      | '\x7d' :: '\x7d' :: rest => done [] rest
      | '|' :: rest =>
          andThen (readName rest) fun name rest =>
            andThen (readArguments rest) fun arguments rest =>
              match Filter.ofName? name arguments with
              | none => none
              | some filter =>
                  andThen (readFilters fuel rest) fun further => done (filter :: further)
      | _ => none

/-- A placeholder behind its opening braces. -/
def read : Reader Placeholder := fun text =>
  andThen (readName text) fun variableName rest =>
    andThen (readFilters (rest.length + 1) rest) fun filters => done ⟨variableName, filters⟩

/-- Names whose value no context changes. -/
def constants : List (Text × Value) :=
  [("true", .bool true), ("True", .bool true), ("false", .bool false), ("False", .bool false),
    ("none", .null), ("None", .null)]

/-- The class of a name, as messages name it and as it is shown. -/
def classOf (name path : Text) : Value :=
  .thing ("type object " ++ name.quoted) ("<class " ++ path.quoted ++ ">")

/-- Names that have a value if the context gives them none. -/
def globals : List (Text × Value) :=
  [("range", classOf "range" "range"), ("dict", classOf "dict" "dict"),
    ("cycler", classOf "Cycler" "jinja2.utils.Cycler"),
    ("joiner", classOf "Joiner" "jinja2.utils.Joiner"),
    ("namespace", classOf "Namespace" "jinja2.utils.Namespace"),
    ("lipsum", .thing "'function' object" "<function generate_lorem_ipsum>")]

/-- The template itself, as a value. -/
def ownValue (templateName : Text) : Value :=
  .thing "'TemplateReference' object" ("<TemplateReference " ++ templateName.quoted ++ ">")

/-- The value of the variable in a template and a context. -/
def subject (templateName : Text) (context : Context) (placeholder : Placeholder) :
    Rendered Value :=
  let name := placeholder.variableName
  match constants.lookup name with
  | some value => .ok value
  | none =>
      if name = selfName then .ok (ownValue templateName)
      else
        match context.read name, globals.lookup name with
        | .error _, some value => .ok value
        | value, _ => value

def render (templateName : Text) (context : Context) (placeholder : Placeholder) :
    Rendered Text := do
  let value ← placeholder.subject templateName context
  let value ←
    placeholder.filters.foldlM (fun value filter => Value.text <$> filter.pass value) value
  return value.display

end Placeholder

/-- A part of a template. -/
inductive Piece where
  | text (character : Char)
  | slot (placeholder : Placeholder)
  deriving DecidableEq, Repr

namespace Piece

/-- The placeholder at the beginning of a text, and the number of characters that it takes behind the
first one. -/
def placeholderAt? (text : Text) : Option (Except LiteralFault (Placeholder × Nat)) :=
  match text with
  | '\x7b' :: '\x7b' :: inside =>
      (Placeholder.read inside).map fun found => do
        let (placeholder, rest) ← found
        return (placeholder, text.length - rest.length - 1)
  | _ => none

/-- The pieces of a template. Braces that open no placeholder are text. -/
def ofText : Text → Except LiteralFault (List Piece)
  | [] => .ok []
  | first :: rest =>
      match placeholderAt? (first :: rest) with
      | none => (.text first :: ·) <$> ofText rest
      | some (.error fault) => .error fault
      | some (.ok (found, further)) =>
          (.slot found :: ·) <$> ofText (rest.drop further)
termination_by text => text.length
decreasing_by
  · simp
  · simp only [List.length_cons, List.length_drop]; omega

def render (templateName : Text) (context : Context) : Piece → Rendered Text
  | text character => .ok [character]
  | slot placeholder => placeholder.render templateName context

end Piece

/-- The text of a template of a directory, whose files are given by their paths. -/
def renderCustomTemplate (templates : List (Text × Text)) (name : Text) (context : Context) :
    Rendered Text := do
  let template? := (templateParts? name).bind fun parts =>
    templates.find? fun template => templateParts? template.1 == some parts
  match template? with
  | none => throw (.unknownTemplate name)
  | some (_, template) =>
      match Piece.ofText template.withLineFeeds with
      | .error fault => throw (.literal fault)
      | .ok pieces => do
          context.check
          return (← pieces.mapM (Piece.render name context)).flatten

end DartRoutes
