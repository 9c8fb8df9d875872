import DartRoutes.Template.Literal
import DartRoutes.Value

/-!
# Template contexts

The variables of a template are values of unknown shape. Using one can fail: the variable or an
attribute is not there, a value that is no collection is walked through, or a text operation is
applied to something that is no text. One name is reserved for the template itself.
-/

namespace DartRoutes

/-- Why a template has no text. -/
inductive TemplateFault where
  | unknownTemplate (name : Text)
  /-- A literal in the template breaks the rules. -/
  | literal (fault : LiteralFault)
  /-- The context has a variable of a reserved name. -/
  | reserved (name : Text)
  | unknownVariable (name : Text)
  | unknownAttribute (owner name : Text)
  | notIterable (kind : Text)
  | unsupported (title operation : Text)
  deriving DecidableEq, Repr

def TemplateFault.message : TemplateFault → Text
  | .unknownTemplate name => name
  | .literal fault => fault.message
  | .reserved name => "Template.render() got multiple values for argument " ++ name.quoted
  | .unknownVariable name => name.quoted ++ " is undefined"
  | .unknownAttribute owner name => owner.quoted ++ " has no attribute " ++ name.quoted
  | .notIterable kind => kind.quoted ++ " object is not iterable"
  | .unsupported title operation => title ++ " has no attribute " ++ operation.quoted

/-- What a part of a template gives. -/
abbrev Rendered (α : Type) := Except TemplateFault α

/-- The variables of a template. -/
abbrev Context := List (Text × Value)

/-- The name that stands for the template itself. -/
def selfName : Text := "self"

/-- Fails if a variable has the reserved name. -/
def Context.check (context : Context) : Rendered Unit :=
  if (Value.find? selfName context).isSome then .error (.reserved selfName) else .ok ()

def Context.read (name : Text) (context : Context) : Rendered Value :=
  match Value.find? name context with
  | some value => .ok value
  | none => .error (.unknownVariable name)

namespace Value

/-- How the owner of a missing attribute is named. -/
def ownerName : Value → Text
  | null => "None"
  | value => value.kindName ++ " object"

/-- An attribute of a value. -/
def member (name : Text) (value : Value) : Rendered Value :=
  let entries := match value with
    | map entries => entries
    | _ => []
  match find? name entries with
  | some value => .ok value
  | none => .error (.unknownAttribute value.ownerName name)

/-- The items that a loop over the value meets: a text has its characters, a mapping its keys. -/
def items : Value → Rendered (List Value)
  | list items => .ok items
  | text content => .ok (content.map fun character => text [character])
  | map entries => .ok (entries.map fun entry => text entry.1)
  | value => .error (.notIterable value.kindName)

/-- The text to which an operation is applied. -/
def textFor (operation : Text) : Value → Rendered Text
  | text content => .ok content
  | value => .error (.unsupported value.title operation)

/-- The text whose ending is looked at. -/
def asName (value : Value) : Rendered Text :=
  value.textFor "endswith"

/-- The text that becomes a literal. -/
def asLiteral (value : Value) : Rendered Text :=
  value.textFor "replace"

end Value

end DartRoutes
