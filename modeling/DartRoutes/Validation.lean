import DartRoutes.Value

/-!
# Validation

Reading typed records out of values of unknown shape. A reader either answers a record or lists
every place that does not fit, in the order of the record's fields.
-/

namespace DartRoutes

/-- One step from a value to a part of it. -/
inductive Step where
  | key (name : Text)
  | index (position : Nat)
  deriving DecidableEq, Repr

inductive Issue.Kind where
  | missing
  | stringType
  | stringUnicode
  | stringTooShort
  | boolType
  | boolParsing
  | listType
  | tupleType
  | modelType
  | pathType
  deriving DecidableEq, Repr

/-- The code under which an issue is reported. -/
def Issue.Kind.code : Issue.Kind → Text
  | .missing => "missing"
  | .stringType => "string_type"
  | .stringUnicode => "string_unicode"
  | .stringTooShort => "string_too_short"
  | .boolType => "bool_type"
  | .boolParsing => "bool_parsing"
  | .listType => "list_type"
  | .tupleType => "tuple_type"
  | .modelType => "model_type"
  | .pathType => "path_type"

structure Issue where
  place : List Step
  kind : Issue.Kind
  deriving DecidableEq, Repr

/-- A record, or everything that is wrong with the value it was read from. -/
abbrev Checked (α : Type) := Except (List Issue) α

namespace Checked

/-- A single issue at the value itself. -/
def fail {α : Type} (kind : Issue.Kind) : Checked α :=
  .error [⟨[], kind⟩]

/-- The same result, seen from the value of which it reads a part. -/
def within {α : Type} (step : Step) : Checked α → Checked α
  | .ok result => .ok result
  | .error issues => .error (issues.map fun issue => { issue with place := step :: issue.place })

/-- A function and its argument; the issues of both are reported. -/
def apply {α β : Type} : Checked (α → β) → Checked α → Checked β
  | .ok function, .ok argument => .ok (function argument)
  | .ok _, .error issues => .error issues
  | .error issues, .ok _ => .error issues
  | .error issues, .error further => .error (issues ++ further)

/-- Reads every item, from the position `start` on. -/
def each {α : Type} (read : Value → Checked α) (start : Nat) : List Value → Checked (List α)
  | [] => .ok []
  | item :: items =>
      apply (apply (.ok List.cons) (within (.index start) (read item)))
        (each read (start + 1) items)

end Checked

namespace Value

/-- A text, or the bytes of one. -/
def asText : Value → Checked Text
  | .text content => .ok content
  | .bytes content =>
      match Utf8.decode content with
      | .ok decoded => .ok decoded
      | .error _ => Checked.fail .stringUnicode
  | _ => Checked.fail .stringType

/-- A text with an encoding and at least one character. -/
def asNonemptyText (value : Value) : Checked Text :=
  match value.asText with
  | .ok content =>
      match Utf8.encode? content with
      | .error _ => Checked.fail .stringUnicode
      | .ok _ => if content.isEmpty then Checked.fail .stringTooShort else .ok content
  | .error issues => .error issues

/-- The words for false and for true, in small letters. -/
def flagWords : List (Text × Bool) :=
  [("0", false), ("off", false), ("f", false), ("false", false), ("n", false), ("no", false),
    ("1", true), ("on", true), ("t", true), ("true", true), ("y", true), ("yes", true)]

/-- A flag as a whole number between a least and a greatest one. -/
def flagOfNumber (least greatest number : Int) : Checked Bool :=
  if number = 0 then .ok false
  else if number = 1 then .ok true
  else if least ≤ number ∧ number ≤ greatest then Checked.fail .boolParsing
  else Checked.fail .boolType

/-- A flag: a truth value, the number zero or one, or a word for one of them. Another whole number
counts as a misspelled flag only within the range of words of 64 bits, of which the real numbers
leave out the least. -/
def asFlag : Value → Checked Bool
  | .bool flag => .ok flag
  | .int number => flagOfNumber (-Int.pow 2 63) (Int.pow 2 63 - 1) number
  | .real number =>
      match number.fraction? with
      | some (numerator, denominator) =>
          if numerator % denominator = 0 then
            flagOfNumber (-Int.pow 2 63 + 1) (Int.pow 2 63 - 1) (numerator / denominator)
          else Checked.fail .boolType
      | none => Checked.fail .boolType
  | .text content =>
      match flagWords.lookup (content.map Char.toLower) with
      | some flag => .ok flag
      | none => Checked.fail .boolParsing
  | _ => Checked.fail .boolType

/-- A list whose items are all read in the same way. -/
def asList {α : Type} (kind : Issue.Kind) (read : Value → Checked α) : Value → Checked (List α)
  | .list items => Checked.each read 0 items
  | _ => Checked.fail kind

/-- The entries of a mapping where a record is expected. -/
def asRecord : Value → Checked (List (Text × Value))
  | .map entries => .ok entries
  | _ => Checked.fail .modelType

end Value

namespace Checked

/-- A field that has to be there. -/
def required {α : Type} (name : Text) (read : Value → Checked α)
    (entries : List (Text × Value)) : Checked α :=
  within (.key name) <|
    match Value.find? name entries with
    | some value => read value
    | none => fail .missing

/-- A field with a default; of several names the first one that is there counts. -/
def optional {α : Type} (names : List Text) (default : α) (read : Value → Checked α)
    (entries : List (Text × Value)) : Checked α :=
  match names.find? fun name => (Value.find? name entries).isSome with
  | none => .ok default
  | some name =>
      match Value.find? name entries with
      | some value => within (.key name) (read value)
      | none => .ok default

end Checked

end DartRoutes
