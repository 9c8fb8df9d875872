import DartRoutes.Number.Shortest
import DartRoutes.Text.Utf8

/-!
# Values

Values whose shape is not known in advance: documents of a configuration file, settings, and the
variables of a template. A mapping keeps its keys in the order in which they first appear.
-/

namespace DartRoutes

inductive Value where
  | null
  | bool (flag : Bool)
  | int (number : Int)
  | real (number : Binary64)
  | text (content : Text)
  | bytes (content : Bytes)
  | list (items : List Value)
  | map (entries : List (Text × Value))
  /-- Something that can only be shown: how messages name it, and the text that shows it. -/
  | thing (title shown : Text)
  /-- Something that no field accepts, such as a date. -/
  | other

namespace Value

def find? (key : Text) (entries : List (Text × Value)) : Option Value :=
  entries.lookup key

/-- The entries with one more value; a key that is there keeps its place. -/
def insert (key : Text) (value : Value) : List (Text × Value) → List (Text × Value)
  | [] => [(key, value)]
  | entry :: entries =>
      if entry.1 = key then (key, value) :: entries else entry :: insert key value entries

def kindName : Value → Text
  | null => "NoneType"
  | bool _ => "bool"
  | int _ => "int"
  | real _ => "float"
  | text _ => "str"
  | bytes _ => "bytes"
  | list _ => "list"
  | map _ => "dict"
  | thing title _ => title
  | other => "object"

/-- How messages name a value that lacks an operation. -/
def title : Value → Text
  | thing title _ => title
  | value => value.kindName.quoted ++ " object"

/-- Does a condition on the value hold? Zero and everything empty count as false. -/
def isTrue : Value → Bool
  | null => false
  | bool flag => flag
  | int number => number != 0
  | real number => !number.isZero
  | text content => !content.isEmpty
  | bytes content => !content.isEmpty
  | list items => !items.isEmpty
  | map entries => !entries.isEmpty
  | thing _ _ => true
  | other => true

mutual

/-- The value as it stands inside a list or a mapping, where texts are quoted. -/
def inner : Value → Text
  | null => "None"
  | bool flag => if flag then "True" else "False"
  | int number => Text.ofInt number
  | real number => number.write
  | text content => content.quoted
  | list items => "[" ++ Text.join ", " (innerItems items) ++ "]"
  | map entries => "\x7b" ++ Text.join ", " (innerEntries entries) ++ "\x7d"
  | thing _ shown => shown
  | bytes _ => []
  | other => []

/-- The items of a list, each as it stands inside. -/
def innerItems : List Value → List Text
  | [] => []
  | item :: items => item.inner :: innerItems items

/-- The entries of a mapping, each as it stands inside. -/
def innerEntries : List (Text × Value) → List Text
  | [] => []
  | (key, value) :: entries => (key.quoted ++ ": " ++ value.inner) :: innerEntries entries

end

/-- The value as it is printed: a text is printed as it is. -/
def display : Value → Text
  | text content => content
  | value => value.inner

end Value

end DartRoutes
