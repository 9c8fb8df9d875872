import DartRoutes.Text.Markup
import DartRoutes.Value

/-!
# Services

What is left to others while a project is worked on: documents are read by a loader, and texts are
shown by a console. Nothing is known of a loader. A console may refuse a text whose tags do not
match, but no tidy one.
-/

namespace DartRoutes

/-- Why a text gives no value. -/
structure DocumentFault where
  /-- Does the text break the rules of documents, and not those of a single value in it? -/
  isMalformed : Bool
  /-- How the fault is called. -/
  kind : Text
  message : Text
  deriving DecidableEq, Repr

/-- A reader of documents. -/
class DocumentLoader where
  load : Text → Except DocumentFault Value

/-- A console that shows texts with markup. -/
class Console where
  /-- Why a text cannot be shown. -/
  fault? : Text → Option Text
  fault?_of_isTidy {text : Text} : Markup.IsTidy text → fault? text = none

end DartRoutes
