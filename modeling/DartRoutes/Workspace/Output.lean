import DartRoutes.Template.View
import DartRoutes.Workspace.Basic

/-!
# Outputs of the stages

Texts become files, and so do templates with their variables filled in. The directories on the way
to a file are made first, and a file is emptied before its new text is encoded.
-/

namespace DartRoutes

namespace Action

/-- Writes a text to a file; if the text has no encoding, the file stays empty. -/
def writeText (path : Path) (text : Text) : Action Unit :=
  match Utf8.encode? text with
  | .ok content => change (Disk.writeDeepFile path content)
  | .error fault => do
      change (Disk.writeDeepFile path [])
      throw (.unencodable fault)

/-- Writes the text of a template to a file; a template without a text changes nothing. -/
def writeTemplate (name : Text) (path : Path) (context : Context) : Action Unit := do
  match renderTemplate name context with
  | .ok text => writeText path text
  | .error fault => throw (.template fault)

end Action

end DartRoutes
