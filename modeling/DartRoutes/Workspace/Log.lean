import DartRoutes.Text.Markup

/-!
# The log

What is shown while a project is worked on: lines, the rule above a stage, the panel above a run,
and tables of two columns. A report is a line whose tone says whether something went well.
-/

namespace DartRoutes

inductive LogEntry where
  | line (text : Text)
  | rule (title : Text)
  | panel (text : Text)
  | table (title : Text) (rows : List (Text × Text))
  deriving DecidableEq, Repr

/-- The tone of a report. -/
inductive Tone where
  | success
  | warning
  | failure
  deriving DecidableEq, Repr

def Tone.style : Tone → Text
  | success => "bold green"
  | warning => "bold yellow"
  | failure => "bold red"

namespace LogEntry

/-- The line that shows a text. -/
def note (text : Text) : LogEntry :=
  .line (Markup.plain text)

/-- The panel that shows a text. -/
def frame (text : Text) : LogEntry :=
  .panel (Markup.plain text)

/-- The rule that shows the text of a header. -/
def header (text : Text) : LogEntry :=
  .rule (Markup.plain text)

/-- The table that shows a title and rows. -/
def summary (title : Text) (rows : List (Text × Text)) : LogEntry :=
  .table (Markup.plain title)
    (rows.map fun (item, value) => (Markup.plain item, Markup.plain value))

/-- The title of a table that has none of its own. -/
def summaryTitle : Text := "Summary"

end LogEntry

end DartRoutes
