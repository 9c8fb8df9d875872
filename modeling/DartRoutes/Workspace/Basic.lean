import DartRoutes.Disk.Change
import DartRoutes.Text.Lines
import DartRoutes.Workspace.Failure
import DartRoutes.Workspace.Log

/-!
# Workspaces

A workspace is what a run acts on: the disk, the clock and the log. An action changes the workspace
and answers a result or a failure; what it did before a failure stays done. Nothing is shown of a
text that the console refuses.
-/

namespace DartRoutes

/-- The disk, the times that the clock shows from now on, and what has been shown so far. -/
structure Workspace where
  disk : Disk
  clock : List Seconds
  log : List LogEntry

/-- Something that is done in a workspace. -/
abbrev Action (α : Type) := EStateM Failure Workspace α

namespace Action

def showAll (entries : List LogEntry) : Action Unit :=
  modify fun workspace => { workspace with log := workspace.log ++ entries }

variable [Console]

/-- Shows entries that are made of texts, unless the console refuses one of the texts. -/
def display (texts : List Text) (entries : List LogEntry) : Action Unit :=
  match texts.findSome? Console.fault? with
  | some reason => throw (.markup reason)
  | none => showAll entries

def say (text : Text) : Action Unit :=
  display [text] [.note text]

/-- Says a message in the style of a tone; the message is shown as it is. -/
def report (tone : Tone) (message : Text) : Action Unit :=
  say (Markup.styled tone.style message)

/-- Shows the panel of a text. -/
def frame (text : Text) : Action Unit :=
  display [text] [.frame text]

/-- Shows the header of a part of a run, with an empty line above it. -/
def header (color title : Text) : Action Unit := do
  showAll [.line []]
  let text := Markup.tagged ("bold " ++ color) (" " ++ title ++ " ")
  display [text] [.header text]

/-- Shows a table of two columns, with an empty line below it. The columns are looked at before the
title. -/
def summarize (title : Text) (rows : List (Text × Text)) : Action Unit := do
  display (rows.map Prod.fst ++ rows.map Prod.snd ++ [title]) [.summary title rows]
  showAll [.line []]

omit [Console]

/-- The time that the clock shows; the last one repeats. -/
def now : Action Seconds := do
  match (← get).clock with
  | [] => return .whole 0
  | [time] => return time
  | time :: clock =>
      modify fun workspace => { workspace with clock }
      return time

/-- A question to the disk. -/
def ask {α : Type} (question : Disk → Except FileFault α) : Action α := do
  match question (← get).disk with
  | .ok answer => return answer
  | .error fault => throw (.file fault)

/-- A change of the disk. -/
def change {α : Type} (change : Disk.Change α) : Action α := fun workspace =>
  match change workspace.disk with
  | .ok result disk => .ok result { workspace with disk }
  | .error fault disk => .error (.file fault) { workspace with disk }

/-- The result of an action, or the failure if it is of a kind that is dealt with. -/
def attempt {α : Type} (isExpected : Failure → Bool) (action : Action α) :
    Action (Except Failure α) :=
  tryCatch (.ok <$> action) fun failure =>
    if isExpected failure then return .error failure else throw failure

def readText (path : Path) : Action Text := do
  match Utf8.decode (← ask (·.read path)) with
  | .ok text => return text.withLineFeeds
  | .error fault => throw (.encoding fault)

end Action

end DartRoutes
