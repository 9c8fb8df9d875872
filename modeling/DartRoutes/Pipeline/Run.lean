import DartRoutes.Pipeline.Stage

/-!
# Runs

A run executes stages in order and stops at the first one that fails. Every stage that is executed
is recorded, and a run ends with the table of what all runs have given so far.
-/

namespace DartRoutes

def programName : Text := "routegen"

namespace RunRecord

def complete (stage : Stage) (record : RunRecord) : RunRecord :=
  { record with completed := record.completed ++ [stage] }

def fail (stage : Stage) (reason : Text) (record : RunRecord) : RunRecord :=
  let record := { record with failed := record.failed ++ [stage] }
  match stage with
  | .routes => { record with routesError? := some reason }
  | .assets => { record with assetsError? := some reason }

/-- An output as it is shown in the table. -/
def shownOutput : Option Path → Text
  | some path => path.text
  | none => "-"

def rows (record : RunRecord) : List (Text × Text) :=
  let routes : List (Text × Text) := match record.routes? with
    | some result =>
        [("Routes", Text.ofNat result.count), ("Router output", shownOutput result.output?),
          ("Scaffolded files", Text.ofNat result.scaffolded.length)]
    | none => []
  let assets : List (Text × Text) := match record.assets? with
    | some result =>
        [("Assets", Text.ofNat result.count), ("Manifest output", shownOutput result.output?)]
    | none => []
  let duration : List (Text × Text) := [("Duration", record.duration?.getD "-")]
  routes ++ assets ++ duration

end RunRecord

namespace Work

variable [Console] [DocumentLoader]

/-- The result of a stage, or the wording of its failure; other failures go on. -/
def attemptStage {α : Type} (work : Work α) : Work (Except Text α) :=
  tryCatch (.ok <$> work) fun failure =>
    match failure with
    | .stage _ _ => return .error failure.message
    | _ => throw failure

/-- The time since the clock showed `start`, in words. -/
def durationSince (start : Seconds) : Work Text := do
  match Duration.between start (← act .now) with
  | .ok duration => return duration.text
  | .error fault => throw (.duration fault)

/-- Executes a stage and answers how its result is recorded. -/
def generate : Stage → Work (RunRecord → RunRecord)
  | .routes => do
      let result ← generateRoutes
      return fun record => { record with routes? := some result }
  | .assets => do
      let result ← generateAssets
      return fun record => { record with assets? := some result }

/-- Executes and records a stage, and answers whether it was completed. -/
def runStage (stage : Stage) : Work Bool := do
  act (.header (Stage.colorOf stage.name) stage.title)
  let start ← act .now
  match ← attemptStage (generate stage) with
  | .ok change =>
      note fun record => (change record).complete stage
      report .success ("Stage " ++ stage.name ++ " completed in " ++ (← durationSince start))
      return true
  | .error reason =>
      note (·.fail stage reason)
      report .failure
        ("Stage " ++ stage.name ++ " FAILED after " ++ (← durationSince start) ++ ": " ++ reason)
      return false

/-- Executes the stages of the given names up to the first one that fails, and answers whether none
did. A name that belongs to no stage is passed over. -/
def runStages : List Text → Work Bool
  | [] => return true
  | name :: names => do
      match Stage.ofName? name with
      | none =>
          report .warning ("Unknown stage " ++ name.quoted ++ " -- skipping.")
          runStages names
      | some stage => if ← runStage stage then runStages names else return false

/-- The text above a run. -/
def panelText (root : Path) (names : List Text) : Text :=
  Markup.tagged "bold bright_cyan" programName ++ "\nProject : " ++ root.text ++ "\nStages  : " ++ Text.join ", " names

/-- A run of the stages of the given names. -/
def run (names : List Text) : Work Unit := do
  let start ← act .now
  let root := (← settings).projectRoot
  let root ← act (.ask (·.resolve root))
  act (.frame (panelText root names))
  let success ← runStages names
  note fun record => { record with success }
  let duration ← durationSince start
  note fun record => { record with duration? := some duration }

def showSummary : Work Unit := do
  act (.summarize programName (← get).pipeline.record.rows)

end Work

end DartRoutes
