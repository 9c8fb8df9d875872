import DartRoutes.Options
import DartRoutes.Settings
import DartRoutes.Workspace.Basic

/-!
# Pipelines

A pipeline works on one project. It keeps the settings, the options once they are loaded, and a
record of every run so far: which stages were completed or failed, and what they gave.
-/

namespace DartRoutes

structure RoutesResult where
  count : Nat
  /-- The generated router, if there is any route. -/
  output? : Option Path
  /-- The new feature files, as they are shown. -/
  scaffolded : List Text
  deriving DecidableEq, Repr

structure AssetsResult where
  count : Nat
  /-- The generated resource constants, if there is an assets directory. -/
  output? : Option Path
  deriving DecidableEq, Repr

/-- The record of the runs of a pipeline. -/
structure RunRecord where
  completed : List Stage
  failed : List Stage
  /-- Was the last run free of failed stages? -/
  success : Bool
  /-- The duration of the last run. -/
  duration? : Option Text
  routes? : Option RoutesResult
  assets? : Option AssetsResult
  routesError? : Option Text
  assetsError? : Option Text
  deriving DecidableEq, Repr

def RunRecord.empty : RunRecord :=
  ⟨[], [], false, none, none, none, none, none⟩

/-- The settings of a project, its options and the record of its runs. -/
structure Pipeline where
  settings : Settings
  options? : Option BuilderOptions
  record : RunRecord

/-- A pipeline that has not run. -/
def Pipeline.ofSettings (settings : Settings) : Pipeline :=
  ⟨settings, none, .empty⟩

/-- A pipeline in its workspace. -/
structure Session where
  pipeline : Pipeline
  workspace : Workspace

/-- Something that a pipeline does. -/
abbrev Work (α : Type) := EStateM Failure Session α

namespace Work

/-- An action in the workspace of the pipeline. -/
def act {α : Type} (action : Action α) : Work α := fun session =>
  match action session.workspace with
  | .ok result workspace => .ok result { session with workspace }
  | .error failure workspace => .error failure { session with workspace }

instance : MonadLift Action Work := ⟨act⟩

/-- What a new pipeline does in a workspace. -/
def runOnce {α : Type} (settings : Settings) (work : Work α) : Action α := fun workspace =>
  match work ⟨.ofSettings settings, workspace⟩ with
  | .ok result session => .ok result session.workspace
  | .error failure session => .error failure session.workspace

def settings : Work Settings :=
  return (← get).pipeline.settings

/-- A path as it is shown. -/
def shown (path : Path) : Work Text :=
  return (← settings).shown path

variable [Console]

def say (text : Text) : Work Unit :=
  act (.say text)

def report (tone : Tone) (message : Text) : Work Unit :=
  act (.report tone message)

omit [Console]

def note (change : RunRecord → RunRecord) : Work Unit :=
  modify fun session => { session with
    pipeline := { session.pipeline with record := change session.pipeline.record } }

end Work

end DartRoutes
