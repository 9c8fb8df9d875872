import DartRoutes.Feature.Layer
import DartRoutes.Workspace.Output

/-!
# Scaffolding

The missing files of feature pages are created. A file that is there is left alone, and so is
everything else that stands in its place; a file that cannot be created is reported, and the other
files are still looked at. A path that the console does not show stops the scaffolding, before its
file is created or behind that.
-/

namespace DartRoutes

/-- What has become of a file. -/
inductive Outcome.Result where
  | created
  | skipped
  | failed (reason : Text)
  deriving DecidableEq, Repr

/-- A file of a feature page and what has become of it. -/
structure Outcome where
  layer : Layer
  path : Path
  result : Outcome.Result
  deriving DecidableEq, Repr

namespace Outcome

def isCreated (outcome : Outcome) : Bool :=
  outcome.result == .created

def isSkipped (outcome : Outcome) : Bool :=
  outcome.result == .skipped

/-- The reason why the file could not be created, if it could not. -/
def reason? (outcome : Outcome) : Option Text :=
  match outcome.result with
  | .failed reason => some reason
  | _ => none

end Outcome

/-- Where feature files go, and the package to which they belong. -/
structure Scaffold where
  featuresDir : Path
  packageName : Text
  deriving DecidableEq, Repr

namespace Scaffold

/-- A path as it is shown: seen from two directories above the features. -/
def shown (scaffold : Scaffold) (path : Path) : Text :=
  path.shownFrom scaffold.featuresDir.parent.parent

/-- The file of a layer of a route's page. -/
def path (scaffold : Scaffold) (route : Route) (layer : Layer) : Path :=
  layer.path scaffold.featuresDir route

/-- The source of a layer of a route's page. -/
def source (scaffold : Scaffold) (route : Route) (layer : Layer) : Text :=
  layer.source (.ofRoute scaffold.packageName route)

/-- The text that says that the file of a layer is missing. -/
def missingText (scaffold : Scaffold) (route : Route) (layer : Layer) : Text :=
  "  Creating missing " ++ layer.name ++ ": "
    ++ Markup.tagged "bold" (scaffold.shown (scaffold.path route layer))

/-- The text that says that the file of a layer has been created. -/
def createdText (scaffold : Scaffold) (route : Route) (layer : Layer) : Text :=
  "  " ++ Markup.tagged "green" "+" ++ " Created " ++ layer.name ++ ": "
    ++ scaffold.shown (scaffold.path route layer)

variable [Console]

/-- Creates the file of a layer unless there is something in its place. -/
def ensure (scaffold : Scaffold) (route : Route) (layer : Layer) : Action Outcome := do
  let path := scaffold.path route layer
  if ← Action.ask (·.pathExists path) then return ⟨layer, path, .skipped⟩
  else
    Action.say (scaffold.missingText route layer)
    let writing := Action.writeText path (scaffold.source route layer)
    match ← Action.attempt Failure.isFromDisk writing with
    | .ok () =>
        Action.say (scaffold.createdText route layer)
        return ⟨layer, path, .created⟩
    | .error failure =>
        Action.report .warning
          ("  Failed to create " ++ layer.name ++ " " ++ scaffold.shown path ++ ": "
            ++ failure.message)
        return ⟨layer, path, .failed failure.message⟩

/-- Creates the file of a layer, and if it is new, the files of the layers that come with it. -/
def ensureAll (scaffold : Scaffold) (route : Route) (layer : Layer) : Action (List Outcome) := do
  let outcome ← scaffold.ensure route layer
  let companions ←
    if outcome.isCreated then layer.companions.mapM (scaffold.ensure route) else pure []
  return outcome :: companions

/-- Creates the missing files of a route's page. -/
def ofRoute (scaffold : Scaffold) (route : Route) : Action (List Outcome) := do
  if route.isFeature then
    return (← Layer.leading.mapM (scaffold.ensureAll route)).flatten
  else return []

/-- Creates the missing files of all routes, in their order. -/
def run (scaffold : Scaffold) (routes : List Route) : Action (List Outcome) := do
  return (← routes.mapM scaffold.ofRoute).flatten

end Scaffold

end DartRoutes
