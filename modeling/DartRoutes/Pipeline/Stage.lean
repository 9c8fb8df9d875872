import DartRoutes.Asset.Manifest
import DartRoutes.Feature.Scaffold
import DartRoutes.Navigation.Source
import DartRoutes.Pipeline.Basic
import DartRoutes.Workspace.Configuration
import DartRoutes.Workspace.Input
import DartRoutes.Workspace.Output

/-!
# Stages

The stage of the routes reads the route table, creates missing feature files and writes the router.
The stage of the assets writes the resource constants. A stage fails when its input cannot be read
or its output cannot be written.
-/

namespace DartRoutes

namespace Work

variable [Console] [DocumentLoader]

/-- The options of the pipeline, which are loaded when they are first needed. -/
def options : Work BuilderOptions := do
  match (← get).pipeline.options? with
  | some options => return options
  | none =>
      let options ← act (.loadOptions (← settings).builderConfigPath)
      modify fun session => { session with
        pipeline := { session.pipeline with options? := some options } }
      return options

def writeOutput (stage : Stage) (path : Path) (text : Text) : Work Unit := do
  match ← act (.attempt Failure.isFromDisk (.writeText path text)) with
  | .ok () => return
  | .error failure =>
      report .failure ("  Could not write " ++ (← shown path) ++ ": " ++ failure.message)
      throw (.stage stage ("Could not write " ++ path.text ++ ": " ++ failure.message))

/-- Why the stage of the routes fails when its table cannot be loaded. -/
def tableReason (shownPath : Text) (failure : Failure) : Text :=
  match failure with
  | .naming _ | .noRouteConfig _ | .file ⟨.missing, _⟩ => failure.message
  | _ => "Could not read " ++ shownPath ++ ": " ++ failure.message

/-- Does the stage of the routes fail when its table cannot be loaded for this reason? -/
def isTableFailure : Failure → Bool
  | .naming _ => true
  | failure => failure.isUnreadable

def routeTable : Work RouteTable := do
  let settings ← settings
  let path := settings.routeConfigPath
  match ← act (.attempt isTableFailure (.loadRouteTable path settings.tableName)) with
  | .ok table => return table
  | .error failure => throw (.stage .routes (tableReason (settings.shown path) failure))

/-- Creates the missing feature files of routes, unless the settings forbid it, and answers the new
ones. -/
def scaffold (routes : List Route) (packageName : Text) : Work (List Text) := do
  let settings ← settings
  if settings.scaffold then
    let outcomes ← act (Scaffold.run ⟨settings.featuresDir, packageName⟩ routes)
    let failed := outcomes.filterMap Outcome.reason?
    unless failed.isEmpty do
      report .warning ("  " ++ Text.ofNat failed.length ++ " scaffold file(s) could not be created")
    return (outcomes.filter Outcome.isCreated).map fun outcome => settings.shown outcome.path
  else return []

def generateRoutes : Work RoutesResult := do
  let settings ← settings
  let shownPath := settings.shown settings.routeConfigPath
  say ("  Processing " ++ Markup.tagged "bold" shownPath)
  let table ← routeTable
  table.notes.forM fun note => report .warning ("  " ++ note.message)
  if table.routes.isEmpty then
    report .warning ("  No routes found in " ++ shownPath)
    return ⟨0, none, []⟩
  else
    let count := Text.ofNat table.routes.length
    say ("  Parsed " ++ count ++ " routes")
    let options ← options
    let packageName ← act (.packageName settings)
    let scaffolded ← scaffold table.routes packageName
    let output := settings.routerOutputPath
    writeOutput .routes output (navigationSource table.routes options packageName)
    say ("  Generated " ++ settings.shown output ++ " with " ++ count ++ " routes")
    return ⟨table.routes.length, some output, scaffolded⟩

def generateAssets : Work AssetsResult := do
  let settings ← settings
  if ← act (.ask (·.isDirectory settings.assetsDir)) then
    let options ← options
    let entries ← act (.collectAssets settings.assetsDir options.ignoreDirs)
    let output := settings.manifestOutputPath
    writeOutput .assets output (manifestSource entries)
    say ("  Generated " ++ settings.shown output ++ " with " ++ Text.ofNat entries.length
      ++ " assets")
    return ⟨entries.length, some output⟩
  else
    report .warning ("  Assets directory not found: " ++ settings.shown settings.assetsDir)
    return ⟨0, none⟩

end Work

end DartRoutes
