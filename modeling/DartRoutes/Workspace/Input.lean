import DartRoutes.Asset.Name
import DartRoutes.Workspace.Basic

/-!
# Inputs of the stages

The route table of a project's configuration file, and the constants of its resource files.
-/

namespace DartRoutes

namespace Action

def loadRouteTable (path : Path) (tableName : Text) : Action RouteTable := do
  if ← ask (·.pathExists path) then
    match RouteTable.parse (← readText path) tableName with
    | .ok table => return table
    | .error fault => throw (.naming fault)
  else throw (.noRouteConfig path)

/-- The constants of the files in a directory. -/
def collectAssets (directory : Path) (ignoreDirs : List Text) : Action (List AssetEntry) := do
  return AssetEntry.collect ignoreDirs (← ask (·.list directory))

end Action

end DartRoutes
