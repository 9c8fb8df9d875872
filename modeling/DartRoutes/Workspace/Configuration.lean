import DartRoutes.Navigation.Plan
import DartRoutes.Options
import DartRoutes.Settings
import DartRoutes.Workspace.Basic

/-!
# Configuration of a project

The options of the configuration file and the name of the package. A file that is missing or broken
never stops a run: the defaults stand in for it, as a whole.
-/

namespace DartRoutes

namespace Action

variable [DocumentLoader]

def readDocument (path : Path) : Action Value := do
  match DocumentLoader.load (← readText path) with
  | .ok value => return value
  | .error fault => throw (.document fault)

variable [Console]

def loadOptions (path : Path) : Action BuilderOptions := do
  if ← ask (·.pathExists path) then
    match ← attempt Failure.isBrokenDocument (readDocument path) with
    | .error failure =>
        report .warning ("Error reading " ++ path.name ++ ": " ++ failure.message ++ ", using defaults")
        return .default
    | .ok .null => return .default
    | .ok (.map entries) =>
        match BuilderOptions.ofValue (.map entries) with
        | .ok options =>
            say ("  Loaded custom configuration from " ++ Markup.tagged "bold" path.name)
            return options
        | .error issues =>
            report .warning ("Invalid values in " ++ path.name ++ " (" ++ Text.ofNat issues.length
              ++ " error(s)), using defaults")
            return .default
    | .ok _ =>
        report .warning (path.name ++ " is not a mapping, using defaults")
        return .default
  else
    say ("  " ++ Markup.tagged "dim" (path.name ++ " not found, using defaults"))
    return .default

/-- The name in a document, if there is one. -/
def nameOf? : Value → Option Text
  | .map entries =>
      match Value.find? "name" entries with
      | some (.text (character :: rest)) => some (character :: rest)
      | _ => none
  | _ => none

def loadPackageName (path : Path) : Action Text := do
  if ← ask (·.pathExists path) then
    match ← attempt Failure.isBrokenDocument (readDocument path) with
    | .error failure =>
        report .warning ("Could not read " ++ path.name ++ ": " ++ failure.message)
        return defaultPackageName
    | .ok document => return (nameOf? document).getD defaultPackageName
  else return defaultPackageName

def packageName (settings : Settings) : Action Text := do
  if settings.packageName.isEmpty then loadPackageName settings.pubspecPath
  else return settings.packageName

end Action

end DartRoutes
