import DartRoutes.CommandLine.Request
import DartRoutes.Pipeline.Run

/-!
# Command line runs

A run from the command line: the settings come from the environment and the arguments, and the exit
code says whether the arguments were understood and every stage was completed.
-/

namespace DartRoutes

namespace CommandLine

/-- How a run ends. -/
inductive Exit where
  | success
  | failure
  /-- The arguments ask for help, and nothing is done. -/
  | help
  | usage (fault : UsageFault)
  deriving DecidableEq, Repr

namespace Exit

def code : Exit → Nat
  | success => 0
  | failure => 1
  | help => 0
  | usage _ => 2

/-- The line that explains why the arguments are refused. -/
def usageText? : Exit → Option Text
  | usage fault => some (programName ++ ": error: " ++ fault.message)
  | _ => none

end Exit

/-- The settings for a request in an environment, unless the environment does not fit. -/
def settingsFor (environment : List (Text × Text)) (request : Request) : Checked Settings :=
  request.override <$> Settings.ofEnvironment environment

variable [Console] [DocumentLoader]

def execute (settings : Settings) (stages : List Stage) : Action Exit := do
  if ← Action.ask (·.isDirectory settings.projectRoot) then
    let success ← Work.runOnce settings do
      Work.run (stages.map Stage.name)
      Work.showSummary
      return (← get).pipeline.record.success
    return if success then .success else .failure
  else
    Action.say
      (Markup.tagged "bold red" "Error:" ++ " Project root not found: " ++ settings.projectRoot.text)
    return .failure

def run [ArgumentRules] (environment : List (Text × Text)) (arguments : List Text) : Action Exit := do
  match Request.ofTexts arguments with
  | .error fault => return .usage fault
  | .ok none => return .help
  | .ok (some request) =>
      match settingsFor environment request with
      | .ok settings => execute settings request.stages
      | .error issues => throw (.invalid issues)

end CommandLine

end DartRoutes
