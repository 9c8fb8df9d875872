import DartRoutes.CommandLine.Flag
import DartRoutes.Settings
import DartRoutes.Workspace.Failure

/-!
# Requests of the command line

The arguments ask for a stage, or for all stages, and may override the settings of the environment.
They are read from left to right, and the first one that does not fit is reported.
-/

namespace DartRoutes

namespace CommandLine

/-- What the arguments ask for. -/
structure Request where
  stages : List Stage
  projectRoot? : Option Text
  packageName? : Option Text
  config? : Option Text
  noScaffold : Bool
  deriving DecidableEq, Repr

namespace Request

def default : Request :=
  ⟨Stage.all, none, none, none, false⟩

/-- The names by which stages are asked for. -/
def choices : List (Text × List Stage) :=
  (Stage.all.map fun stage => (stage.name, [stage])).append [("all", Stage.all)]

/-- The request with the value of a flag; a flag without a value ignores it. -/
def withValue (flag : Flag) (value? : Option Text) (request : Request) : Request :=
  match flag with
  | .projectRoot => { request with projectRoot? := value? }
  | .packageName => { request with packageName? := value? }
  | .config => { request with config? := value? }
  | .noScaffold => { request with noScaffold := true }
  | .help => request

/-- A value that is given; an empty one counts as none. -/
def given? : Option Text → Option Text
  | some (character :: rest) => some (character :: rest)
  | _ => none

/-- The settings with what the request overrides. -/
def override (request : Request) (settings : Settings) : Settings :=
  { settings with
    projectRoot := ((given? request.projectRoot?).map Path.ofText).getD settings.projectRoot
    packageName := (given? request.packageName?).getD settings.packageName
    configFile := (given? request.config?).getD settings.configFile
    scaffold := settings.scaffold && !request.noScaffold }

end Request

/-- The rules in which readers of arguments differ. -/
class ArgumentRules where
  /-- Is the separator the value of a flag to which it is attached? Otherwise the flag has none. -/
  keepsSeparator : Bool

structure Reading where
  request : Request
  /-- Has a stage been named? -/
  hasStage : Bool
  /-- The arguments that have no meaning. -/
  extra : List Text
  deriving DecidableEq, Repr

namespace Reading

/-- The reading before the first argument. -/
def start : Reading :=
  ⟨.default, false, []⟩

/-- One more argument without meaning. -/
def leave (text : Text) (reading : Reading) : Reading :=
  { reading with extra := reading.extra ++ [text] }

/-- The value of a flag. -/
def take (flag : Flag) (value? : Option Text) (reading : Reading) : Reading :=
  { reading with request := reading.request.withValue flag value? }

/-- The value that is attached to a flag. -/
def takeAttached [ArgumentRules] (flag : Flag) (value : Text) (reading : Reading) : Reading :=
  if value = Argument.separatorText ∧ ¬ ArgumentRules.keepsSeparator then reading.take flag none
  else reading.take flag (some value)

def nameStage (name : Text) (reading : Reading) : Except UsageFault Reading :=
  match Request.choices.lookup name with
  | some stages => .ok { reading with request.stages := stages, hasStage := true }
  | none => .error (.unknownStage name (Request.choices.map Prod.fst))

/-- The letters that are glued to the flag for help name more flags. They have no effect, but they
have to be written correctly, up to the first flag with a value. -/
def checkGlued : Text → (rest : List Argument) → Except UsageFault Unit
  | [], _ => .ok ()
  | letter :: letters, rest =>
      match spellings.lookup ['-', letter] with
      | none => .error (.needlessValue .help (letter :: letters))
      | some flag =>
          if flag.takesValue then
            match letters, rest with
            | [], .word _ :: _ => .ok ()
            | [], _ => .error (.missingValue flag)
            | _, _ => .ok ()
          else checkGlued letters rest

variable [ArgumentRules]

/-- Reads arguments; there is no request if help is asked for. -/
def run (reading : Reading) : List Argument → Except UsageFault (Option Request)
  | [] =>
      if reading.extra.isEmpty then .ok (some reading.request)
      else .error (.unrecognized reading.extra)
  | .unknown text :: rest => run (reading.leave text) rest
  | .separator :: rest =>
      if reading.hasStage then run (reading.leave Argument.separatorText) rest
      else run reading rest
  | .word text :: .separator :: rest => do
      if reading.hasStage then run ((reading.leave text).leave Argument.separatorText) rest
      else run (← reading.nameStage text) rest
  | .word text :: rest => do
      if reading.hasStage then run (reading.leave text) rest
      else run (← reading.nameStage text) rest
  | .mention flag none :: rest =>
      if flag = .help then .ok none
      else if flag.takesValue then
        match rest with
        | .word value :: rest => run (reading.take flag (some value)) rest
        | _ => .error (.missingValue flag)
      else run (reading.take flag none) rest
  | .mention flag (some (.value value)) :: rest =>
      if flag.takesValue then run (reading.takeAttached flag value) rest
      else .error (.needlessValue flag value)
  | .mention flag (some (.glued text)) :: rest =>
      if flag.takesValue then run (reading.takeAttached flag text) rest
      else if text.isEmpty then .error (.needlessValue flag text)
      else do
        checkGlued text rest
        return none

end Reading

/-- What the arguments ask for; there is no request if they ask for help. -/
def Request.ofTexts [ArgumentRules] (texts : List Text) : Except UsageFault (Option Request) := do
  Reading.start.run (← Argument.ofTexts texts)

end CommandLine

end DartRoutes
