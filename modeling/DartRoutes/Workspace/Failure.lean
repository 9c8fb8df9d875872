import DartRoutes.Disk.Basic
import DartRoutes.Duration
import DartRoutes.Route.Table
import DartRoutes.Template.Context
import DartRoutes.Validation
import DartRoutes.Workspace.Services

/-!
# Failures

Everything that can go wrong while a project is worked on. The failures of the two stages are the
only ones that a run reports as its own; the others stop it.
-/

namespace DartRoutes

/-- A part of a run that writes one file. -/
inductive Stage where
  | routes
  | assets
  deriving DecidableEq, Repr

namespace Stage

def all : List Stage :=
  [.routes, .assets]

def name : Stage → Text
  | routes => "routes"
  | assets => "assets"

def title (stage : Stage) : Text :=
  Text.upper stage.name

/-- The color in which a stage is announced. -/
def color : Stage → Text
  | routes => "bright_cyan"
  | assets => "bright_green"

/-- The stage of a name. -/
def ofName? (name : Text) : Option Stage :=
  all.find? fun stage => stage.name = name

/-- The color in which something of a name is announced. -/
def colorOf (name : Text) : Text :=
  ((ofName? name).map color).getD "white"

end Stage

/-- Why an action has no result. -/
inductive Failure where
  | file (fault : FileFault)
  | noRouteConfig (path : Path)
  | encoding (fault : Utf8Fault)
  | unencodable (fault : SurrogateFault)
  | document (fault : DocumentFault)
  | naming (fault : NamingFault)
  | duration (fault : DurationFault)
  | template (fault : TemplateFault)
  /-- A text that the console does not show. -/
  | markup (reason : Text)
  /-- Settings that do not fit. -/
  | invalid (issues : List Issue)
  | stage (stage : Stage) (reason : Text)
  deriving DecidableEq

namespace Failure

def message : Failure → Text
  | file fault => fault.message
  | noRouteConfig path => "Route configuration not found: " ++ path.text
  | encoding fault => fault.message
  | unencodable fault => fault.message
  | document fault => fault.message
  | naming fault => fault.message
  | duration fault => fault.message
  | template fault => fault.message
  | markup reason => reason
  | invalid issues =>
      Text.ofNat issues.length ++ " validation error(s): "
        ++ Text.join ", " (issues.map (·.kind.code))
  | stage part reason => part.name ++ ": " ++ reason

/-- Does the failure mean that a file cannot be looked at or changed? -/
def isFromDisk : Failure → Bool
  | file fault => fault.isFromDisk
  | noRouteConfig _ => true
  | _ => false

/-- Does the failure mean that a file has no text? -/
def isUnreadable : Failure → Bool
  | encoding _ => true
  | failure => failure.isFromDisk

/-- Does the failure mean that a file is no document? -/
def isBrokenDocument : Failure → Bool
  | document fault => fault.isMalformed
  | failure => failure.isUnreadable

end Failure

end DartRoutes
