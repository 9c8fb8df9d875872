import DartRoutes.Path
import DartRoutes.Route.Table

/-!
# Settings

Where a project lives, under which names its inputs are found, and where the generated files go.
Everything lies below the project root.
-/

namespace DartRoutes

/-- Paths and names of one project. -/
structure Settings where
  projectRoot : Path
  /-- The package name; it is read from the project when it is empty. -/
  packageName : Text
  configFile : Text
  tableName : Text
  /-- Are missing feature files created? -/
  scaffold : Bool
  deriving DecidableEq, Repr

namespace Settings

def default : Settings where
  projectRoot := .ofText "."
  packageName := []
  configFile := "routegen.yaml"
  tableName := RouteTable.defaultName
  scaffold := true

def libDir (settings : Settings) : Path :=
  settings.projectRoot / "lib"

def routeConfigPath (settings : Settings) : Path :=
  settings.libDir / "route_config.dart"

def routerOutputPath (settings : Settings) : Path :=
  settings.libDir / "router.g.dart"

def featuresDir (settings : Settings) : Path :=
  settings.libDir / "features"

def assetsDir (settings : Settings) : Path :=
  settings.projectRoot / "assets"

def manifestOutputPath (settings : Settings) : Path :=
  settings.libDir / "res" / "r.g.dart"

def builderConfigPath (settings : Settings) : Path :=
  settings.projectRoot / settings.configFile

def pubspecPath (settings : Settings) : Path :=
  settings.projectRoot / "pubspec.yaml"

/-- A path as it is shown for the project. -/
def shown (settings : Settings) (path : Path) : Text :=
  path.shownFrom settings.projectRoot

/-- A written path. -/
def pathOfValue : Value → Checked Path
  | .text content => .ok (.ofText content)
  | _ => Checked.fail .pathType

def ofValue (value : Value) : Checked Settings := do
  let entries ← value.asRecord
  Checked.apply
    (Checked.apply
      (Checked.apply
        (Checked.apply
          (Checked.apply (.ok Settings.mk)
            (Checked.optional ["project_root"] default.projectRoot pathOfValue entries))
          (Checked.optional ["package_name"] default.packageName Value.asText entries))
        (Checked.optional ["config_file"] default.configFile Value.asText entries))
      (Checked.optional ["table_name"] default.tableName Value.asNonemptyText entries))
    (Checked.optional ["scaffold"] default.scaffold Value.asFlag entries)

/-- The value of an environment variable; an empty one counts as none. -/
def setting? (environment : List (Text × Text)) (name : Text) : Option Text :=
  match environment.lookup name with
  | some (character :: rest) => some (character :: rest)
  | _ => none

/-- The words that turn scaffolding off. -/
def yesWords : List Text :=
  ["1", "true", "yes"]

/-- The fields that the environment sets; the scaffolding can only be turned off. -/
def entriesOf (environment : List (Text × Text)) : List (Text × Value) :=
  let fields : List (Text × Text) := [
    ("project_root", "ROUTEGEN_PROJECT_ROOT"), ("package_name", "ROUTEGEN_PACKAGE_NAME"),
    ("config_file", "ROUTEGEN_CONFIG_FILE"), ("table_name", "ROUTEGEN_TABLE_NAME")]
  let scaffold : List (Text × Value) :=
    if yesWords.contains (((setting? environment "ROUTEGEN_NO_SCAFFOLD").map Text.lower).getD [])
    then [("scaffold", .bool false)] else []
  (fields.filterMap fun (field, name) =>
    (setting? environment name).map fun value => (field, .text value)) ++ scaffold

def ofEnvironment (environment : List (Text × Text)) : Checked Settings :=
  ofValue (.map (entriesOf environment))

end Settings

end DartRoutes
