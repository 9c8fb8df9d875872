import DartRoutes.Naming
import DartRoutes.Validation

/-!
# Routes

One row of the route table: the feature group, the path inside the group, the class of the page
that is shown, and whether the page needs parameters. The empty group is the home group and the
group `auth` holds the login entry.
-/

namespace DartRoutes

/-- One row of the route table. -/
structure Route where
  group : Text
  path : Text
  page : Text
  hasParams : Bool
  deriving DecidableEq, Repr

/-- The group of the login entry. -/
def authGroup : Text := "auth"

/-- The path of a group's landing route. -/
def rootPath : Text := "/"

namespace Route

/-- Is the route its group's landing route? -/
def isRoot (route : Route) : Bool :=
  route.path == rootPath

/-- Does the route belong to the login entry? -/
def isAuth (route : Route) : Bool :=
  route.group == authGroup

/-- The path relative to the group: one leading slash is dropped. -/
def childPath (route : Route) : Text :=
  match route.path with
  | '/' :: rest => rest
  | path => path

/-- The absolute location of the route. -/
def fullPath (route : Route) : Text :=
  if route.isRoot then "/" ++ route.group
  else "/" ++ route.group ++ "/" ++ route.childPath

/-- The name of the route's constant; it is empty when there is none. -/
def name (route : Route) : Text :=
  if route.isRoot then route.group else toRouteName route.page

theorem name_of_isRoot {route : Route} (landing : route.isRoot = true) :
    route.name = route.group :=
  if_pos landing

/-- The page class name without its suffix. -/
def baseName (route : Route) : Text :=
  stripPageSuffix route.page

def fileStem (route : Route) : Text :=
  toSnake route.page

/-- Only feature pages get layered files; home and login pages do not. -/
def isFeature (route : Route) : Bool :=
  !route.group.isEmpty && !route.isAuth

/-- The field names of a row, in the order of its columns. -/
def columns : List Text :=
  ["group", "path", "page", "has_params"]

def ofValue (value : Value) : Checked Route := do
  let entries ← value.asRecord
  Checked.apply
    (Checked.apply
      (Checked.apply
        (Checked.apply (.ok Route.mk) (Checked.optional ["group"] [] Value.asText entries))
        (Checked.required "path" Value.asText entries))
      (Checked.required "page" Value.asText entries))
    (Checked.optional ["has_params"] false Value.asFlag entries)

/-- Reads a route from a mapping, or from a list of columns that starts with the group. -/
def ofRow : Value → Checked Route
  | .list cells => ofValue (.map (columns.zip cells))
  | value => ofValue value

end Route

end DartRoutes
