import DartRoutes.Navigation.Plan
import DartRoutes.Options
import DartRoutes.Source.Router

/-!
# Source of a navigation plan

The router source shows a plan: login routes are mounted at their absolute locations, branch roots
at the location of the branch, and the other routes of a group below its root.
-/

namespace DartRoutes

/-- A quick navigation entry as it is written. -/
def QuickNavItem.entry (item : QuickNavItem) : QuickEntry :=
  if item.name.isEmpty then .location item.path else .constant item.name

namespace Route

def mountedAt (path : Text) (route : Route) : MountedRoute :=
  ⟨path, route.page, route.hasParams⟩

/-- The route mounted at its absolute location. -/
def mounted (route : Route) : MountedRoute :=
  route.mountedAt route.fullPath

/-- The route mounted below the root of its group. -/
def mountedBelow (route : Route) : MountedRoute :=
  route.mountedAt route.childPath

end Route

/-- The branch as it is mounted in the shell. -/
def Branch.mounted (branch : Branch) : MountedBranch :=
  ⟨branch.root.mountedAt branch.path, branch.children.map Route.mountedBelow⟩

namespace NavigationPlan

/-- What the router source shows of the plan and the options. -/
def view (plan : NavigationPlan) (options : BuilderOptions) : RouterView where
  customImports := options.customImports
  pageImports := plan.pageImports
  constants := plan.routeConstants.map fun constant => (constant.name, constant.path)
  quickEntries := plan.quickNav.map QuickNavItem.entry
  branchRefs := plan.branchOrder
  fallbackPage := options.fallbackPage
  shellWidget := options.shellWidget
  authRoutes := plan.authRoutes.map Route.mounted
  branches := plan.branches.map Branch.mounted

def source (plan : NavigationPlan) (options : BuilderOptions) : Text :=
  (plan.view options).source

end NavigationPlan

/-- The router source of a list of routes. -/
def navigationSource (routes : List Route) (options : BuilderOptions) (packageName : Text) : Text :=
  (NavigationPlan.ofRoutes routes packageName).source options

namespace NavigationPlan

def constantOfValue (value : Value) : Checked RouteConstant := do
  let entries ← value.asRecord
  Checked.apply
    (Checked.apply (.ok RouteConstant.mk) (Checked.required "name" Value.asText entries))
    (Checked.required "path" Value.asText entries)

def quickNavOfValue (value : Value) : Checked QuickNavItem := do
  let entries ← value.asRecord
  Checked.apply
    (Checked.apply (.ok QuickNavItem.mk) (Checked.optional ["name"] [] Value.asText entries))
    (Checked.required "path" Value.asText entries)

def branchOfValue (value : Value) : Checked Branch := do
  let entries ← value.asRecord
  Checked.apply
    (Checked.apply
      (Checked.apply (.ok Branch.mk) (Checked.required "group" Value.asText entries))
      (Checked.required "root" Route.ofValue entries))
    (Checked.optional ["children"] [] (Value.asList .tupleType Route.ofValue) entries)

/-- Reads a plan; every part of it may be missing. -/
def ofValue (value : Value) : Checked NavigationPlan := do
  let entries ← value.asRecord
  let part {α : Type} (name : Text) (read : Value → Checked α) : Checked (List α) :=
    Checked.optional [name] [] (Value.asList .tupleType read) entries
  Checked.apply
    (Checked.apply
      (Checked.apply
        (Checked.apply
          (Checked.apply
            (Checked.apply (.ok NavigationPlan.mk) (part "route_constants" constantOfValue))
            (part "quick_nav" quickNavOfValue))
          (part "groups" Value.asText))
        (part "auth_routes" Route.ofValue))
      (part "branches" branchOfValue))
    (part "page_imports" Value.asText)

end NavigationPlan

end DartRoutes
