import DartRoutes.Source.Feature
import DartRoutes.Source.Manifest
import DartRoutes.Source.Router
import DartRoutes.Template.Context

/-!
# Views of template contexts

The variables of a context are read in the order in which the text of the template needs them, so
that of several faults the first one in the text is reported.
-/

namespace DartRoutes

namespace FeatureView

/-- What the view shows of a context. -/
def viewOfContext (context : Context) : Rendered FeatureView := do
  let packageName ← context.read "package_name"
  let page ← (← context.read "page").asName
  let hasParams ← context.read "has_params"
  return ⟨packageName.display, [], page, hasParams.isTrue⟩

/-- What the controller shows of a context. -/
def controllerOfContext (context : Context) : Rendered FeatureView := do
  let page ← (← context.read "page").asName
  let packageName ← context.read "package_name"
  let group ← context.read "group"
  return ⟨packageName.display, group.display, page, false⟩

/-- What the state and the repository show of a context. -/
def pageOfContext (context : Context) : Rendered FeatureView := do
  let page ← (← context.read "page").asName
  return ⟨[], [], page, false⟩

end FeatureView

/-- What the resource class shows of a context. -/
def ManifestView.ofContext (context : Context) : Rendered ManifestView := do
  let entries ← (← context.read "entries").items
  entries.mapM fun entry => do
    let name ← entry.member "name"
    let path ← (← entry.member "path").asLiteral
    return (name.display, path)

namespace RouterView

def constantOf (constant : Value) : Rendered (Text × Text) := do
  let name ← constant.member "name"
  let path ← (← constant.member "path").asLiteral
  return (name.display, path)

def quickEntryOf (item : Value) : Rendered QuickEntry := do
  let name ← item.member "name"
  if name.isTrue then return .constant name.display
  else return .location (← (← item.member "path").asLiteral)

/-- A mounted route of the context, whose path has its own attribute name. -/
def mountedOf (pathName : Text) (route : Value) : Rendered MountedRoute := do
  let path ← (← route.member pathName).asLiteral
  let hasParams ← route.member "has_params"
  let page ← route.member "page"
  return ⟨path, page.display, hasParams.isTrue⟩

def branchOf (branch : Value) : Rendered MountedBranch := do
  let path ← (← branch.member "path").asLiteral
  let root ← branch.member "root"
  let hasParams ← root.member "has_params"
  let page ← root.member "page"
  let children ← branch.member "children"
  let children ← if children.isTrue then children.items else pure []
  return ⟨⟨path, page.display, hasParams.isTrue⟩, ← children.mapM (mountedOf "child_path")⟩

/-- What the router shows of a context. -/
def ofContext (context : Context) : Rendered RouterView := do
  let customImports ← (← context.read "custom_imports").items
  let plan ← context.read "plan"
  let part (name : Text) : Rendered (List Value) := do (← plan.member name).items
  let pageImports ← part "page_imports"
  let constants ← (← part "route_constants").mapM constantOf
  let quickEntries ← (← part "quick_nav").mapM quickEntryOf
  let shellWidget ← context.read "shell_widget"
  let branches ← part "branches"
  let branchRefs ← branches.mapM (Value.member "order_ref")
  let fallbackPage ← context.read "fallback_page"
  let authRoutes ← (← part "auth_routes").mapM (mountedOf "full_path")
  return {
    customImports := customImports.map Value.display
    pageImports := pageImports.map Value.display
    constants
    quickEntries
    branchRefs := branchRefs.map Value.display
    fallbackPage := fallbackPage.display
    shellWidget := shellWidget.display
    authRoutes
    branches := ← branches.mapM branchOf }

end RouterView

/-- The directories and the file name in the name of a template, if it stays inside. -/
def templateParts? (name : Text) : Option (List Text) :=
  let segments := name.splitOn '/'
  if segments.contains ".." then none
  else some (segments.filter fun segment => !segment.isEmpty && segment != ['.'])

def builtIn? (path : Text) : Option (Context → Rendered Text) :=
  match String.ofList path with
  | "router.g.dart.j2" => some fun context => RouterView.source <$> RouterView.ofContext context
  | "r.g.dart.j2" => some fun context => ManifestView.source <$> ManifestView.ofContext context
  | "scaffold/page.dart.j2" =>
      some fun context => FeatureView.viewSource <$> FeatureView.viewOfContext context
  | "scaffold/controller.dart.j2" =>
      some fun context => FeatureView.controllerSource <$> FeatureView.controllerOfContext context
  | "scaffold/state.dart.j2" =>
      some fun context => FeatureView.stateSource <$> FeatureView.pageOfContext context
  | "scaffold/repository.dart.j2" =>
      some fun context => FeatureView.repositorySource <$> FeatureView.pageOfContext context
  | _ => none

def renderTemplate (name : Text) (context : Context) : Rendered Text := do
  match (templateParts? name).bind fun parts => builtIn? (Text.join "/" parts) with
  | none => throw (.unknownTemplate name)
  | some source => do
      context.check
      source context

end DartRoutes
