import DartRoutes.Navigation.Source
import Mathlib.Data.List.Forall2

/-!
# Spelling of paths

The path of a route that is no landing route may be written with or without its leading slash. What
the plan and its source take from a route is its group, its page, its need for parameters, its path
below the group and whether it is a landing route, and the slash changes none of them. The empty
path is the exception, because with a slash it is the path of a landing route.
-/

namespace DartRoutes

namespace Route

/-- Both routes are the same to everything that reads them. -/
structure SameUse (left right : Route) : Prop where
  group : left.group = right.group
  page : left.page = right.page
  hasParams : left.hasParams = right.hasParams
  isRoot : left.isRoot = right.isRoot
  childPath : left.childPath = right.childPath

namespace SameUse

variable {left right : Route} (same : left.SameUse right)

include same

theorem fullPath : left.fullPath = right.fullPath := by
  rw [Route.fullPath, Route.fullPath, same.isRoot, same.group, same.childPath]

theorem name : left.name = right.name := by
  rw [Route.name, Route.name, same.isRoot, same.group, same.page]

theorem isAuth : left.isAuth = right.isAuth := by
  rw [Route.isAuth, Route.isAuth, same.group]

theorem opensQuickly :
    NavigationPlan.opensQuickly left = NavigationPlan.opensQuickly right := by
  simp only [NavigationPlan.opensQuickly, same.hasParams, same.fullPath, same.name]

theorem pageImport (packageName : Text) :
    NavigationPlan.pageImport packageName left = NavigationPlan.pageImport packageName right := by
  have read (route : Route) : NavigationPlan.pageImport packageName route =
      NavigationPlan.pageImport packageName ⟨route.group, [], route.page, false⟩ := rfl
  rw [read left, read right, same.group, same.page]

theorem mountedAt (path : Text) : left.mountedAt path = right.mountedAt path := by
  rw [Route.mountedAt, Route.mountedAt, same.page, same.hasParams]

theorem mounted : left.mounted = right.mounted := by
  rw [Route.mounted, Route.mounted, same.fullPath, same.mountedAt]

theorem mountedBelow : left.mountedBelow = right.mountedBelow := by
  rw [Route.mountedBelow, Route.mountedBelow, same.childPath, same.mountedAt]

end SameUse

/-- The path is written without a leading slash, and is not empty. -/
def OmitsSlash (route : Route) : Prop :=
  route.path ≠ [] ∧ route.path.head? ≠ some '/'

instance (route : Route) : Decidable route.OmitsSlash :=
  inferInstanceAs (Decidable (_ ∧ _))

def addSlash (route : Route) : Route :=
  { route with path := '/' :: route.path }

theorem OmitsSlash.sameUse_addSlash {route : Route} (omits : route.OmitsSlash) :
    route.addSlash.SameUse route where
  group := rfl
  page := rfl
  hasParams := rfl
  isRoot := by
    obtain ⟨present, unrooted⟩ := omits
    have other : route.path ≠ rootPath := by
      intro root
      exact unrooted (root ▸ rfl)
    have longer : '/' :: route.path ≠ rootPath := by
      intro root
      exact present (List.cons.inj root).2
    rw [isRoot, isRoot, beq_eq_false_iff_ne.mpr other]
    exact beq_eq_false_iff_ne.mpr longer
  childPath := by
    obtain ⟨-, unrooted⟩ := omits
    show route.path = route.childPath
    rw [childPath]
    split
    · rename_i shape
      exact absurd (shape ▸ rfl) unrooted
    · rfl

/-- The route with the slash that its path omits. -/
def standard (route : Route) : Route :=
  if route.OmitsSlash then route.addSlash else route

theorem standard_sameUse (route : Route) : route.standard.SameUse route := by
  rw [standard]
  split
  · rename_i omits
    exact omits.sameUse_addSlash
  · exact ⟨rfl, rfl, rfl, rfl, rfl⟩

/-- The other route is the same one, or has a slash that this one omits. -/
inductive Respells : Route → Route → Prop where
  | same (route : Route) : Respells route route
  | slash {route : Route} : route.OmitsSlash → Respells route route.addSlash

theorem Respells.standard_eq {left right : Route} (respells : left.Respells right) :
    right.standard = left.standard := by
  cases respells with
  | same => rfl
  | slash omits =>
      have present : ¬ left.addSlash.OmitsSlash := fun omitsAgain => omitsAgain.2 rfl
      rw [standard, if_neg present, standard, if_pos omits]

end Route

/-- The branch with other routes at the same places. -/
def Branch.mapRoutes (change : Route → Route) (branch : Branch) : Branch :=
  ⟨branch.group, change branch.root, branch.children.map change⟩

namespace NavigationPlan

/-- The plan with other routes at the same places. -/
def mapRoutes (change : Route → Route) (plan : NavigationPlan) : NavigationPlan :=
  { plan with
    authRoutes := plan.authRoutes.map change
    branches := plan.branches.map (Branch.mapRoutes change) }

theorem extractFirst?_map {α β : Type} {property : β → Bool} (change : α → β) (items : List α) :
    extractFirst? property (items.map change) =
      (extractFirst? (property ∘ change) items).map fun (found, others) =>
        (change found, others.map change) := by
  induction items with
  | nil => rfl
  | cons item items induction =>
      rw [List.map_cons, extractFirst?, extractFirst?, induction, Function.comp_apply]
      split
      · rfl
      · simp [Option.map_map, Function.comp_def]

section Filter

variable {change : Route → Route} {test : Route → Bool}
  (sameTest : ∀ route, test (change route) = test route)

include sameTest

theorem filter_map_change (routes : List Route) :
    (routes.map change).filter test = (routes.filter test).map change := by
  have tests : test ∘ change = test := funext sameTest
  rw [List.filter_map, tests]

/-- A walk that reads the same of both routes makes the same list. -/
theorem map_filter_change {α : Type} {entryOf : Route → α}
    (sameEntry : ∀ route, entryOf (change route) = entryOf route) (routes : List Route) :
    ((routes.map change).filter test).map entryOf = (routes.filter test).map entryOf := by
  have entries : entryOf ∘ change = entryOf := funext sameEntry
  rw [filter_map_change sameTest, List.map_map, entries]

end Filter

section Change

variable {change : Route → Route} (keeps : ∀ route, (change route).SameUse route)

include keeps

theorem shellGroups_map (routes : List Route) :
    shellGroups (routes.map change) = shellGroups routes := by
  rw [shellGroups, shellGroups, map_filter_change]
  · exact fun route => congrArg _ (keeps route).isAuth
  · exact fun route => (keeps route).group

theorem constantsOf_map (routes : List Route) :
    constantsOf (routes.map change) = constantsOf routes := by
  rw [constantsOf, constantsOf, map_filter_change]
  · intro route
    rw [(keeps route).name]
  · intro route
    rw [(keeps route).name, (keeps route).fullPath]

theorem quickNavOf_map (routes : List Route) :
    quickNavOf (routes.map change) = quickNavOf routes := by
  rw [quickNavOf, quickNavOf, map_filter_change]
  · exact fun route => (keeps route).opensQuickly
  · intro route
    rw [(keeps route).name, (keeps route).fullPath]

theorem pageImportsOf_map (packageName : Text) (routes : List Route) :
    pageImportsOf packageName (routes.map change) = pageImportsOf packageName routes := by
  rw [pageImportsOf, pageImportsOf, map_filter_change]
  · intro route
    rw [(keeps route).group]
  · exact fun route => (keeps route).pageImport packageName

theorem branchOf?_map (group : Text) (members : List Route) :
    branchOf? group (members.map change) =
      (branchOf? group members).map (Branch.mapRoutes change) := by
  have landing : Route.isRoot ∘ change = Route.isRoot := funext fun route => (keeps route).isRoot
  cases members with
  | nil => rfl
  | cons first rest =>
      rw [List.map_cons, branchOf?, ← List.map_cons, extractFirst?_map, landing, branchOf?]
      cases extractFirst? Route.isRoot (first :: rest) with
      | none => rfl
      | some found => rfl

theorem branchesOf_map (groups : List Text) (routes : List Route) :
    branchesOf groups (routes.map change) =
      (branchesOf groups routes).map (Branch.mapRoutes change) := by
  have members (group : Text) : (routes.map change).filter (·.group == group) =
      (routes.filter (·.group == group)).map change :=
    filter_map_change (fun route => congrArg (· == group) (keeps route).group) routes
  rw [branchesOf, branchesOf, List.map_filterMap]
  congr
  funext group
  rw [members, branchOf?_map keeps]

theorem ofRoutes_map (routes : List Route) (packageName : Text) :
    ofRoutes (routes.map change) packageName = (ofRoutes routes packageName).mapRoutes change := by
  have auth : (routes.map change).filter Route.isAuth = (routes.filter Route.isAuth).map change :=
    filter_map_change (fun route => (keeps route).isAuth) routes
  rw [ofRoutes, shellGroups_map keeps, constantsOf_map keeps, quickNavOf_map keeps,
    pageImportsOf_map keeps, branchesOf_map keeps, auth]
  rfl

theorem mounted_mapRoutes (branch : Branch) :
    (branch.mapRoutes change).mounted = branch.mounted := by
  have below : Route.mountedBelow ∘ change = Route.mountedBelow :=
    funext fun route => (keeps route).mountedBelow
  rw [Branch.mounted, Branch.mounted, Branch.mapRoutes, List.map_map, below]
  exact congrArg (MountedBranch.mk · _) ((keeps branch.root).mountedAt branch.path)

theorem view_mapRoutes (plan : NavigationPlan) (options : BuilderOptions) :
    (plan.mapRoutes change).view options = plan.view options := by
  have auth : Route.mounted ∘ change = Route.mounted := funext fun route => (keeps route).mounted
  have shell : Branch.mounted ∘ Branch.mapRoutes change = Branch.mounted :=
    funext (mounted_mapRoutes keeps)
  have order : Branch.orderRef ∘ Branch.mapRoutes change = Branch.orderRef := rfl
  rw [view, view, branchOrder, branchOrder, mapRoutes, List.map_map, List.map_map, List.map_map,
    auth, shell, order]

end Change

/-- A slash in front of a path that omits it changes nothing about the router source. -/
theorem navigationSource_respelled {routes others : List Route}
    (respelled : List.Forall₂ Route.Respells routes others) (options : BuilderOptions)
    (packageName : Text) :
    navigationSource others options packageName = navigationSource routes options packageName := by
  have standard : others.map Route.standard = routes.map Route.standard := by
    induction respelled with
    | nil => rfl
    | cons first _ induction => rw [List.map_cons, List.map_cons, first.standard_eq, induction]
  have unchanged (listed : List Route) :
      navigationSource (listed.map Route.standard) options packageName =
        navigationSource listed options packageName := by
    rw [navigationSource, navigationSource, ofRoutes_map Route.standard_sameUse, source, source,
      view_mapRoutes Route.standard_sameUse]
  rw [← unchanged others, standard, unchanged routes]

/-- Two spellings of one path stand in the table, and two rows get their slash. -/
theorem navigationSource_respelled_cart :
    let shop : Route := ⟨"shop", "/", "ShopPage", false⟩
    let cart : Route := ⟨"shop", "cart", "CartPage", false⟩
    let parcel : Route := ⟨"shop", "/cart", "ParcelPage", true⟩
    let feed : Route := ⟨"blog", "feed", "FeedPage", false⟩
    let others := [shop, cart.addSlash, parcel, feed.addSlash]
    List.Forall₂ Route.Respells [shop, cart, parcel, feed] others ∧
      others.map Route.path = ["/", "/cart", "/cart", "/feed"] ∧
      navigationSource others .default "app" =
        navigationSource [shop, cart, parcel, feed] .default "app" := by
  intro shop cart parcel feed others
  have respelled : List.Forall₂ Route.Respells [shop, cart, parcel, feed] others :=
    .cons (.same shop) (.cons (.slash (by decide)) (.cons (.same parcel)
      (.cons (.slash (by decide)) .nil)))
  exact ⟨respelled, by decide, navigationSource_respelled respelled .default "app"⟩

end NavigationPlan

end DartRoutes
