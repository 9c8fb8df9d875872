import DartRoutes.Navigation.Source
import DartRoutes.Proofs.BranchPartition
import DartRoutes.Proofs.FirstOccurrence

/-!
# Values of references

The quick navigation list and the branch order refer to locations by expressions: the name of a
constant, or a literal. A constant has the location of the first route of its name, and that need
not be the route for which the expression was written. So an entry of the quick navigation list may
open a page that needs parameters, and an entry of the branch order may name a place inside another
branch; both happen exactly if an earlier route takes the name.
-/

namespace DartRoutes

/-- The content of a string literal behind its opening quote; the closing quote ends the text. A
bare dollar sign would start an interpolation. -/
def literalRest? : Text → Option Text
  | [] => none
  | ['\''] => some []
  | '\\' :: character :: rest => (character :: ·) <$> literalRest? rest
  | character :: rest =>
      if needsEscape character then none else (character :: ·) <$> literalRest? rest

def literalValue? : Text → Option Text
  | '\'' :: rest => literalRest? rest
  | _ => none

theorem literalRest?_flatMap (content : Text) :
    literalRest? (content.flatMap literalCharacter ++ ['\'']) = some content := by
  induction content with
  | nil => rfl
  | cons character content induction =>
      rw [List.flatMap_cons, literalCharacter]
      split
      · simp [literalRest?, induction]
      · rename_i plain
        have notQuote : character ≠ '\'' := by
          rintro rfl
          exact plain rfl
        have notBackslash : character ≠ '\\' := by
          rintro rfl
          exact plain rfl
        simp [literalRest?, notQuote, notBackslash, plain, induction]

theorem literalValue?_dartLiteral (content : Text) :
    literalValue? (dartLiteral content) = some content :=
  literalRest?_flatMap content

/-- The expression that is written for an entry of the quick navigation list. -/
def QuickEntry.expression : QuickEntry → Text
  | .constant name => constantRef name
  | .location path => dartLiteral path

theorem RouterView.quickLine_eq (entry : QuickEntry) :
    quickLine entry = "    " ++ entry.expression ++ "," := by
  cases entry with
  | constant name => rfl
  | location path => rfl

namespace NavigationPlan

/-- The location that an expression stands for: the one of a constant, or a literal itself. -/
def value? (plan : NavigationPlan) (expression : Text) : Option Text :=
  match Text.withoutBeginning? "RouteNames." expression with
  | some name => (plan.routeConstants.find? (·.name == name)).map RouteConstant.path
  | none => literalValue? expression

theorem value?_constantRef (plan : NavigationPlan) (name : Text) :
    plan.value? (constantRef name) =
      (plan.routeConstants.find? (·.name == name)).map RouteConstant.path := by
  have read : Text.withoutBeginning? "RouteNames." (constantRef name) = some name :=
    Text.withoutBeginning?_eq_some_iff.mpr rfl
  rw [value?, read]

theorem value?_dartLiteral (plan : NavigationPlan) (path : Text) :
    plan.value? (dartLiteral path) = some path := by
  have unread : Text.withoutBeginning? "RouteNames." (dartLiteral path) = none := rfl
  rw [value?, unread]
  exact literalValue?_dartLiteral path

theorem find?_constantsOf (routes : List Route) {name : Text} (named : name ≠ []) :
    (constantsOf routes).find? (·.name == name) =
      (routes.find? (·.name == name)).map fun route => ⟨route.name, route.fullPath⟩ := by
  rw [constantsOf, firsts, find?_firstsFrom _ List.not_mem_nil, List.find?_map,
    List.find?_filter]
  congr 2
  funext route
  by_cases same : route.name = name
  · simp [same, named]
  · simp [same]

/-- A constant has the location of the first route of its name. -/
theorem value?_constantRef_ofRoutes {routes : List Route} {packageName name : Text}
    (named : name ≠ []) :
    (ofRoutes routes packageName).value? (constantRef name) =
      (routes.find? (·.name == name)).map Route.fullPath := by
  rw [value?_constantRef]
  change ((constantsOf routes).find? _).map _ = _
  rw [find?_constantsOf routes named, Option.map_map]
  rfl

theorem mem_quickEntries_iff {routes : List Route} {packageName : Text} {options : BuilderOptions}
    {entry : QuickEntry} :
    entry ∈ ((ofRoutes routes packageName).view options).quickEntries ↔
      ∃ route ∈ routes, opensQuickly route = true ∧ (quickItem route).entry = entry := by
  constructor
  · intro member
    obtain ⟨item, kept, rfl⟩ := List.mem_map.mp member
    obtain ⟨route, listed, quick, rfl⟩ := exists_route_of_mem_quickNav kept
    exact ⟨route, listed, (opensQuickly_iff route).mpr quick, rfl⟩
  · rintro ⟨route, listed, quick, rfl⟩
    obtain ⟨item, kept, sameName, samePath⟩ :=
      @exists_item_of_opensQuickly _ packageName _ listed ((opensQuickly_iff route).mp quick)
    have sameEntry : item.entry = (quickItem route).entry := by
      by_cases unnamed : route.name = []
      · simp [QuickNavItem.entry, quickItem, sameName, unnamed, samePath unnamed]
      · simp [QuickNavItem.entry, quickItem, sameName, unnamed]
    exact sameEntry ▸ List.mem_map_of_mem kept

/-- Some route at the location needs no parameters. -/
def OpensPlainly (routes : List Route) (path : Text) : Prop :=
  ∃ route ∈ routes, route.hasParams = false ∧ route.fullPath = path

instance (routes : List Route) (path : Text) : Decidable (OpensPlainly routes path) :=
  inferInstanceAs (Decidable (∃ route ∈ routes, _))

theorem expression_of_unnamed {route : Route} (unnamed : route.name = []) :
    (quickItem route).entry.expression = dartLiteral route.fullPath := by
  rw [QuickNavItem.entry, if_pos (by simpa [quickItem] using unnamed)]
  rfl

theorem expression_of_named {route : Route} (named : route.name ≠ []) :
    (quickItem route).entry.expression = constantRef route.name := by
  rw [QuickNavItem.entry, if_neg (by simpa [quickItem] using named)]
  rfl

/-- The entry of a route opens the first route of its name, or the route itself without a name. -/
theorem value?_expression {routes : List Route} {packageName : Text} {route : Route}
    (listed : route ∈ routes) :
    ∃ opened ∈ routes,
      (ofRoutes routes packageName).value? (quickItem route).entry.expression =
        some opened.fullPath ∧
      if route.name = [] then opened = route
      else routes.find? (·.name == route.name) = some opened := by
  by_cases unnamed : route.name = []
  · rw [expression_of_unnamed unnamed, value?_dartLiteral]
    exact ⟨route, listed, rfl, by rw [if_pos unnamed]⟩
  · rw [expression_of_named unnamed, value?_constantRef_ofRoutes unnamed]
    have isSome : (routes.find? (·.name == route.name)).isSome = true :=
      List.find?_isSome.mpr ⟨route, listed, beq_self_eq_true _⟩
    obtain ⟨opened, found⟩ := Option.isSome_iff_exists.mp isSome
    refine ⟨opened, List.mem_of_find?_eq_some found, ?_, ?_⟩
    · rw [found]
      rfl
    · rw [if_neg unnamed]
      exact found

/-- Every entry of the quick navigation list opens some route. All of them open without parameters
exactly if no name in the list belongs to a location that only opens with parameters. -/
theorem quickEntries_open_iff (routes : List Route) (packageName : Text)
    (options : BuilderOptions) :
    let plan := ofRoutes routes packageName
    (∀ entry ∈ (plan.view options).quickEntries,
        ∃ opened ∈ routes, plan.value? entry.expression = some opened.fullPath) ∧
      ((∀ entry ∈ (plan.view options).quickEntries,
          ∃ path, plan.value? entry.expression = some path ∧ OpensPlainly routes path) ↔
        ∀ route ∈ routes, opensQuickly route = true → route.name ≠ [] →
          ∀ first, routes.find? (·.name == route.name) = some first →
            OpensPlainly routes first.fullPath) := by
  intro plan
  refine ⟨?_, ?_, ?_⟩
  · intro entry member
    obtain ⟨route, listed, -, rfl⟩ := mem_quickEntries_iff.mp member
    obtain ⟨opened, openedListed, value, -⟩ := value?_expression listed
    exact ⟨opened, openedListed, value⟩
  · intro opens route listed quick named first found
    obtain ⟨path, value, plain⟩ :=
      opens _ (mem_quickEntries_iff.mpr ⟨route, listed, quick, rfl⟩)
    rw [expression_of_named named, value?_constantRef_ofRoutes named, found] at value
    exact Option.some.inj value ▸ plain
  · intro taken entry member
    obtain ⟨route, listed, quick, rfl⟩ := mem_quickEntries_iff.mp member
    obtain ⟨opened, openedListed, value, found⟩ := value?_expression listed
    refine ⟨opened.fullPath, value, ?_⟩
    by_cases unnamed : route.name = []
    · rw [if_pos unnamed] at found
      subst found
      have plain : opened.hasParams = false := by
        simp only [opensQuickly, Bool.and_eq_true, Bool.not_eq_true'] at quick
        exact quick.1.1
      exact ⟨opened, openedListed, plain, rfl⟩
    · rw [if_neg unnamed] at found
      exact taken route listed quick unnamed opened found

/-- Two pages of one class share a constant; here the page of the shop needs parameters, and the
page of the blog is offered without them by the constant that opens the shop. -/
theorem not_quickEntries_open :
    let routes : List Route := [⟨"shop", "/", "ShopPage", false⟩,
      ⟨"shop", "/detail", "DetailPage", true⟩, ⟨"blog", "/", "BlogPage", false⟩,
      ⟨"blog", "/detail", "DetailPage", false⟩]
    let plan := ofRoutes routes "app"
    ∃ entry ∈ (plan.view .default).quickEntries,
      plan.value? entry.expression = some "/shop/detail" ∧ ¬ OpensPlainly routes "/shop/detail" := by
  refine ⟨.constant "detail", ?_, ?_, ?_⟩
  all_goals decide

/-- Every group but the home group has a landing route. -/
def HasLandings (routes : List Route) : Prop :=
  ∀ group ∈ shellGroups routes, group ≠ [] →
    ∃ route ∈ routes, route.group = group ∧ route.isRoot = true

instance (routes : List Route) : Decidable (HasLandings routes) :=
  inferInstanceAs (Decidable (∀ group ∈ shellGroups routes, _))

theorem find?_of_hasLandings {routes : List Route} (landings : HasLandings routes) {group : Text}
    (shell : group ∈ shellGroups routes) (named : group ≠ []) :
    ∃ first, routes.find? (·.name == group) = some first := by
  obtain ⟨route, listed, rfl, landing⟩ := landings group shell named
  apply Option.isSome_iff_exists.mp
  exact List.find?_isSome.mpr ⟨route, listed, beq_iff_eq.mpr (Route.name_of_isRoot landing)⟩

theorem value?_orderRef_home (plan : NavigationPlan) {branch : Branch} (home : branch.group = []) :
    plan.value? branch.orderRef = some branch.path := by
  rw [Branch.orderRef, Branch.path, home]
  exact value?_dartLiteral plan rootPath

theorem value?_orderRef {routes : List Route} {packageName : Text} {branch : Branch}
    (named : branch.group ≠ []) :
    (ofRoutes routes packageName).value? branch.orderRef =
      (routes.find? (·.name == branch.group)).map Route.fullPath := by
  rw [Branch.orderRef, if_neg (by simpa using named)]
  exact value?_constantRef_ofRoutes named

theorem exists_branch_of_mem_shellGroups {routes : List Route} {group : Text}
    (packageName : Text) (shell : group ∈ shellGroups routes) :
    ∃ branch ∈ (ofRoutes routes packageName).branches, branch.group = group := by
  rw [← branches_map_group (shellBranches_arrange routes)] at shell
  exact List.mem_map.mp shell

/-- Every entry of the branch order stands for some location. Each stands for the path of its own
branch exactly if the first route that has the name of a group lies at the path of that group. -/
theorem branchOrder_located_iff {routes : List Route} (packageName : Text)
    (landings : HasLandings routes) :
    let plan := ofRoutes routes packageName
    (∀ reference ∈ plan.branchOrder, ∃ path, plan.value? reference = some path) ∧
      ((∀ (index : Nat) (reference : Text) (branch : Branch),
          plan.branchOrder[index]? = some reference → plan.branches[index]? = some branch →
            plan.value? reference = some branch.path) ↔
        ∀ group ∈ shellGroups routes, group ≠ [] →
          ∀ first, routes.find? (·.name == group) = some first →
            first.fullPath = "/" ++ group) := by
  intro plan
  have order (index : Nat) : plan.branchOrder[index]? = plan.branches[index]?.map Branch.orderRef :=
    List.getElem?_map
  refine ⟨?_, ?_, ?_⟩
  · intro reference member
    obtain ⟨branch, branchMember, rfl⟩ := List.mem_map.mp member
    by_cases home : branch.group = []
    · exact ⟨_, value?_orderRef_home plan home⟩
    · have shell := (arranges_of_mem_branches branchMember).1
      obtain ⟨first, found⟩ := find?_of_hasLandings landings shell home
      exact ⟨first.fullPath, by rw [value?_orderRef home, found]; rfl⟩
  -- Every group of the shell has a branch, and the entry at its index tells what the name means.
  · intro located group shell named first found
    obtain ⟨branch, member, rfl⟩ := exists_branch_of_mem_shellGroups packageName shell
    obtain ⟨index, present⟩ := List.getElem?_of_mem member
    have value := located index branch.orderRef branch (by rw [order, present]; rfl) present
    rw [value?_orderRef named, found, Branch.path, if_neg (by simpa using named)] at value
    exact Option.some.inj value
  · intro first index reference branch listed present
    obtain rfl : branch.orderRef = reference := by simpa [order, present] using listed
    by_cases home : branch.group = []
    · exact value?_orderRef_home plan home
    · have shell := (arranges_of_mem_branches (List.mem_of_getElem? present)).1
      obtain ⟨route, found⟩ := find?_of_hasLandings landings shell home
      rw [value?_orderRef home, found, Branch.path, if_neg (by simpa using home)]
      exact congrArg some (first branch.group shell home route found)

theorem branchOrder_located_shop :
    let routes : List Route := [⟨"", "/", "HomePage", false⟩, ⟨"shop", "/cart", "CartPage", true⟩,
      ⟨"shop", "/", "ShopPage", false⟩]
    let plan := ofRoutes routes "app"
    HasLandings routes ∧ shellGroups routes = [[], "shop"] ∧
      ∀ (index : Nat) (reference : Text) (branch : Branch),
        plan.branchOrder[index]? = some reference → plan.branches[index]? = some branch →
          plan.value? reference = some branch.path := by
  intro routes plan
  have groups : shellGroups routes = [[], "shop"] := shellGroups_of_pairwise (by decide) (by decide)
  have first : routes.find? (fun route => route.name == ("shop" : Text)) =
      some ⟨"shop", "/", "ShopPage", false⟩ := by decide
  have landings : HasLandings routes := by
    rw [HasLandings, groups]
    decide
  refine ⟨landings, groups, (branchOrder_located_iff "app" landings).2.mpr ?_⟩
  intro group shell named route found
  rw [groups] at shell
  rcases List.mem_pair.mp shell with rfl | rfl
  · exact absurd rfl named
  · obtain rfl := Option.some.inj (first.symm.trans found)
    rfl

/-- A page of the account takes the name of the shop, and the branch order sends the shop there. -/
theorem not_branchOrder_located :
    let routes : List Route := [⟨"account", "/", "AccountPage", false⟩,
      ⟨"account", "/shop", "ShopPage", false⟩, ⟨"shop", "/", "ShopHomePage", false⟩]
    let plan := ofRoutes routes "app"
    HasLandings routes ∧ plan.branchOrder[1]? = some ("RouteNames.shop" : Text) ∧
      plan.branches[1]?.map Branch.path = some ("/shop" : Text) ∧
      plan.value? "RouteNames.shop" = some ("/account/shop" : Text) := by
  intro routes plan
  have groups : shellGroups routes = ["account", "shop"] :=
    shellGroups_of_pairwise (by decide) (by decide)
  have branches : plan.branches = branchesOf ["account", "shop"] routes :=
    congrArg (branchesOf · routes) groups
  refine ⟨?_, ?_, ?_, by decide⟩
  · rw [HasLandings, groups]
    decide
  · rw [branchOrder, branches]
    decide
  · rw [branches]
    decide

end NavigationPlan

end DartRoutes
