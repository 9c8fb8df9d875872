import DartRoutes.Navigation.Plan

/-!
# First occurrences

The constants, the quick navigation list and the imports of a plan come from walks over the routes
that keep the first entry of every key. The walks differ in the routes that they select and in the
key, which for the quick navigation list is the name of a constant or a location. Every selected
route is represented in its list, and routes that are added behind the others only add entries
behind the others.
-/

namespace DartRoutes

namespace NavigationPlan

/-- For every key of the selected routes the list holds the entry of the first one that has it, in
the order of the routes. -/
structure ListsFirsts {α : Type} (key : α → Text) (entryOf : Route → α) (selects : Route → Prop)
    (routes : List Route) (listed : List α) : Prop where
  ordered : listed.Sublist (routes.map entryOf)
  distinct : (listed.map key).Nodup
  mem_keys_iff : ∀ name, name ∈ listed.map key ↔
    ∃ route ∈ routes, selects route ∧ key (entryOf route) = name
  mem_iff : ∀ entry, entry ∈ listed ↔
    ∃ front route back, routes = front ++ route :: back ∧ selects route ∧ entryOf route = entry ∧
      ∀ earlier ∈ front, selects earlier → key (entryOf earlier) ≠ key entry

section Firsts

variable {α : Type} {key : α → Text} {entryOf : Route → α} {test : Route → Bool}
  {selects : Route → Prop}

theorem mem_firsts_map_filter_iff (decides : ∀ route, test route = true ↔ selects route)
    {routes : List Route} {entry : α} :
    entry ∈ firsts key ((routes.filter test).map entryOf) ↔
      ∃ front route back, routes = front ++ route :: back ∧ selects route ∧ entryOf route = entry ∧
        ∀ earlier ∈ front, selects earlier → key (entryOf earlier) ≠ key entry := by
  have skips (route earlier : Route) :
      (!decide (test earlier = true ∧ (key (entryOf earlier) == key (entryOf route)) = true)) =
          true ↔ (selects earlier → key (entryOf earlier) ≠ key (entryOf route)) := by
    simp only [Bool.not_eq_true', decide_eq_false_iff_not, not_and, decides, beq_iff_eq, ne_eq]
  rw [mem_firsts_iff, List.find?_map, List.find?_filter, Option.map_eq_some_iff]
  constructor
  · rintro ⟨route, found, rfl⟩
    obtain ⟨selected, front, back, shape, before⟩ := List.find?_eq_some_iff_append.mp found
    refine ⟨front, route, back, shape, by simpa [decides] using selected, rfl, ?_⟩
    exact fun earlier member => (skips route earlier).mp (before earlier member)
  · rintro ⟨front, route, back, shape, selected, rfl, before⟩
    refine ⟨route, List.find?_eq_some_iff_append.mpr ⟨?_, front, back, shape, ?_⟩, rfl⟩
    · simpa [decides] using selected
    · exact fun earlier member => (skips route earlier).mpr (before earlier member)

/-- Keeping the first item for every key lists the first entries of the routes that are tested. -/
theorem listsFirsts_firsts (decides : ∀ route, test route = true ↔ selects route)
    (routes : List Route) :
    ListsFirsts key entryOf selects routes (firsts key ((routes.filter test).map entryOf)) where
  ordered := (firsts_sublist _).trans (List.filter_sublist.map entryOf)
  distinct := firsts_nodup _
  mem_keys_iff name := by
    rw [mem_map_firsts_iff]
    constructor
    · rintro ⟨entry, member, rfl⟩
      obtain ⟨route, tested, rfl⟩ := List.mem_map.mp member
      obtain ⟨listed, test⟩ := List.mem_filter.mp tested
      exact ⟨route, listed, (decides route).mp test, rfl⟩
    · rintro ⟨route, listed, selected, rfl⟩
      have tested := List.mem_filter.mpr ⟨listed, (decides route).mpr selected⟩
      exact ⟨entryOf route, List.mem_map_of_mem tested, rfl⟩
  mem_iff _ := mem_firsts_map_filter_iff decides

/-- The entries of further routes stand behind the entries of the first ones. -/
theorem firsts_map_filter_prefix (routes more : List Route) :
    firsts key ((routes.filter test).map entryOf) <+:
      firsts key (((routes ++ more).filter test).map entryOf) := by
  rw [List.filter_append, List.map_append]
  exact firsts_prefix_append _ _

end Firsts

def constantOf (route : Route) : RouteConstant :=
  ⟨route.name, route.fullPath⟩

def quickItem (route : Route) : QuickNavItem :=
  ⟨route.name, route.fullPath⟩

theorem constantRef_inj {left right : Text} : constantRef left = constantRef right ↔ left = right :=
  List.append_right_inj _

/-- A location starts with a slash, and no constant does. -/
theorem fullPath_ne_constantRef (route : Route) (name : Text) :
    route.fullPath ≠ constantRef name := by
  intro same
  have slash : route.fullPath.head? = some '/' := by
    rw [Route.fullPath]
    split <;> rfl
  rw [same] at slash
  cases slash

theorem key_quickItem_of_unnamed {route : Route} (unnamed : route.name = []) :
    (quickItem route).key = route.fullPath :=
  if_pos (List.isEmpty_iff.mpr unnamed)

theorem key_quickItem_of_named {route : Route} (named : route.name ≠ []) :
    (quickItem route).key = constantRef route.name :=
  if_neg (mt List.isEmpty_iff.mp named)

/-- Routes with a name are told apart by it, and the others by their locations. -/
theorem key_quickItem_eq_iff {left right : Route} :
    (quickItem left).key = (quickItem right).key ↔
      left.name = right.name ∧ (left.name = [] → left.fullPath = right.fullPath) := by
  by_cases leftUnnamed : left.name = []
  · rw [key_quickItem_of_unnamed leftUnnamed]
    by_cases rightUnnamed : right.name = []
    · simp [key_quickItem_of_unnamed rightUnnamed, leftUnnamed, rightUnnamed]
    · rw [key_quickItem_of_named rightUnnamed]
      simp [fullPath_ne_constantRef, leftUnnamed, Ne.symm rightUnnamed]
  · rw [key_quickItem_of_named leftUnnamed]
    by_cases rightUnnamed : right.name = []
    · rw [key_quickItem_of_unnamed rightUnnamed]
      simp [(fullPath_ne_constantRef right left.name).symm, leftUnnamed, rightUnnamed]
    · rw [key_quickItem_of_named rightUnnamed, constantRef_inj]
      simp [leftUnnamed]

/-- The route needs no parameters, lies below the start and is not reached through the gate. -/
structure OpensQuickly (route : Route) : Prop where
  plain : route.hasParams = false
  below : route.fullPath ≠ rootPath
  free : route.name ∉ gateNames

theorem opensQuickly_iff (route : Route) : opensQuickly route = true ↔ OpensQuickly route := by
  constructor
  · intro quick
    obtain ⟨⟨plain, below⟩, free⟩ := by simpa [opensQuickly] using quick
    exact ⟨plain, below, free⟩
  · intro quick
    simp [opensQuickly, quick.plain, quick.below, quick.free]

section Lists

variable (routes : List Route) (packageName : Text)

theorem listsFirsts_routeConstants :
    ListsFirsts RouteConstant.name constantOf (·.name ≠ []) routes
      (ofRoutes routes packageName).routeConstants :=
  listsFirsts_firsts (by simp) routes

theorem listsFirsts_quickNav :
    ListsFirsts QuickNavItem.key quickItem OpensQuickly routes
      (ofRoutes routes packageName).quickNav :=
  listsFirsts_firsts opensQuickly_iff routes

theorem listsFirsts_pageImports :
    ListsFirsts id (pageImport packageName) (·.group ≠ []) routes
      (ofRoutes routes packageName).pageImports :=
  listsFirsts_firsts (by simp) routes

variable {routes packageName}

theorem name_ne_nil_of_mem_routeConstants {constant : RouteConstant}
    (member : constant ∈ (ofRoutes routes packageName).routeConstants) : constant.name ≠ [] := by
  have constants := listsFirsts_routeConstants routes packageName
  obtain ⟨_, route, _, _, named, rfl, _⟩ := (constants.mem_iff constant).mp member
  exact named

theorem exists_constant_of_name_ne_nil {route : Route} (listed : route ∈ routes)
    (named : route.name ≠ []) :
    ∃ constant ∈ (ofRoutes routes packageName).routeConstants, constant.name = route.name := by
  have constants := listsFirsts_routeConstants routes packageName
  exact List.mem_map.mp ((constants.mem_keys_iff route.name).mpr ⟨route, listed, named, rfl⟩)

theorem exists_route_of_mem_quickNav {item : QuickNavItem}
    (member : item ∈ (ofRoutes routes packageName).quickNav) :
    ∃ route ∈ routes, OpensQuickly route ∧ quickItem route = item := by
  have quickNav := listsFirsts_quickNav routes packageName
  obtain ⟨front, route, back, rfl, quick, same, _⟩ := (quickNav.mem_iff item).mp member
  exact ⟨route, List.mem_append_right front List.mem_cons_self, quick, same⟩

/-- No route gives way to another one that only looks the same as a key. -/
theorem exists_item_of_opensQuickly {route : Route} (listed : route ∈ routes)
    (quick : OpensQuickly route) :
    ∃ item ∈ (ofRoutes routes packageName).quickNav,
      item.name = route.name ∧ (route.name = [] → item.path = route.fullPath) := by
  have quickNav := listsFirsts_quickNav routes packageName
  obtain ⟨item, member, sameKey⟩ := List.mem_map.mp
    ((quickNav.mem_keys_iff (quickItem route).key).mpr ⟨route, listed, quick, rfl⟩)
  obtain ⟨first, -, -, rfl⟩ := exists_route_of_mem_quickNav member
  obtain ⟨sameName, samePath⟩ := key_quickItem_eq_iff.mp sameKey
  exact ⟨_, member, sameName, fun unnamed => samePath (sameName.trans unnamed)⟩

end Lists

/-- The three lists hold the first entries that they were walked for. -/
structure KeepsFirsts (plan : NavigationPlan) (routes : List Route) (packageName : Text) :
    Prop where
  constants : ListsFirsts RouteConstant.name constantOf (·.name ≠ []) routes plan.routeConstants
  constants_named : ∀ constant ∈ plan.routeConstants, constant.name ≠ []
  quickNav : ListsFirsts QuickNavItem.key quickItem OpensQuickly routes plan.quickNav
  quickNav_offers : ∀ route ∈ routes, OpensQuickly route →
    ∃ item ∈ plan.quickNav, item.name = route.name ∧ (route.name = [] → item.path = route.fullPath)
  quickNav_declared : ∀ item ∈ plan.quickNav, item.name ≠ [] →
    ∃ constant ∈ plan.routeConstants, constant.name = item.name
  pageImports : ListsFirsts id (pageImport packageName) (·.group ≠ []) routes plan.pageImports

/-- What the larger plan has more stands at the ends of the lists. -/
structure GrowsTo (plan larger : NavigationPlan) : Prop where
  routeConstants : plan.routeConstants <+: larger.routeConstants
  quickNav : plan.quickNav <+: larger.quickNav
  pageImports : plan.pageImports <+: larger.pageImports
  authRoutes : plan.authRoutes <+: larger.authRoutes

theorem ofRoutes_growsTo (routes more : List Route) (packageName : Text) :
    (ofRoutes routes packageName).GrowsTo (ofRoutes (routes ++ more) packageName) where
  routeConstants := firsts_map_filter_prefix routes more
  quickNav := firsts_map_filter_prefix routes more
  pageImports := firsts_map_filter_prefix routes more
  authRoutes := by
    show routes.filter Route.isAuth <+: (routes ++ more).filter Route.isAuth
    rw [List.filter_append]
    exact List.prefix_append _ _

/-- The constants, the quick navigation list and the imports hold the first entries of their keys,
and each of them only grows at its end, like the login routes, when routes are added. -/
theorem ofRoutes_keeps_and_grows (routes : List Route) (packageName : Text) :
    (ofRoutes routes packageName).KeepsFirsts routes packageName ∧
      ∀ more, (ofRoutes routes packageName).GrowsTo (ofRoutes (routes ++ more) packageName) := by
  refine ⟨?_, fun more => ofRoutes_growsTo routes more packageName⟩
  constructor
  · exact listsFirsts_routeConstants routes packageName
  · exact fun constant => name_ne_nil_of_mem_routeConstants
  · exact listsFirsts_quickNav routes packageName
  · exact fun route => exists_item_of_opensQuickly
  · intro item member named
    obtain ⟨route, listed, -, rfl⟩ := exists_route_of_mem_quickNav member
    exact exists_constant_of_name_ne_nil listed named
  · exact listsFirsts_pageImports routes packageName

end NavigationPlan

end DartRoutes
