import DartRoutes.Route.Basic

/-!
# Navigation plan

Everything that the router source shows, computed once from the list of routes: the constants, the
quick navigation list, the shell branches in the order of their groups, the login routes and the
page imports. The branch order and the branches are read from the same sorted list of groups.
-/

namespace DartRoutes

structure RouteConstant where
  name : Text
  path : Text
  deriving DecidableEq, Repr

/-- An entry of the quick navigation list; a route without a constant is opened by its path. -/
structure QuickNavItem where
  name : Text
  path : Text
  deriving DecidableEq, Repr

/-- The expression that refers to a constant. -/
def constantRef (name : Text) : Text :=
  "RouteNames." ++ name

/-- The expression by which the entry is written and told apart from others. -/
def QuickNavItem.key (item : QuickNavItem) : Text :=
  if item.name.isEmpty then item.path else constantRef item.name

/-- A group of the shell: its root route and its other routes. -/
structure Branch where
  group : Text
  root : Route
  children : List Route
  deriving DecidableEq, Repr

namespace Branch

def name (branch : Branch) : Text :=
  if branch.group.isEmpty then "home" else branch.group

def path (branch : Branch) : Text :=
  if branch.group.isEmpty then rootPath else "/" ++ branch.group

/-- The expression that stands for the branch in the branch order. -/
def orderRef (branch : Branch) : Text :=
  if branch.group.isEmpty then "'/'" else constantRef branch.group

end Branch

/-- Everything that the router source shows. -/
structure NavigationPlan where
  routeConstants : List RouteConstant
  quickNav : List QuickNavItem
  groups : List Text
  authRoutes : List Route
  branches : List Branch
  pageImports : List Text
  deriving DecidableEq, Repr

namespace NavigationPlan

/-- The expressions of the branch order. -/
def branchOrder (plan : NavigationPlan) : List Text :=
  plan.branches.map Branch.orderRef

/-- The first item for every key, without the keys that were seen before. -/
def firstsFrom {α : Type} (key : α → Text) (seen : List Text) : List α → List α
  | [] => []
  | item :: items =>
      if key item ∈ seen then firstsFrom key seen items
      else item :: firstsFrom key (key item :: seen) items

/-- The first item for every key, in order. -/
def firsts {α : Type} (key : α → Text) (items : List α) : List α :=
  firstsFrom key [] items

section Firsts

variable {α : Type} {key : α → Text}

theorem firstsFrom_cons (seen : List Text) (item : α) (items : List α) :
    firstsFrom key seen (item :: items) =
      if key item ∈ seen then firstsFrom key seen items
      else item :: firstsFrom key (key item :: seen) items :=
  rfl

theorem mem_firstsFrom_iff {seen : List Text} {items : List α} {item : α} :
    item ∈ firstsFrom key seen items ↔
      key item ∉ seen ∧ items.find? (key · == key item) = some item := by
  induction items generalizing seen with
  | nil => exact iff_of_false List.not_mem_nil fun kept => Option.some_ne_none _ kept.2.symm
  | cons first items induction =>
      rw [firstsFrom_cons, List.find?_cons]
      by_cases same : key first = key item
      · rw [beq_iff_eq.mpr same, same]
        by_cases known : key item ∈ seen
        · simp [known, induction]
        · simp [known, induction, eq_comm]
      · rw [beq_eq_false_iff_ne.mpr same]
        by_cases known : key first ∈ seen
        · simp [known, induction]
        · have different : item ≠ first := fun equal => same (equal ▸ rfl)
          simp [known, induction, different, Ne.symm same]

/-- Looking a key up among the kept items finds what looking it up among all items finds. -/
theorem find?_firstsFrom {seen : List Text} {name : Text} (items : List α)
    (fresh : name ∉ seen) :
    (firstsFrom key seen items).find? (key · == name) = items.find? (key · == name) := by
  induction items generalizing seen with
  | nil => rfl
  | cons first items induction =>
      rw [firstsFrom_cons, List.find?_cons]
      by_cases same : key first = name
      · rw [if_neg (same ▸ fresh), List.find?_cons]
        simp [same]
      · rw [beq_eq_false_iff_ne.mpr same]
        by_cases known : key first ∈ seen
        · rw [if_pos known]
          exact induction fresh
        · rw [if_neg known, List.find?_cons, beq_eq_false_iff_ne.mpr same]
          exact induction (List.not_mem_cons_of_ne_of_not_mem (Ne.symm same) fresh)

theorem firstsFrom_nodup {seen : List Text} (items : List α) :
    ((firstsFrom key seen items).map key).Nodup := by
  induction items generalizing seen with
  | nil => exact List.nodup_nil
  | cons first items induction =>
      rw [firstsFrom_cons]
      split
      · exact induction
      · refine List.nodup_cons.mpr ⟨?_, induction⟩
        intro member
        obtain ⟨item, itemMember, same⟩ := List.mem_map.mp member
        have fresh := (mem_firstsFrom_iff.mp itemMember).1
        exact fresh (same ▸ List.mem_cons_self)

theorem mem_firsts_iff {items : List α} {item : α} :
    item ∈ firsts key items ↔ items.find? (key · == key item) = some item := by
  simp [firsts, mem_firstsFrom_iff]

theorem firsts_nodup (items : List α) : ((firsts key items).map key).Nodup :=
  firstsFrom_nodup items

theorem mem_of_mem_firsts {items : List α} {item : α} (kept : item ∈ firsts key items) :
    item ∈ items :=
  List.mem_of_find?_eq_some (mem_firsts_iff.mp kept)

theorem exists_mem_firsts {items : List α} {item : α} (member : item ∈ items) :
    ∃ first ∈ firsts key items, key first = key item := by
  have isSome : (items.find? (key · == key item)).isSome = true :=
    List.find?_isSome.mpr ⟨item, member, beq_self_eq_true _⟩
  obtain ⟨first, found⟩ := Option.isSome_iff_exists.mp isSome
  have same : key first = key item := by simpa using List.find?_some found
  refine ⟨first, mem_firsts_iff.mpr ?_, same⟩
  rw [same]
  exact found

theorem firstsFrom_sublist {seen : List Text} (items : List α) :
    (firstsFrom key seen items).Sublist items := by
  induction items generalizing seen with
  | nil => exact .slnil
  | cons item items induction =>
      rw [firstsFrom_cons]
      split
      · exact .cons item induction
      · exact .cons_cons item induction

theorem firsts_sublist (items : List α) : (firsts key items).Sublist items :=
  firstsFrom_sublist items

theorem firstsFrom_prefix_append {seen : List Text} (items more : List α) :
    firstsFrom key seen items <+: firstsFrom key seen (items ++ more) := by
  induction items generalizing seen with
  | nil => exact List.nil_prefix
  | cons item items induction =>
      rw [List.cons_append, firstsFrom_cons, firstsFrom_cons]
      split
      · exact induction
      · exact (List.prefix_cons_inj item).mpr induction

/-- Items at the end of a list change nothing about the items that were kept. -/
theorem firsts_prefix_append (items more : List α) :
    firsts key items <+: firsts key (items ++ more) :=
  firstsFrom_prefix_append items more

theorem mem_map_firsts_iff {items : List α} {name : Text} :
    name ∈ (firsts key items).map key ↔ ∃ item ∈ items, key item = name := by
  constructor
  · intro member
    obtain ⟨item, kept, same⟩ := List.mem_map.mp member
    exact ⟨item, mem_of_mem_firsts kept, same⟩
  · rintro ⟨item, member, rfl⟩
    obtain ⟨first, kept, same⟩ := @exists_mem_firsts _ key _ _ member
    exact List.mem_map.mpr ⟨first, kept, same⟩

theorem mem_firsts_id_iff {texts : List Text} {text : Text} :
    text ∈ firsts id texts ↔ text ∈ texts := by
  have kept := @mem_map_firsts_iff Text id texts text
  rw [List.map_id] at kept
  exact kept.trans exists_eq_right

theorem firsts_id_nodup (texts : List Text) : (firsts id texts).Nodup := by
  have distinct := @firsts_nodup Text id texts
  rwa [List.map_id] at distinct

/-- The order of the items decides which ones are kept, but not for which keys. -/
theorem map_firsts_perm {items others : List α} (permuted : items.Perm others) :
    ((firsts key items).map key).Perm ((firsts key others).map key) := by
  apply (List.perm_ext_iff_of_nodup (firsts_nodup items) (firsts_nodup others)).mpr
  intro name
  rw [mem_map_firsts_iff, mem_map_firsts_iff]
  simp only [permuted.mem_iff]

theorem firsts_id_perm {texts others : List Text} (permuted : texts.Perm others) :
    (firsts id texts).Perm (firsts id others) := by
  have kept := @map_firsts_perm Text id _ _ permuted
  rwa [List.map_id, List.map_id] at kept

end Firsts

/-- The groups of the shell: all groups but the login group, each once, in order. -/
def shellGroups (routes : List Route) : List Text :=
  Text.sort (firsts id ((routes.filter (!·.isAuth)).map Route.group))

/-- A constant for every route name, with the location of the first route of that name. -/
def constantsOf (routes : List Route) : List RouteConstant :=
  firsts RouteConstant.name
    ((routes.filter (!·.name.isEmpty)).map fun route => ⟨route.name, route.fullPath⟩)

/-- The names of the routes that are reached through the login gate or the shell. -/
def gateNames : List Text :=
  ["auth", "home"]

/-- Can the route be opened from the quick navigation list? -/
def opensQuickly (route : Route) : Bool :=
  !route.hasParams && route.fullPath != rootPath && !gateNames.contains route.name

def quickNavOf (routes : List Route) : List QuickNavItem :=
  firsts QuickNavItem.key
    ((routes.filter opensQuickly).map fun route => ⟨route.name, route.fullPath⟩)

/-- The first item with a property, and the other items in order. -/
def extractFirst? {α : Type} (property : α → Bool) : List α → Option (α × List α)
  | [] => none
  | item :: items =>
      if property item then some (item, items)
      else (extractFirst? property items).map fun (found, others) => (found, item :: others)

/-- The branch of a group with the given members: the first landing route is the root, or else
the first member. -/
def branchOf? (group : Text) : List Route → Option Branch
  | [] => none
  | first :: rest =>
      match extractFirst? Route.isRoot (first :: rest) with
      | some (root, children) => some ⟨group, root, children⟩
      | none => some ⟨group, first, rest⟩

/-- The branches of the given groups. -/
def branchesOf (groups : List Text) (routes : List Route) : List Branch :=
  groups.filterMap fun group => branchOf? group (routes.filter (·.group == group))

def pageImport (packageName : Text) (route : Route) : Text :=
  "package:" ++ packageName ++ "/features/" ++ route.group ++ "/" ++ route.fileStem ++ ".dart"

/-- The imports of all feature pages, each once. -/
def pageImportsOf (packageName : Text) (routes : List Route) : List Text :=
  firsts id ((routes.filter (!·.group.isEmpty)).map (pageImport packageName))

def ofRoutes (routes : List Route) (packageName : Text) : NavigationPlan :=
  let groups := shellGroups routes
  { routeConstants := constantsOf routes
    quickNav := quickNavOf routes
    groups
    authRoutes := routes.filter Route.isAuth
    branches := branchesOf groups routes
    pageImports := pageImportsOf packageName routes }

end NavigationPlan

def defaultPackageName : Text := "app"

end DartRoutes
