import DartRoutes.Navigation.Plan
import Mathlib.Data.List.DropRight

/-!
# Locations of branches

The navigation tree mounts the children of a branch below its root, while the constants and the
quick navigation list hold the full path of every route by itself. Both name the same place for a
group that is not empty and does not end with a slash. The children of the home group, and those of
a group with a slash at its end, have a full path with a slash too many.
-/

namespace DartRoutes

namespace Branch

/-- The location of a child below the branch root: exactly one slash stands between them. -/
def mount (branch : Branch) (childPath : Text) : Text :=
  branch.path.rdropWhile (· == '/') ++ "/" ++ childPath

/-- Does the group name a directory, so that a child can be put behind it with a slash? -/
def isNamed (branch : Branch) : Prop :=
  branch.group ≠ [] ∧ branch.group.getLast? ≠ some '/'

instance (branch : Branch) : Decidable branch.isNamed :=
  inferInstanceAs (Decidable (_ ∧ _))

theorem rdropWhile_path_eq_self_iff (branch : Branch) :
    branch.path.rdropWhile (· == '/') = branch.path ↔ branch.isNamed := by
  rw [List.rdropWhile_eq_self_iff, isNamed, path]
  cases group : branch.group with
  | nil => simp [rootPath]
  | cons character rest => simp [List.getLast?_eq_some_getLast]

end Branch

namespace NavigationPlan

theorem extractFirst?_eq_some {α : Type} {property : α → Bool} {items others : List α} {found : α}
    (extracted : extractFirst? property items = some (found, others)) :
    property found = true ∧ ∃ front back, items = front ++ found :: back ∧
      others = front ++ back ∧ ∀ item ∈ front, property item = false := by
  induction items generalizing others with
  | nil => simp [extractFirst?] at extracted
  | cons item items induction =>
      rw [extractFirst?] at extracted
      split at extracted
      · rename_i holds
        obtain ⟨rfl, rfl⟩ := by simpa using extracted
        exact ⟨holds, [], items, rfl, rfl, by simp⟩
      · rename_i fails
        obtain ⟨⟨_, rest⟩, restExtracted, same⟩ := Option.map_eq_some_iff.mp extracted
        obtain ⟨rfl, rfl⟩ := by simpa using same
        obtain ⟨holds, front, back, rfl, rfl, before⟩ := induction restExtracted
        refine ⟨holds, item :: front, back, rfl, rfl, ?_⟩
        simpa [fails] using before

theorem extractFirst?_eq_none_iff {α : Type} {property : α → Bool} {items : List α} :
    extractFirst? property items = none ↔ ∀ item ∈ items, property item = false := by
  induction items with
  | nil => simp [extractFirst?]
  | cons item items induction =>
      by_cases holds : property item = true
      · simp [extractFirst?, holds]
      · simp [extractFirst?, holds, induction]

/-- A group with one landing route gets it as the root of its branch, and no child is another. -/
theorem branchOf?_of_countP_eq_one {group : Text} {members : List Route} {branch : Branch}
    (built : branchOf? group members = some branch) (single : members.countP Route.isRoot = 1) :
    branch.group = group ∧ branch.root ∈ members ∧ branch.root.isRoot = true ∧
      ∀ child ∈ branch.children, child ∈ members ∧ child.isRoot = false := by
  cases members with
  | nil => simp at single
  | cons first rest =>
      rw [branchOf?] at built
      split at built
      · rename_i root children extracted
        obtain rfl := Option.some.inj built
        obtain ⟨isRoot, front, back, shape, rfl, -⟩ := extractFirst?_eq_some extracted
        rw [shape] at single ⊢
        simp only [List.countP_append, List.countP_cons, isRoot, if_true] at single
        have noOther : (front ++ back).countP Route.isRoot = 0 := by
          rw [List.countP_append]
          omega
        refine ⟨rfl, by simp, isRoot, fun child member => ⟨?_, ?_⟩⟩
        · simp only [List.mem_append, List.mem_cons] at member ⊢
          exact member.imp_right .inr
        · simpa using List.countP_eq_zero.mp noOther child member
      · rename_i absent
        have none := List.countP_eq_zero.mpr fun item member =>
          Bool.not_eq_true _ ▸ extractFirst?_eq_none_iff.mp absent item member
        omega

/-- Every group of the shell has exactly one landing route. -/
def HasSingleLandings (routes : List Route) : Prop :=
  ∀ group ∈ shellGroups routes, (routes.filter (·.group == group)).countP Route.isRoot = 1

instance (routes : List Route) : Decidable (HasSingleLandings routes) :=
  inferInstanceAs (Decidable (∀ _ ∈ _, _))

theorem fullPath_of_isRoot {branch : Branch} {route : Route} (same : route.group = branch.group)
    (landing : route.isRoot = true) : route.fullPath = branch.path := by
  rw [Route.fullPath, if_pos landing, same, Branch.path]
  cases branch.group with
  | nil => rfl
  | cons character rest => rfl

theorem fullPath_of_not_isRoot {branch : Branch} {route : Route}
    (same : route.group = branch.group) (below : route.isRoot = false) :
    route.fullPath = branch.path ++ "/" ++ route.childPath := by
  rw [Route.fullPath, if_neg (by simp [below]), same, Branch.path]
  cases branch.group with
  | nil => rfl
  | cons character rest => rfl

/-- The root of a branch lies at the branch path. A child lies where the branch mounts it exactly
if the group is not empty and does not end with a slash. -/
theorem fullPath_eq_mount_iff {routes : List Route} (packageName : Text)
    (landings : HasSingleLandings routes) :
    ∀ branch ∈ (ofRoutes routes packageName).branches,
      branch.root.fullPath = branch.path ∧
        ∀ child ∈ branch.children,
          child.fullPath = branch.path ++ "/" ++ child.childPath ∧
            (child.fullPath = branch.mount child.childPath ↔ branch.isNamed) := by
  intro branch member
  obtain ⟨group, shell, built⟩ := List.mem_filterMap.mp member
  obtain ⟨rfl, rootMember, rootLands, children⟩ :=
    branchOf?_of_countP_eq_one built (landings group shell)
  have sameGroup : ∀ route ∈ routes.filter (·.group == branch.group),
      route.group = branch.group := by
    intro route routeMember
    simpa using (List.mem_filter.mp routeMember).2
  refine ⟨fullPath_of_isRoot (sameGroup _ rootMember) rootLands, ?_⟩
  intro child childMember
  obtain ⟨groupMember, below⟩ := children child childMember
  have location := fullPath_of_not_isRoot (sameGroup _ groupMember) below
  refine ⟨location, ?_⟩
  rw [location, Branch.mount, List.append_left_inj, List.append_left_inj, eq_comm]
  exact branch.rdropWhile_path_eq_self_iff

/-- The cart of a shop is mounted at its full path. -/
theorem fullPath_eq_mount_shop :
    HasSingleLandings [⟨"shop", "/", "ShopPage", false⟩, ⟨"shop", "/cart", "CartPage", true⟩] ∧
      (⟨"shop", "/cart", "CartPage", true⟩ : Route).fullPath =
        Branch.mount ⟨"shop", ⟨"shop", "/", "ShopPage", false⟩,
          [⟨"shop", "/cart", "CartPage", true⟩]⟩ "cart" := by
  have landings : HasSingleLandings
      [⟨"shop", "/", "ShopPage", false⟩, ⟨"shop", "/cart", "CartPage", true⟩] := by decide +kernel
  refine ⟨landings, ?_⟩
  have located := fullPath_eq_mount_iff "app" landings
    ⟨"shop", ⟨"shop", "/", "ShopPage", false⟩, [⟨"shop", "/cart", "CartPage", true⟩]⟩
    (by decide +kernel)
  exact (located.2 _ (by decide)).2.mpr (by decide)

/-- The cart of the home group is mounted at one place and has its full path at another. -/
theorem fullPath_ne_mount_home :
    HasSingleLandings [⟨"", "/", "HomePage", false⟩, ⟨"", "/cart", "CartPage", false⟩] ∧
      ∃ branch ∈ (ofRoutes [⟨"", "/", "HomePage", false⟩, ⟨"", "/cart", "CartPage", false⟩]
        "app").branches, ∃ child ∈ branch.children,
          child.childPath = "cart" ∧ child.fullPath = "//cart" ∧
            branch.mount child.childPath = "/cart" := by
  let cart : Route := ⟨"", "/cart", "CartPage", false⟩
  refine ⟨by decide +kernel, ⟨"", ⟨"", "/", "HomePage", false⟩, [cart]⟩, by decide +kernel, cart,
    by decide, by decide, by decide, by decide⟩

end NavigationPlan

end DartRoutes
