import DartRoutes.Proofs.BranchLocation
import Mathlib.Data.List.Perm.Lattice

/-!
# The plan keeps every route

The login routes and the branches of a plan divide the routes among them: every group of the shell
has one branch, the branch holds the routes of its group with the root moved to the front, and every
route turns up as often as it is listed. `Branch.Arranges` describes one branch, and equal rows are
told apart by their positions.
-/

namespace DartRoutes

namespace Branch

/-- All routes of the branch, the root first. -/
def routes (branch : Branch) : List Route :=
  branch.root :: branch.children

/-- The branch of a group with the given members: its root is the first landing route or, when
there is none, the first member; the other members are its children, in order. -/
inductive Arranges (group : Text) : List Route → Branch → Prop where
  | landing {front back : List Route} {root : Route} :
      (∀ route ∈ front, route.isRoot = false) → root.isRoot = true →
      Arranges group (front ++ root :: back) ⟨group, root, front ++ back⟩
  | rootless {first : Route} {rest : List Route} :
      (∀ route ∈ first :: rest, route.isRoot = false) →
      Arranges group (first :: rest) ⟨group, first, rest⟩

namespace Arranges

variable {group : Text} {members : List Route} {branch : Branch}

theorem group_eq (arranged : Arranges group members branch) : branch.group = group := by
  cases arranged with
  | landing => rfl
  | rootless => rfl

theorem routes_perm (arranged : Arranges group members branch) :
    branch.routes.Perm members := by
  cases arranged with
  | landing => exact List.perm_middle.symm
  | rootless => exact List.Perm.refl _

end Arranges

end Branch

namespace NavigationPlan

theorem exists_branchOf? (group : Text) {members : List Route} (peopled : members ≠ []) :
    ∃ branch, branchOf? group members = some branch ∧ branch.Arranges group members := by
  cases members with
  | nil => exact absurd rfl peopled
  | cons first rest =>
      rw [branchOf?]
      split
      · rename_i root children extracted
        obtain ⟨lands, front, back, shape, rfl, before⟩ := extractFirst?_eq_some extracted
        rw [shape]
        exact ⟨_, rfl, .landing before lands⟩
      · rename_i absent
        exact ⟨_, rfl, .rootless (extractFirst?_eq_none_iff.mp absent)⟩

theorem mem_shellGroups_iff {routes : List Route} {group : Text} :
    group ∈ shellGroups routes ↔ group ≠ authGroup ∧ ∃ route ∈ routes, route.group = group := by
  rw [shellGroups, Text.mem_sort, mem_firsts_id_iff, List.mem_map]
  constructor
  · rintro ⟨route, member, rfl⟩
    obtain ⟨listed, shell⟩ := List.mem_filter.mp member
    exact ⟨by simpa [Route.isAuth] using shell, route, listed, rfl⟩
  · rintro ⟨shell, route, listed, rfl⟩
    exact ⟨route, List.mem_filter.mpr ⟨listed, by simpa [Route.isAuth] using shell⟩, rfl⟩

theorem branchesOf_arranges {groups : List Text} {routes : List Route}
    (peopled : ∀ group ∈ groups, routes.filter (·.group == group) ≠ []) :
    List.Forall₂ (fun group branch => branch.Arranges group (routes.filter (·.group == group)))
      groups (branchesOf groups routes) := by
  induction groups with
  | nil => exact .nil
  | cons group groups induction =>
      obtain ⟨first, others⟩ := List.forall_mem_cons.mp peopled
      obtain ⟨branch, built, arranged⟩ := exists_branchOf? group first
      rw [branchesOf, List.filterMap_cons, built]
      exact .cons arranged (induction others)

/-- Listing the members of distinct groups one group after the other lists every route of these
groups, as often as it stands in the table. -/
theorem flatMap_members_perm {groups : List Text} (distinct : groups.Nodup)
    (routes : List Route) :
    (groups.flatMap fun group => routes.filter (·.group == group)).Perm
      (routes.filter (·.group ∈ groups)) := by
  induction groups with
  | nil => simp
  | cons group groups induction =>
      obtain ⟨fresh, others⟩ := List.nodup_cons.mp distinct
      -- The first group has members of its own only because the later groups do not have it again.
      have inside : (routes.filter (·.group ∈ group :: groups)).filter (·.group == group) =
          routes.filter (·.group == group) := by
        rw [List.filter_filter]
        apply List.filter_congr
        intro route _
        by_cases same : route.group = group
        · simp [same]
        · simp [same]
      have outside : (routes.filter (·.group ∈ group :: groups)).filter (!·.group == group) =
          routes.filter (·.group ∈ groups) := by
        rw [List.filter_filter]
        apply List.filter_congr
        intro route _
        by_cases same : route.group = group
        · simp [same, fresh]
        · simp [same]
      have parts := List.filter_append_perm (·.group == group)
        (routes.filter (·.group ∈ group :: groups))
      rw [inside, outside] at parts
      rw [List.flatMap_cons]
      exact ((induction others).append_left _).trans parts

theorem branches_routes_perm {groups : List Text} {routes : List Route} {branches : List Branch}
    (arranged : List.Forall₂
      (fun group branch => branch.Arranges group (routes.filter (·.group == group)))
      groups branches) :
    (branches.flatMap Branch.routes).Perm
      (groups.flatMap fun group => routes.filter (·.group == group)) := by
  induction arranged with
  | nil => exact List.Perm.refl _
  | cons first _ induction =>
      rw [List.flatMap_cons, List.flatMap_cons]
      exact first.routes_perm.append induction

theorem branches_map_group {groups : List Text} {routes : List Route} {branches : List Branch}
    (arranged : List.Forall₂
      (fun group branch => branch.Arranges group (routes.filter (·.group == group)))
      groups branches) :
    branches.map Branch.group = groups := by
  induction arranged with
  | nil => rfl
  | cons first _ induction => rw [List.map_cons, first.group_eq, induction]

theorem members_ne_nil {routes : List Route} {group : Text} (shell : group ∈ shellGroups routes) :
    routes.filter (·.group == group) ≠ [] := by
  obtain ⟨-, route, listed, same⟩ := mem_shellGroups_iff.mp shell
  exact List.ne_nil_of_mem (List.mem_filter.mpr ⟨listed, beq_iff_eq.mpr same⟩)

theorem shellBranches_arrange (routes : List Route) :
    List.Forall₂ (fun group branch => branch.Arranges group (routes.filter (·.group == group)))
      (shellGroups routes) (branchesOf (shellGroups routes) routes) :=
  branchesOf_arranges fun _ => members_ne_nil

/-- Groups that turn up in order need no sorting. -/
theorem shellGroups_of_pairwise {routes : List Route} {groups : List Text}
    (listed : firsts id ((routes.filter (!·.isAuth)).map Route.group) = groups)
    (sorted : groups.Pairwise fun left right => Text.precedes left right = true) :
    shellGroups routes = groups := by
  rw [shellGroups, listed]
  exact Text.sort_of_pairwise sorted

/-- Every branch of the plan belongs to a group of the shell and holds its members. -/
theorem arranges_of_mem_branches {routes : List Route} {packageName : Text} {branch : Branch}
    (member : branch ∈ (ofRoutes routes packageName).branches) :
    branch.group ∈ shellGroups routes ∧
      branch.Arranges branch.group (routes.filter (·.group == branch.group)) := by
  -- The branch does not say for which group it was built, so it is built a second time.
  obtain ⟨group, shell, built⟩ := List.mem_filterMap.mp member
  obtain ⟨other, otherBuilt, arranged⟩ := exists_branchOf? group (members_ne_nil shell)
  obtain rfl : branch = other := Option.some.inj (built.symm.trans otherBuilt)
  rw [arranged.group_eq]
  exact ⟨shell, arranged⟩

theorem mem_of_mem_branch {routes : List Route} {packageName : Text} {branch : Branch}
    (member : branch ∈ (ofRoutes routes packageName).branches) {route : Route}
    (inside : route ∈ branch.routes) : route ∈ routes := by
  have arranged := (arranges_of_mem_branches member).2
  exact List.mem_of_mem_filter (arranged.routes_perm.mem_iff.mp inside)

/-- The plan divides the routes among its login routes and its branches. -/
structure Partitions (plan : NavigationPlan) (routes : List Route) : Prop where
  groups_increase : plan.groups.Pairwise (· < ·)
  mem_groups_iff : ∀ group, group ∈ plan.groups ↔
    group ≠ authGroup ∧ ∃ route ∈ routes, route.group = group
  /-- Every group has a member, so its branch has a root. -/
  built : ∀ group ∈ plan.groups,
    ∃ branch, branchOf? group (routes.filter (·.group == group)) = some branch
  branch_groups : plan.branches.map Branch.group = plan.groups
  auth_routes : plan.authRoutes = routes.filter (·.group == authGroup)
  arranged : ∀ branch ∈ plan.branches,
    branch.Arranges branch.group (routes.filter (·.group == branch.group))
  perm : (plan.authRoutes ++ plan.branches.flatMap Branch.routes).Perm routes

/-- No route is lost and none is doubled, also when several rows of the table are equal. -/
theorem ofRoutes_partitions (routes : List Route) (packageName : Text) :
    (ofRoutes routes packageName).Partitions routes := by
  have distinct : (shellGroups routes).Nodup :=
    (Text.sort_perm _).nodup_iff.mpr (firsts_id_nodup _)
  constructor
  · exact Text.sort_pairwise_lt (firsts_id_nodup _)
  · exact fun group => mem_shellGroups_iff
  · intro group shell
    obtain ⟨branch, built, -⟩ := exists_branchOf? group (members_ne_nil shell)
    exact ⟨branch, built⟩
  · exact branches_map_group (shellBranches_arrange routes)
  · rfl
  · exact fun branch member => (arranges_of_mem_branches member).2
  · have shell : routes.filter (·.group ∈ shellGroups routes) = routes.filter (!·.isAuth) := by
      apply List.filter_congr
      intro route listed
      by_cases auth : route.group = authGroup
      · simp [mem_shellGroups_iff, Route.isAuth, auth]
      · have known : route.group ∈ shellGroups routes :=
          mem_shellGroups_iff.mpr ⟨auth, route, listed, rfl⟩
        simp [known, Route.isAuth, auth]
    have members := (branches_routes_perm (shellBranches_arrange routes)).trans
      (flatMap_members_perm distinct routes)
    rw [shell] at members
    exact (members.append_left _).trans (List.filter_append_perm Route.isAuth routes)

end NavigationPlan

end DartRoutes
