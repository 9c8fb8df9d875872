import DartRoutes.Proofs.BranchPartition
import DartRoutes.Proofs.FirstOccurrence

/-!
# Order of the routes

Permuting the routes changes neither the groups of the shell nor the places of their branches, and
the lists of a plan keep their keys; which location a shared name gets may change. The branches and
the login routes are the same as long as no group has its own routes in another order, so routes of
different groups may be mixed freely.
-/

namespace DartRoutes

namespace NavigationPlan

theorem shellGroups_eq_of_perm {routes others : List Route} (permuted : routes.Perm others) :
    shellGroups routes = shellGroups others := by
  apply Text.sort_eq_of_perm (firsts_id_nodup _)
  exact firsts_id_perm ((permuted.filter _).map Route.group)

/-- The place of a group's branch in the shell. -/
def branchIndex? (plan : NavigationPlan) (group : Text) : Option Nat :=
  plan.branches.findIdx? (·.group == group)

theorem branchIndex?_ofRoutes (routes : List Route) (packageName group : Text) :
    (ofRoutes routes packageName).branchIndex? group =
      (shellGroups routes).findIdx? (· == group) := by
  rw [← branches_map_group (shellBranches_arrange routes), List.findIdx?_map]
  rfl

/-- The plans have the same groups at the same places, and the same keys in their lists. -/
structure SameUpToOrder (plan other : NavigationPlan) : Prop where
  groups : plan.groups = other.groups
  branchIndex : ∀ group, plan.branchIndex? group = other.branchIndex? group
  constantNames : (plan.routeConstants.map RouteConstant.name).Perm
    (other.routeConstants.map RouteConstant.name)
  quickNavKeys : (plan.quickNav.map QuickNavItem.key).Perm (other.quickNav.map QuickNavItem.key)
  pageImports : plan.pageImports.Perm other.pageImports

theorem sameUpToOrder_of_perm {routes others : List Route} (packageName : Text)
    (permuted : routes.Perm others) :
    (ofRoutes routes packageName).SameUpToOrder (ofRoutes others packageName) where
  groups := shellGroups_eq_of_perm permuted
  branchIndex group := by
    rw [branchIndex?_ofRoutes, branchIndex?_ofRoutes, shellGroups_eq_of_perm permuted]
  constantNames := map_firsts_perm ((permuted.filter _).map constantOf)
  quickNavKeys := map_firsts_perm ((permuted.filter opensQuickly).map quickItem)
  pageImports := firsts_id_perm ((permuted.filter _).map (pageImport packageName))

/-- Every group has its routes in the same order in both lists. -/
def Interleave (routes others : List Route) : Prop :=
  ∀ group, routes.filter (·.group == group) = others.filter (·.group == group)

theorem Interleave.swap {left right : Route} (apart : left.group ≠ right.group)
    (front back : List Route) :
    Interleave (front ++ left :: right :: back) (front ++ right :: left :: back) := by
  intro group
  rw [List.filter_append, List.filter_append]
  by_cases leftMember : left.group = group
  · have rightOther : right.group ≠ group := fun same => apart (leftMember.trans same.symm)
    simp [leftMember, rightOther]
  · simp [List.filter_cons, leftMember]

/-- The plans mount the same routes in the same places. -/
structure SameShell (plan other : NavigationPlan) : Prop where
  branches : plan.branches = other.branches
  branchOrder : plan.branchOrder = other.branchOrder
  authRoutes : plan.authRoutes = other.authRoutes

/-- Routes of different groups may be mixed in any way. -/
theorem ofRoutes_interleaved {routes others : List Route} (packageName : Text)
    (permuted : routes.Perm others) :
    (ofRoutes routes packageName).SameUpToOrder (ofRoutes others packageName) ∧
      (Interleave routes others →
        (ofRoutes routes packageName).SameShell (ofRoutes others packageName)) := by
  refine ⟨sameUpToOrder_of_perm packageName permuted, fun interleaved => ?_⟩
  have branches : (ofRoutes routes packageName).branches =
      (ofRoutes others packageName).branches := by
    show branchesOf (shellGroups routes) routes = branchesOf (shellGroups others) others
    rw [shellGroups_eq_of_perm permuted, branchesOf, branchesOf]
    simp only [interleaved _]
  exact ⟨branches, congrArg (List.map Branch.orderRef) branches, interleaved authGroup⟩

/-- Two groups have a page of the same name. Where their rows change places, the constant of this
name gets another location, and the shell stays as it is. -/
theorem ofRoutes_interleaved_detail :
    let shop : Route := ⟨"shop", "/detail", "DetailPage", false⟩
    let blog : Route := ⟨"blog", "/detail", "DetailPage", false⟩
    let plan := ofRoutes [shop, blog] "app"
    let other := ofRoutes [blog, shop] "app"
    [shop, blog].Perm [blog, shop] ∧ Interleave [shop, blog] [blog, shop] ∧
      plan.SameUpToOrder other ∧ plan.SameShell other ∧
      plan.routeConstants = [⟨"detail", "/shop/detail"⟩] ∧
      other.routeConstants = [⟨"detail", "/blog/detail"⟩] := by
  intro shop blog plan other
  have permuted : [shop, blog].Perm [blog, shop] := .swap blog shop []
  have interleaved : Interleave [shop, blog] [blog, shop] := .swap (by decide) [] []
  have same := ofRoutes_interleaved "app" permuted
  exact ⟨permuted, interleaved, same.1, same.2 interleaved, by decide, by decide⟩

end NavigationPlan

end DartRoutes
