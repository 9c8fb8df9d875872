import DartRoutes.Proofs.ReferenceClosure
import DartRoutes.Proofs.RouterReading

/-!
# Router sources read back

The decoder gives back what a router source was written from, for every view whose texts fit on one
line, and so for every list of routes with names for groups and pages. The branch order and the
branches of the source keep in step.
-/

namespace DartRoutes

/-- The path and the page of the route have no line feed. -/
structure MountedRoute.FitsLine (route : MountedRoute) : Prop where
  path : '\n' ∉ route.path
  page : '\n' ∉ route.page

namespace RouterView

/-- Every text of the view fits on its line, and no import and no name can be taken for something
else. -/
structure IsReadable (view : RouterView) : Prop where
  customImports : ∀ line ∈ view.customImports, ("import " : Text) <+: line ∧ '\n' ∉ line
  pageImports : ∀ uri ∈ view.pageImports, '\n' ∉ uri
  constants : ∀ constant ∈ view.constants,
    ' ' ∉ constant.1 ∧ '\n' ∉ constant.1 ∧ '\n' ∉ constant.2
  quickEntries : ∀ entry ∈ view.quickEntries, '\n' ∉ entry.expression
  branchRefs : ∀ reference ∈ view.branchRefs, '\n' ∉ reference
  fallbackPage : '\n' ∉ view.fallbackPage
  shellWidget : '\n' ∉ view.shellWidget
  authRoutes : ∀ route ∈ view.authRoutes, route.FitsLine
  branches : ∀ branch ∈ view.branches,
    branch.root.FitsLine ∧ ∀ child ∈ branch.children, child.FitsLine

/-- What the decoder shall find. -/
def reading (view : RouterView) : RouterReading where
  constants := view.constants
  quickEntries := view.quickEntries
  branchRefs := view.branchRefs
  authRoutes := view.authRoutes
  branches := view.branches

theorem fitsLine_ofList {characters : List Char} (checked : characters.contains '\n' = false) :
    '\n' ∉ (String.ofList characters).toList := by
  rw [String.toList_ofList]
  exact fun member => Bool.noConfusion (checked.symm.trans (List.contains_iff_mem.mpr member))

theorem fitsLine_fill {head tail : List Char} {content : Text}
    (headFits : head.contains '\n' = false) (fits : '\n' ∉ content)
    (tailFits : tail.contains '\n' = false) :
    '\n' ∉ (String.ofList head).toList ++ content ++ (String.ofList tail).toList :=
  List.not_mem_append (List.not_mem_append (fitsLine_ofList headFits) fits)
    (fitsLine_ofList tailFits)

theorem fit_nil : ∀ line ∈ ([] : List Text), '\n' ∉ line :=
  List.forall_mem_nil _

theorem fit_cons {characters : List Char} {lines : List Text}
    (checked : characters.contains '\n' = false) (fit : ∀ line ∈ lines, '\n' ∉ line) :
    ∀ line ∈ (String.ofList characters).toList :: lines, '\n' ∉ line :=
  List.forall_mem_cons.mpr ⟨fitsLine_ofList checked, fit⟩

theorem dartLiteral_fitsLine {content : Text} (fits : '\n' ∉ content) :
    '\n' ∉ dartLiteral content := by
  intro member
  rw [dartLiteral, List.cons_append, List.mem_cons, List.mem_append] at member
  rcases member with quote | written | quote
  · exact absurd quote (by decide)
  · obtain ⟨character, inside, shown⟩ := List.mem_flatMap.mp written
    rw [literalCharacter] at shown
    split at shown
    · rcases List.mem_cons.mp shown with backslash | same
      · exact absurd backslash (by decide)
      · exact fits (List.mem_singleton.mp same ▸ inside)
    · exact fits (List.mem_singleton.mp shown ▸ inside)
  · exact absurd quote (by decide)

theorem goRouteLines_fit {indent : Text} (form : PageForm) {route : MountedRoute}
    (indented : '\n' ∉ indent) (fits : route.FitsLine) :
    ∀ line ∈ RouterReading.goRouteLines indent form route, '\n' ∉ line := by
  have path := dartLiteral_fitsLine fits.path
  have plain := form.fitsLine
  simp only [List.forall_mem_cons] at plain
  rw [RouterReading.goRouteLines, RouterReading.pageLines]
  cases route.hasParams with
  | true => simp [indented, plain, path, fits.page]
  | false => simp [indented, plain, path, fits.page]

theorem authLines_fit {route : MountedRoute} (fits : route.FitsLine) :
    ∀ line ∈ authLines route, '\n' ∉ line := by
  rw [RouterReading.authLines_eq]
  exact List.forall_mem_append.mpr
    ⟨goRouteLines_fit _ (fitsLine_ofList rfl) fits, fit_cons rfl fit_nil⟩

theorem childLines_fit {route : MountedRoute} (fits : route.FitsLine) :
    ∀ line ∈ childLines route, '\n' ∉ line := by
  rw [RouterReading.childLines_eq]
  exact List.forall_mem_append.mpr
    ⟨goRouteLines_fit _ (fitsLine_ofList rfl) fits, fit_cons rfl fit_nil⟩

theorem childrenLines_fit {children : List MountedRoute}
    (fit : ∀ child ∈ children, child.FitsLine) :
    ∀ line ∈ RouterReading.childrenLines children, '\n' ∉ line := by
  rw [RouterReading.childrenLines]
  split
  · exact fit_cons rfl fit_nil
  · refine fit_cons rfl (List.forall_mem_append.mpr ⟨?_, fit_cons rfl (fit_cons rfl fit_nil)⟩)
    exact List.forall_mem_flatMap.mpr fun child listed => childLines_fit (fit child listed)

theorem branchLines_fit {branch : MountedBranch} (root : branch.root.FitsLine)
    (children : ∀ child ∈ branch.children, child.FitsLine) :
    ∀ line ∈ branchLines branch, '\n' ∉ line := by
  rw [RouterReading.branchLines_eq]
  simp only [List.forall_mem_append]
  exact ⟨fit_cons rfl (fit_cons rfl (fit_cons rfl fit_nil)),
    goRouteLines_fit _ (fitsLine_ofList rfl) root, childrenLines_fit children,
    fit_cons rfl (fit_cons rfl fit_nil)⟩

variable {view : RouterView}

theorem importLines_fit (readable : view.IsReadable) :
    ∀ line ∈ view.importLines, '\n' ∉ line := by
  simp only [importLines, List.flatten_cons, List.flatten_nil, List.append_nil,
    List.forall_mem_append, List.forall_mem_map]
  refine ⟨?_, fun line member => (readable.customImports line member).2, ?_, ?_⟩
  · repeat refine fit_cons rfl ?_
    exact fit_nil
  · exact fun uri listed => fitsLine_fill rfl (readable.pageImports uri listed) rfl
  · exact fit_cons rfl (fit_cons rfl (fit_cons rfl fit_nil))

theorem constantLines_fit (readable : view.IsReadable) :
    ∀ line ∈ view.constantLines, '\n' ∉ line := by
  simp only [constantLines, List.flatten_cons, List.flatten_nil, List.append_nil,
    List.forall_mem_append, List.forall_mem_map]
  refine ⟨fit_cons rfl fit_nil, ?_, fit_cons rfl (fit_cons rfl fit_nil)⟩
  rintro ⟨name, path⟩ listed
  obtain ⟨-, nameFits, pathFits⟩ := readable.constants _ listed
  have named : '\n' ∉ ("  static const String " ++ name ++ " = " : Text) :=
    fitsLine_fill rfl nameFits rfl
  have valued := List.not_mem_append named (dartLiteral_fitsLine pathFits)
  exact List.not_mem_append valued (fitsLine_ofList rfl)

theorem quickLines_fit (readable : view.IsReadable) :
    ∀ line ∈ view.quickLines, '\n' ∉ line := by
  simp only [quickLines, List.flatten_cons, List.flatten_nil, List.append_nil,
    List.forall_mem_append, List.forall_mem_map]
  refine ⟨fit_cons rfl (fit_cons rfl (fit_cons rfl fit_nil)), ?_,
    fit_cons rfl (fit_cons rfl (fit_cons rfl fit_nil))⟩
  intro entry listed
  rw [quickLine_eq]
  exact fitsLine_fill rfl (readable.quickEntries entry listed) rfl

theorem branchOrderLines_fit (readable : view.IsReadable) :
    ∀ line ∈ view.branchOrderLines, '\n' ∉ line := by
  simp only [branchOrderLines, List.flatten_cons, List.flatten_nil, List.append_nil,
    List.forall_mem_append, List.forall_mem_map]
  refine ⟨fit_cons rfl (List.forall_mem_cons.mpr ⟨?_, ?_⟩), ?_, ?_⟩
  · exact fitsLine_fill rfl readable.shellWidget rfl
  · exact fit_cons rfl (fit_cons rfl fit_nil)
  · exact fun reference listed => fitsLine_fill rfl (readable.branchRefs reference listed) rfl
  · exact fit_cons rfl (fit_cons rfl (fit_cons rfl fit_nil))

theorem gateLines_fit (readable : view.IsReadable) :
    ∀ line ∈ view.gateLines, '\n' ∉ line := by
  rw [gateLines]
  repeat refine fit_cons rfl ?_
  refine List.forall_mem_cons.mpr ⟨?_, fit_cons rfl fit_nil⟩
  exact fitsLine_fill rfl readable.fallbackPage rfl

theorem shellLines_fit (readable : view.IsReadable) :
    ∀ line ∈ view.shellLines, '\n' ∉ line := by
  simp only [shellLines, List.flatten_cons, List.flatten_nil, List.append_nil,
    List.forall_mem_append, List.forall_mem_flatMap]
  refine ⟨fit_cons rfl (List.forall_mem_cons.mpr ⟨?_, fit_cons rfl fit_nil⟩), ?_, ?_⟩
  · exact fitsLine_fill rfl readable.shellWidget rfl
  · intro branch listed
    obtain ⟨root, children⟩ := readable.branches branch listed
    exact branchLines_fit root children
  · repeat refine fit_cons rfl ?_
    exact fit_nil

theorem lines_fit (readable : view.IsReadable) : ∀ line ∈ view.lines, '\n' ∉ line := by
  have routes : ∀ line ∈ view.authRoutes.flatMap authLines, '\n' ∉ line :=
    List.forall_mem_flatMap.mpr fun route listed =>
      authLines_fit (readable.authRoutes route listed)
  simp only [lines, List.forall_mem_append]
  exact ⟨⟨⟨⟨⟨⟨importLines_fit readable, constantLines_fit readable⟩, quickLines_fit readable⟩,
    branchOrderLines_fit readable⟩, gateLines_fit readable⟩, routes⟩, shellLines_fit readable⟩

open LineReader

/-- A line is none of the lines that start in other ways. -/
theorem not_mem_of_starts {opening : Text} {lines : List Text} (length : Nat)
    (starts : ∀ line ∈ lines, line.take length ≠ opening.take length) : opening ∉ lines :=
  fun member => starts opening member rfl

theorem classOpening_not_mem_importLines (readable : view.IsReadable) :
    ("class RouteNames \x7b" : Text) ∉ view.importLines := by
  apply not_mem_of_starts 1
  simp only [importLines, List.flatten_cons, List.flatten_nil, List.append_nil,
    List.forall_mem_append, List.forall_mem_map]
  refine ⟨by decide, ?_, ?_, by decide⟩
  · intro line listed same
    obtain ⟨rest, rfl⟩ := (readable.customImports line listed).1
    cases same
  · intro uri _ same
    cases same

theorem reads_constants (readable : view.IsReadable) :
    Reads (itemsUntil "\x7d" (line RouterReading.constant?))
      (view.constants.map constantLine ++ [("\x7d" : Text)]) view.constants := by
  rw [List.map_eq_flatMap]
  apply Reads.itemsUntil
  · rintro ⟨name, path⟩ listed
    exact .line (RouterReading.constant?_constantLine (readable.constants _ listed).1 path)
  · rintro ⟨name, path⟩ -
    exact ⟨_, _, rfl, nofun⟩

theorem reads_quickEntries (entries : List QuickEntry) :
    Reads (itemsUntil "  ];" (line RouterReading.quickReference?))
      (entries.map quickLine ++ [("  ];" : Text)]) entries := by
  rw [List.map_eq_flatMap]
  apply Reads.itemsUntil
  · intro entry _
    exact .line (RouterReading.quickReference?_quickLine entry)
  · intro entry _
    rw [quickLine_eq]
    exact ⟨_, _, rfl, nofun⟩

theorem reads_branchRefs (references : List Text) :
    Reads (itemsUntil "  ];" (line (Text.between? "    " ",")))
      (references.map (fun reference : Text => "    " ++ reference ++ ",") ++ [("  ];" : Text)])
      references := by
  rw [List.map_eq_flatMap]
  apply Reads.itemsUntil
  · intro reference _
    exact .line (Text.between?_append _ _ _)
  · intro reference _
    exact ⟨_, _, rfl, nofun⟩

theorem reads_authRoutes (routes : List MountedRoute) :
    Reads (itemsUntil "    StatefulShellRoute.indexedStack(" RouterReading.loginRoute)
      (routes.flatMap authLines ++ [("    StatefulShellRoute.indexedStack(" : Text)]) routes := by
  apply Reads.itemsUntil
  · exact fun route _ => RouterReading.reads_loginRoute route
  · exact fun route _ => ⟨_, _, RouterReading.authLines_eq route, by decide⟩

theorem reads_branches (branches : List MountedBranch) :
    Reads (itemsUntil "      ]," RouterReading.branch)
      (branches.flatMap branchLines ++ [("      ]," : Text)]) branches := by
  apply Reads.itemsUntil
  · exact fun branch _ => RouterReading.reads_branch branch
  · exact fun branch _ => ⟨_, _, RouterReading.branchLines_eq branch, by decide⟩

theorem not_mem_of_all {opening : Text} {lines : List Text} (length : Nat)
    (starts : lines.all (fun line => line.take length != opening.take length) = true) :
    opening ∉ lines :=
  not_mem_of_starts length fun line member =>
    bne_iff_ne.mp (List.all_eq_true.mp starts line member)

theorem exists_reads (readable : view.IsReadable) :
    ∃ taken rest, taken ++ rest = view.lines ∧
      Reads RouterReading.ofLines? taken view.reading := by
  have gate : view.gateLines = view.gateLines.dropLast ++ [("  routes: [" : Text)] := rfl
  have toConstants := Reads.skipPast (classOpening_not_mem_importLines readable)
  have toQuickEntries := @Reads.skipPast "  static const List<String> routes = ["
    ["", "/// Routes that can be opened without parameters (quick navigation menu).",
      "class RouteNoParamList \x7b"] (by decide)
  have toBranchRefs := @Reads.skipPast "  static const List<String> branchRootPaths = ["
    ["\x7d", "", "/// Branch root paths, in the same order as the StatefulShellRoute branches.",
      "/// Used by " ++ view.shellWidget ++ " to map a location to its navigation index.",
      "class RouterBranchPaths \x7b"] (not_mem_of_all 1 rfl)
  have toAuthRoutes := @Reads.skipPast "  routes: ["
    ("\x7d" :: "" :: view.gateLines.dropLast) (not_mem_of_all 4 rfl)
  have toBranches := @Reads.skipPast "      branches: ["
    ["      builder: (context, state, shell) => " ++ view.shellWidget
      ++ "(navigationShell: shell),"] (not_mem_of_all 8 rfl)
  refine ⟨_, ["    ),", "  ],", ");"], ?_, toConstants.bind ((reads_constants readable).bind
    (toQuickEntries.bind ((reads_quickEntries _).bind (toBranchRefs.bind
      ((reads_branchRefs _).bind (toAuthRoutes.bind ((reads_authRoutes _).bind
        (toBranches.bind ((reads_branches _).bind (.pure _))))))))))⟩
  rw [lines, gate]
  simp only [constantLines, quickLines, branchOrderLines, shellLines, List.flatten_cons,
    List.flatten_nil, List.append_assoc, List.cons_append, List.nil_append, List.append_nil,
    List.dropLast_concat]

/-- The decoder gives back the view that a source was written from. -/
theorem ofSource?_source (readable : view.IsReadable) :
    RouterReading.ofSource? view.source = some view.reading := by
  obtain ⟨taken, rest, joined, reads⟩ := exists_reads readable
  have split : view.source.splitOn '\n' = taken ++ (rest ++ [[]]) := by
    rw [source, Text.splitOn_ofLines (lines_fit readable), ← joined, List.append_assoc]
  rw [RouterReading.ofSource?, split, reads]
  rfl

end RouterView

/-- The custom imports are single lines, and the widgets have names. -/
structure BuilderOptions.IsReadable (options : BuilderOptions) : Prop where
  customImports : ∀ line ∈ options.customImports, ("import " : Text) <+: line ∧ '\n' ∉ line
  fallbackPage : IsName options.fallbackPage
  shellWidget : IsName options.shellWidget

namespace Route

variable {route : Route}

theorem childPath_fitsLine (fits : '\n' ∉ route.path) : '\n' ∉ route.childPath := by
  rw [childPath]
  split
  · rename_i rest written
    exact fun member => fits (written ▸ List.mem_cons_of_mem _ member)
  · exact fits

theorem fullPath_fitsLine (group : IsName route.group) (fits : '\n' ∉ route.path) :
    '\n' ∉ route.fullPath := by
  have located : '\n' ∉ ("/" ++ route.group : Text) :=
    List.not_mem_append (by decide) (group.not_mem rfl)
  rw [fullPath]
  split
  · exact located
  · have slash : '\n' ∉ ("/" ++ route.group ++ "/" : Text) :=
      List.not_mem_append located (by decide)
    exact List.not_mem_append slash (childPath_fitsLine fits)

end Route

theorem Branch.path_fitsLine {branch : Branch} (group : IsName branch.group) :
    '\n' ∉ branch.path := by
  rw [path]
  split
  · decide
  · exact List.not_mem_append (by decide) (group.not_mem rfl)

namespace NavigationPlan

variable {routes : List Route} {packageName : Text} {options : BuilderOptions}

theorem pageImport_fitsLine (names : HasNames routes) (package : IsName packageName)
    {route : Route} (listed : route ∈ routes) : '\n' ∉ pageImport packageName route := by
  obtain ⟨group, page⟩ := names route listed
  have stem : IsName route.fileStem :=
    caseClosed_isNamePart.layerStem page (List.all_eq_true.mp (by decide))
  have library : '\n' ∉ ("package:" ++ packageName ++ "/features/" : Text) :=
    List.not_mem_append (List.not_mem_append (by decide) (package.not_mem rfl)) (by decide)
  have folder : '\n' ∉ ("package:" ++ packageName ++ "/features/" ++ route.group ++ "/" : Text) :=
    List.not_mem_append (List.not_mem_append library (group.not_mem rfl)) (by decide)
  exact List.not_mem_append (List.not_mem_append folder (stem.not_mem rfl)) (by decide)

theorem isReadable_view (names : HasNames routes) (paths : ∀ route ∈ routes, '\n' ∉ route.path)
    (package : IsName packageName) (readable : options.IsReadable) :
    ((ofRoutes routes packageName).view options).IsReadable where
  customImports := readable.customImports
  pageImports := by
    intro uri member
    obtain ⟨route, selected, rfl⟩ := List.mem_map.mp (mem_of_mem_firsts member)
    exact pageImport_fitsLine names package (List.mem_of_mem_filter selected)
  constants := by
    intro constant member
    obtain ⟨declared, kept, rfl⟩ := List.mem_map.mp member
    obtain ⟨route, selected, rfl⟩ := List.mem_map.mp (mem_of_mem_firsts kept)
    have listed := List.mem_of_mem_filter selected
    have name := isName_name names listed
    exact ⟨name.not_mem rfl, name.not_mem rfl,
      Route.fullPath_fitsLine (names route listed).1 (paths route listed)⟩
  quickEntries := by
    intro entry member
    obtain ⟨item, kept, rfl⟩ := List.mem_map.mp member
    obtain ⟨route, selected, rfl⟩ := List.mem_map.mp (mem_of_mem_firsts kept)
    have listed := List.mem_of_mem_filter selected
    rw [QuickNavItem.entry]
    split
    · exact RouterView.dartLiteral_fitsLine
        (Route.fullPath_fitsLine (names route listed).1 (paths route listed))
    · exact List.not_mem_append (by decide) ((isName_name names listed).not_mem rfl)
  branchRefs := by
    intro reference member
    rcases branchOrder_cases member with rfl | ⟨group, shell, -, rfl⟩
    · decide
    · obtain ⟨-, route, listed, rfl⟩ := mem_shellGroups_iff.mp shell
      exact List.not_mem_append (by decide) ((names route listed).1.not_mem rfl)
  fallbackPage := readable.fallbackPage.not_mem rfl
  shellWidget := readable.shellWidget.not_mem rfl
  authRoutes := by
    intro mounted member
    obtain ⟨route, selected, rfl⟩ := List.mem_map.mp member
    have listed := List.mem_of_mem_filter selected
    obtain ⟨group, page⟩ := names route listed
    exact ⟨Route.fullPath_fitsLine group (paths route listed), page.not_mem rfl⟩
  branches := by
    intro mounted member
    obtain ⟨branch, branchMember, rfl⟩ := List.mem_map.mp member
    have inside {route : Route} (belongs : route ∈ branch.routes) : route ∈ routes :=
      mem_of_mem_branch branchMember belongs
    refine ⟨⟨?_, ?_⟩, ?_⟩
    · obtain ⟨-, route, listed, same⟩ :=
        mem_shellGroups_iff.mp (arranges_of_mem_branches branchMember).1
      exact Branch.path_fitsLine (same ▸ (names route listed).1)
    · exact (names branch.root (inside List.mem_cons_self)).2.not_mem rfl
    · intro child childMember
      obtain ⟨route, belongs, rfl⟩ := List.mem_map.mp childMember
      have listed := inside (List.mem_cons_of_mem _ belongs)
      exact ⟨Route.childPath_fitsLine (paths route listed), (names route listed).2.not_mem rfl⟩

/-- What the source of a plan says. -/
def reading (plan : NavigationPlan) : RouterReading where
  constants := plan.routeConstants.map fun constant => (constant.name, constant.path)
  quickEntries := plan.quickNav.map QuickNavItem.entry
  branchRefs := plan.branchOrder
  authRoutes := plan.authRoutes.map fun route => ⟨route.fullPath, route.page, route.hasParams⟩
  branches := plan.branches.map fun branch =>
    ⟨⟨branch.path, branch.root.page, branch.root.hasParams⟩,
      branch.children.map fun child => ⟨child.childPath, child.page, child.hasParams⟩⟩

/-- A line of the branch order and a branch of the shell that belong to the same group. -/
structure InStep (routes : List Route) (group reference : Text) (mounted : MountedBranch) :
    Prop where
  reference_eq : reference = if group.isEmpty then ("'/'" : Text) else "RouteNames." ++ group
  location_eq : mounted.root.path = if group.isEmpty then ("/" : Text) else "/" ++ group
  members : ∃ branch : Branch,
    branch.Arranges group (routes.filter (·.group == group)) ∧ mounted = branch.mounted

theorem inStep_of_mem_branches {branch : Branch}
    (member : branch ∈ (ofRoutes routes packageName).branches) :
    InStep routes branch.group branch.orderRef branch.mounted where
  reference_eq := rfl
  location_eq := rfl
  members := ⟨branch, (arranges_of_mem_branches member).2, rfl⟩

/-- The branch order and the branches list the groups of the shell in the same order. -/
theorem reading_inStep {index : Nat} {reference : Text} {mounted : MountedBranch}
    (order : (ofRoutes routes packageName).reading.branchRefs[index]? = some reference)
    (shell : (ofRoutes routes packageName).reading.branches[index]? = some mounted) :
    ∃ group, (ofRoutes routes packageName).groups[index]? = some group ∧
      InStep routes group reference mounted := by
  have groups : (ofRoutes routes packageName).groups =
      (ofRoutes routes packageName).branches.map Branch.group :=
    (branches_map_group (shellBranches_arrange routes)).symm
  rw [reading, List.getElem?_map] at shell
  rw [reading, branchOrder, List.getElem?_map] at order
  obtain ⟨branch, found, rfl⟩ := Option.map_eq_some_iff.mp shell
  rw [found, Option.map_some, Option.some_inj] at order
  subst order
  refine ⟨branch.group, ?_, inStep_of_mem_branches (List.mem_of_getElem? found)⟩
  rw [groups, List.getElem?_map, found, Option.map_some]

/-- The source of a list of routes can be read back, whatever the paths hold. The lines of its
branch order and its branches belong to the same groups. -/
theorem ofSource?_navigationSource (names : HasNames routes)
    (paths : ∀ route ∈ routes, '\n' ∉ route.path) (package : IsName packageName)
    (readable : options.IsReadable) :
    let plan := ofRoutes routes packageName
    RouterReading.ofSource? (navigationSource routes options packageName) = some plan.reading ∧
      plan.reading.branchRefs.length = plan.reading.branches.length ∧
        ∀ (index : Nat) (reference : Text) (mounted : MountedBranch),
          plan.reading.branchRefs[index]? = some reference →
          plan.reading.branches[index]? = some mounted →
            ∃ group, plan.groups[index]? = some group ∧
              InStep routes group reference mounted := by
  intro plan
  refine ⟨?_, ?_, fun index reference mounted => reading_inStep⟩
  · exact RouterView.ofSource?_source (isReadable_view names paths package readable)
  · rw [reading, branchOrder, List.length_map, List.length_map]

/-- A path may look like the end of a list, and a route may have no name. -/
theorem ofSource?_navigationSource_shop :
    let routes : List Route := [⟨"auth", "/", "LoginPage", true⟩, ⟨"", "/", "HomePage", false⟩,
      ⟨"shop", "/", "ShopPage", true⟩, ⟨"shop", "/it's\\',  ],", "Page", false⟩,
      ⟨"shop", "class RouteNames \x7b", "CartPage", true⟩]
    let options : BuilderOptions :=
      { BuilderOptions.default with customImports := ["import 'class RouteNames.dart';"] }
    HasNames routes ∧ (∀ route ∈ routes, '\n' ∉ route.path) ∧ IsName "demo" ∧
      options.IsReadable ∧ ∃ reading,
        RouterReading.ofSource? (navigationSource routes options "demo") = some reading ∧
          reading.constants = ([("auth", "/auth"), ("shop", "/shop"),
            ("cart", "/shop/class RouteNames \x7b")] : List (Text × Text)) ∧
          reading.quickEntries = [.location "/shop/it's\\',  ],"] ∧
          reading.branchRefs = ["'/'", "RouteNames.shop"] ∧
          reading.authRoutes = [⟨"/auth", "LoginPage", true⟩] ∧
          reading.branches = [⟨⟨"/", "HomePage", false⟩, []⟩, ⟨⟨"/shop", "ShopPage", true⟩,
            [⟨"it's\\',  ],", "Page", false⟩, ⟨"class RouteNames \x7b", "CartPage", true⟩]⟩] := by
  intro routes options
  have names : HasNames routes := by decide
  have paths : ∀ route ∈ routes, '\n' ∉ route.path := by decide
  have package : IsName "demo" := by decide
  have readable : options.IsReadable := ⟨by decide, by decide, by decide⟩
  have groups : shellGroups routes = [[], "shop"] :=
    shellGroups_of_pairwise (by decide) (by decide)
  have read := (ofSource?_navigationSource names paths package readable).1
  refine ⟨names, paths, package, readable, _, read, ?_, ?_, ?_, ?_, ?_⟩
  · decide
  · decide
  · rw [reading, branchOrder, ofRoutes, groups]
    decide
  · decide
  · rw [reading, ofRoutes, groups]
    decide

end NavigationPlan

end DartRoutes
