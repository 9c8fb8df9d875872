import DartRoutes.Proofs.FeatureFiles
import DartRoutes.Proofs.ScaffoldRepair

/-!
# Views of their own

In a project without feature files, a run gives every page a view. Two pages of one group share a
view if their file stems are the same, and then only one of them finds its class in the file that
the router imports.
-/

namespace DartRoutes

open Effect FeatureReading

namespace FeatureReading

/-- Do the lines of a source require the field `params` of a constructor? -/
def RequiresParams (lines : List Text) : Prop :=
  ("this" : Text) ∈ behind "required" (words lines) ∧
    ("params" : Text) ∈ behind "this" (words lines)

end FeatureReading

namespace FeatureView

variable {view : FeatureView} (isName : IsName view.page) (isPage : ("Page" : Text) <:+ view.page)

include isPage

theorem behind_required_viewWords :
    behind "required" view.viewWords = if view.hasParams then ["this"] else [] := by
  obtain ⟨_, _, _, _, _, _, _, _, _⟩ := view.isForeign isPage "required" (by decide)
  rw [viewWords, constructorWords]
  split
  all_goals
    simp (disch := first | assumption | decide) only [List.flatten_cons, List.flatten_nil,
      List.cons_append, List.nil_append, behind_cons_self, behind_cons_of_ne]
    rfl

theorem behind_this_viewWords :
    behind "this" view.viewWords = if view.hasParams then ["params"] else [] := by
  obtain ⟨_, _, _, _, _, _, _, _, _⟩ := view.isForeign isPage "this" (by decide)
  rw [viewWords, constructorWords]
  split
  all_goals
    simp (disch := first | assumption | decide) only [List.flatten_cons, List.flatten_nil,
      List.cons_append, List.nil_append, behind_cons_self, behind_cons_of_ne]
    rfl

include isName

theorem requiresParams_viewLines :
    RequiresParams (Layer.view.lines view).1 ↔ view.hasParams = true := by
  rw [RequiresParams, words_viewLines (isWord_page isName isPage),
    behind_required_viewWords isPage, behind_this_viewWords isPage]
  cases view.hasParams with
  | true => decide
  | false => decide

variable (consists : view.Consists (· ≠ '\n'))

include consists

theorem declaredClasses_viewSource :
    declaredClasses (view.viewSource.splitOn '\n') = [view.page, view.widgetStateClass] :=
  (congrArg (behind "class") (words_splitOn_source consists .view)).trans
    (declaredClasses_viewLines isName isPage)

theorem requiresParams_viewSource :
    RequiresParams (view.viewSource.splitOn '\n') ↔ view.hasParams = true := by
  have same : words (view.viewSource.splitOn '\n') = _ := words_splitOn_source consists .view
  rw [RequiresParams, same]
  exact requiresParams_viewLines isName isPage

end FeatureView

/-- A feature page whose group and page are named by identifiers. -/
structure Route.IsWellNamed (route : Route) : Prop where
  isFeature : route.isFeature = true
  isGroup : IsGroup route.group
  isName : IsName route.page
  isPage : isPageName route.page = true

namespace Disk

/-- The file at a path declares the class of a page, and requires parameters exactly if the page is
shown with parameters. -/
def Serves (disk : Disk) (path : Path) (page : Text) (hasParams : Bool) : Prop :=
  ∃ source, disk.read path = .ok (Utf8.encode source) ∧
    page ∈ declaredClasses (source.splitOn '\n') ∧
      (RequiresParams (source.splitOn '\n') ↔ hasParams = true)

/-- The way to a path is free of files, and there is nothing below the path. -/
structure IsBare (disk : Disk) (path : Path) : Prop where
  hasDirectory : disk.HasDirectory
  passable : ∀ place, disk.Crosses path place → disk.tree.kindAt? place ≠ some false
  nothing : ∀ name rest, disk.tree.kindAt? (disk.placeOf path ++ name :: rest) = none

/-- The view of a page serves exactly the pages that have its name. -/
theorem serves_viewSource_iff {disk : Disk} {path : Path} {packageName : Text} {first : Route}
    (oneLine : '\n' ∉ packageName) (wellNamed : first.IsWellNamed)
    (found : disk.read path =
      .ok (Utf8.encode (FeatureView.ofRoute packageName first).viewSource))
    {page : Text} (isPage : isPageName page = true) (hasParams : Bool) :
    disk.Serves path page hasParams ↔ page = first.page ∧ hasParams = first.hasParams := by
  obtain ⟨_, isGroup, isName, isFirst⟩ := wellNamed
  have consists := consists_ofRoute packageName isGroup isName oneLine
  have ends : ("Page" : Text) <:+ (FeatureView.ofRoute packageName first).page :=
    List.isSuffixOf_iff_suffix.mp isFirst
  have classes := FeatureView.declaredClasses_viewSource isName ends consists
  have params := FeatureView.requiresParams_viewSource isName ends consists
  constructor
  · rintro ⟨source, isSource, declared, required⟩
    obtain rfl := Utf8.encode_injective (Except.ok.inj (isSource.symm.trans found))
    rw [classes] at declared
    refine ⟨?_, Bool.eq_iff_iff.mpr (required.symm.trans params)⟩
    rcases List.mem_pair.mp declared with same | isState
    · exact same
    · have suffix : ("Page" : Text) <:+ page := List.isSuffixOf_iff_suffix.mp isPage
      have noState : ¬ List.isSuffixOf "State" page = true :=
        not_isSuffixOf_of_ending suffix (by decide) (by decide)
      rw [isState] at noState
      exact absurd (List.isSuffixOf_iff_suffix.mpr (FeatureView.suffix_widgetStateClass _)) noState
  · rintro ⟨rfl, rfl⟩
    exact ⟨_, found, classes ▸ List.mem_cons_self, params⟩

end Disk

namespace Scaffold

variable {scaffold : Scaffold}

/-- Where a feature file needs directories, there is no file in a bare project. -/
theorem not_isFile_of_crosses {route : Route} (wellNamed : route.IsWellNamed)
    (descends : Disk.parentName ∉ scaffold.featuresDir.parts) {layer : Layer} {disk : Disk}
    (bare : disk.IsBare scaffold.featuresDir) {place : Place}
    (crosses : disk.Crosses (scaffold.path route layer).parent place) :
    disk.tree.kindAt? place ≠ some false := by
  obtain ⟨names, short, rfl⟩ := (layer.crosses_parent_iff scaffold.featuresDir wellNamed.isGroup
    wellNamed.isName descends disk).mp crosses
  have passable : ∀ {front : List Text}, front <+: scaffold.featuresDir.parts →
      disk.tree.kindAt? (disk.start scaffold.featuresDir ++ front) ≠ some false :=
    fun above => bare.passable _ ((Disk.crosses_iff_of_not_mem descends).mpr ⟨_, above, rfl⟩)
  rcases List.prefix_or_prefix_of_prefix short (List.prefix_append _ _) with above | ⟨rest, rfl⟩
  · exact passable above
  · cases rest with
    | nil => exact passable (List.append_nil _ ▸ List.prefix_rfl)
    | cons name rest =>
        have nothing := bare.nothing name rest
        rw [Disk.placeOf, Disk.foldl_enter_of_not_mem descends, List.append_assoc] at nothing
        rw [nothing]
        exact (Option.some_ne_none false).symm

/-- Where a feature file goes, there is nothing in a bare project. -/
theorem kindAt?_of_bare {route : Route} (wellNamed : route.IsWellNamed)
    (descends : Disk.parentName ∉ scaffold.featuresDir.parts) (layer : Layer) {disk : Disk}
    (bare : disk.IsBare scaffold.featuresDir) :
    disk.tree.kindAt? (disk.placeOf (scaffold.path route layer)) = none := by
  have nonempty : route.group.splitOn '/' ++ (layer.folder ++ [layer.fileName route]) ≠ [] := by
    simp
  obtain ⟨name, rest, below⟩ := List.exists_cons_of_ne_nil nonempty
  rw [path, layer.placeOf_path _ wellNamed.isGroup wellNamed.isName descends, below]
  exact bare.nothing name rest

section Runs

variable [Console]

section Bare

variable {routes : List Route} {before later : Workspace} {outcomes : List Outcome}
  {blocks : List (List Visit)}
  (settles : Settles scaffold routes before later outcomes blocks)
  (wellNamed : ∀ route ∈ routes, route.IsWellNamed)
  (writable : ∀ route ∈ routes, route.isFeature = true → scaffold.Writable route)
  (descends : Disk.parentName ∉ scaffold.featuresDir.parts)
  (bare : before.disk.IsBare scaffold.featuresDir)

include settles wellNamed descends bare

/-- In a bare project every file that a run looks at is a file afterwards. -/
theorem Settles.isFile_of_bare {outcome : Outcome} (member : outcome ∈ outcomes) :
    later.disk.pathExists outcome.path = .ok true ∧
      (later.disk.tree.contentAt? (later.disk.placeOf outcome.path)).isSome := by
  have apart : scaffold.Apart routes before.disk :=
    apart_of_isName descends (fun route member _ =>
      ⟨(wellNamed route member).isGroup, (wellNamed route member).isName⟩) _
  have makes := settles.makes outcome member
  obtain ⟨route, isRoute, _, layer, isPath⟩ := id makes
  have isWellNamed := wellNamed route isRoute
  have isThere : later.disk.pathExists outcome.path = .ok true := by
    rcases settles.settled outcome member with isThere | ⟨place, obstructs⟩
    · exact isThere
    · have crosses :=
        (Disk.crosses_of_directory_eq settles.grows.directory).mp obstructs.crosses
      have wasFile := settles.old_of_foreign (apart _ place makes crosses)
        (FileTree.isSome_contentAt?_iff.mpr obstructs.isFile)
      rw [isPath] at crosses
      exact absurd (FileTree.isSome_contentAt?_iff.mp wasFile)
        (not_isFile_of_crosses isWellNamed descends bare crosses)
  refine ⟨isThere, ?_⟩
  obtain ⟨place, kind, located, found⟩ := Disk.pathExists_eq_true_iff.mp isThere
  obtain rfl := Disk.locate_eq_placeOf located
  rw [FileTree.isSome_contentAt?_iff, found]
  cases kind with
  | false => rfl
  | true =>
      rw [Disk.placeOf_of_directory_eq settles.grows.directory] at found
      rcases settles.visited.crosses_of_new found with old | ⟨visit, inside, crosses⟩
      · rw [isPath, kindAt?_of_bare isWellNamed descends layer bare] at old
        cases old
      · have reported : visit.outcome ∈ outcomes := by
          rw [← settles.reports]
          exact List.mem_map_of_mem inside
        exact absurd rfl (apart _ _ (settles.makes _ reported) crosses outcome.path makes)

include writable

/-- In a bare project a run writes the view of each page for a page that shares the group and the
file stem. -/
theorem Settles.exists_view {route : Route} (member : route ∈ routes) :
    ∃ first ∈ routes, first.group = route.group ∧ first.fileStem = route.fileStem ∧
      later.disk.read (scaffold.path route .view) =
        .ok (Utf8.encode (scaffold.source first .view)) := by
  have isWellNamed := wellNamed route member
  obtain ⟨outcome, reported, isPath⟩ :=
    settles.exists_outcome member isWellNamed.isFeature (by decide : .view ∈ Layer.leading)
  obtain ⟨isThere, isFile⟩ := settles.isFile_of_bare wellNamed descends bare reported
  rw [isPath] at isThere isFile
  have neverMisled := neverMisled_of_descends settles.visited settles.covers
    fun route member _ layer => layer.not_mem_path scaffold.featuresDir
      (wellNamed route member).isGroup (wellNamed route member).isName descends
  have accurate := settles.visited.accurate_iff.mpr neverMisled
  rcases settles.old_or_created isFile with old | ⟨created, reported, isCreated, placed⟩
  · rw [FileTree.isSome_contentAt?_iff, Disk.placeOf_of_directory_eq settles.grows.directory,
      kindAt?_of_bare isWellNamed descends .view bare] at old
    cases old
  · rw [← settles.reports] at reported
    obtain ⟨visit, inside, rfl⟩ := List.mem_map.mp reported
    obtain ⟨content, encoded, written⟩ := accurate.holds visit inside isCreated
    obtain ⟨isRoute, isFeature⟩ := isFeature_of_mem_covers settles.covers inside
    obtain ⟨_, ensured⟩ := settles.visited.ensure_of_mem inside
    have visitPath := (ensure_eq_ok ensured).2.1
    have visitNamed := wellNamed visit.route isRoute
    rw [visitPath] at placed written
    obtain ⟨isView, sameGroup, sameFile⟩ := (visit.layer.placeOf_eq_iff scaffold.featuresDir .view
      visitNamed.isGroup visitNamed.isName isWellNamed.isGroup isWellNamed.isName descends _).mp
        placed
    rw [isView] at written encoded placed
    rw [(writable _ isRoute isFeature).encode?] at encoded
    cases encoded
    refine ⟨visit.route, isRoute, sameGroup, ?_, ?_⟩
    · rw [isView] at sameFile
      exact List.append_cancel_right sameFile
    · obtain ⟨place, _, located, _⟩ := Disk.pathExists_eq_true_iff.mp isThere
      obtain rfl := Disk.locate_eq_placeOf located
      refine Disk.read_eq_ok_iff.mpr ⟨_, located, ?_⟩
      rw [← placed, Disk.placeOf_of_directory_eq settles.grows.directory]
      exact written

/-- In a bare project all views serve their own pages exactly if pages that share a group and a file
stem are the same. -/
theorem Settles.serves_iff (oneLine : '\n' ∉ scaffold.packageName)
    (distinct : (routes.map fun route => (route.group, route.page)).Nodup) :
    (∀ route ∈ routes,
      later.disk.Serves (scaffold.path route .view) route.page route.hasParams) ↔
      ∀ route ∈ routes, ∀ other ∈ routes, route.group = other.group →
        route.fileStem = other.fileStem → route = other := by
  have unique : ∀ route ∈ routes, ∀ other ∈ routes, route.group = other.group →
      route.page = other.page → route = other := by
    intro route member other otherMember sameGroup samePage
    exact List.inj_on_of_nodup_map distinct member otherMember
      (Prod.ext sameGroup samePage)
  constructor
  · intro serves route member other otherMember sameGroup sameStem
    obtain ⟨first, firstMember, _, _, found⟩ :=
      settles.exists_view wellNamed writable descends bare member
    have samePath : scaffold.path other .view = scaffold.path route .view := by
      have isWellNamed := wellNamed route member
      have otherNamed := wellNamed other otherMember
      have sameFile : Layer.view.fileName other = Layer.view.fileName route :=
        congrArg (· ++ (".dart" : Text)) sameStem.symm
      rw [path, path, Layer.view.path_eq _ isWellNamed.isGroup isWellNamed.isName,
        Layer.view.path_eq _ otherNamed.isGroup otherNamed.isName, sameGroup, sameFile]
    have firstNamed := wellNamed first firstMember
    have served := (Disk.serves_viewSource_iff oneLine firstNamed found
      (wellNamed route member).isPage _).mp (serves route member)
    rw [← samePath] at found
    have otherServed := (Disk.serves_viewSource_iff oneLine firstNamed found
      (wellNamed other otherMember).isPage _).mp (serves other otherMember)
    exact unique route member other otherMember sameGroup (served.1.trans otherServed.1.symm)
  · intro injective route member
    obtain ⟨first, firstMember, sameGroup, sameStem, found⟩ :=
      settles.exists_view wellNamed writable descends bare member
    obtain rfl := injective first firstMember route member sameGroup sameStem
    exact (Disk.serves_viewSource_iff oneLine (wellNamed first member) found
      (wellNamed first member).isPage _).mpr ⟨rfl, rfl⟩

end Bare

/--
In a project without feature files a run gets to its end. The router imports the view of every page
and shows the class of the page, with parameters where the route has them. Exactly if pages that
share a group and a file stem are the same, each view declares the class of its own page and
requires parameters where the router gives them.
-/
theorem views_serve_iff (library : Path) {packageName : Text} {routes : List Route}
    {before : Workspace} (oneLine : '\n' ∉ packageName)
    (descends : Disk.parentName ∉ (library.child "features").parts)
    (wellNamed : ∀ route ∈ routes, route.IsWellNamed)
    (writable : ∀ route ∈ routes, route.isFeature = true →
      Writable ⟨library.child "features", packageName⟩ route)
    (distinct : (routes.map fun route => (route.group, route.page)).Nodup)
    (bare : before.disk.IsBare (library.child "features")) :
    let scaffold : Scaffold := ⟨library.child "features", packageName⟩
    ∃ outcomes later, scaffold.run routes before = .ok outcomes later ∧
      (∀ route ∈ routes,
        (∀ directory, ∃ uri ∈ (NavigationPlan.ofRoutes routes packageName).pageImports,
          ImportScope.file? ⟨packageName, library, directory⟩ uri =
            some (scaffold.path route .view)) ∧
        ∀ indent path rest,
          RouterReading.page indent RouterReading.shellForm
            (RouterView.pageLines indent (route.mountedAt path) ++ rest) =
              some ((route.page, route.hasParams), rest)) ∧
      ((∀ route ∈ routes,
        later.disk.Serves (scaffold.path route .view) route.page route.hasParams) ↔
          ∀ route ∈ routes, ∀ other ∈ routes, route.group = other.group →
            route.fileStem = other.fileStem → route = other) := by
  obtain ⟨outcomes, later, run⟩ :=
    exists_ok_of_confined (run_confined_of_writable writable) before
  obtain ⟨blocks, settles⟩ := run_settles writable bare.hasDirectory run
  refine ⟨outcomes, later, run, fun route member => ⟨?_, fun indent path rest => ?_⟩,
    settles.serves_iff wellNamed writable descends bare oneLine distinct⟩
  · exact exists_pageImport library packageName (wellNamed route member).isGroup
      (wellNamed route member).isName member
  · exact RouterReading.reads_page indent RouterReading.shellForm (route.mountedAt path) rest

end Runs

/-- The disk of a project without any file. -/
def blankDisk : Disk :=
  ⟨.empty, []⟩

theorem blankDisk_isBare (path : Path) : blankDisk.IsBare path where
  hasDirectory := rfl
  passable place _ := by
    cases place with
    | nil => exact nofun
    | cons name rest => exact nofun
  nothing name rest := by
    obtain ⟨head, below, place⟩ :=
      List.exists_cons_of_ne_nil (List.append_ne_nil_of_right_ne_nil (blankDisk.placeOf path)
        (List.cons_ne_nil name rest))
    rw [place]
    rfl

/-- A page with an acronym in its name. -/
def acronymRoute : Route :=
  ⟨"shop", "/", "QRPage", false⟩

/-- A page with the same word in its name, which is no acronym there. -/
def wordRoute : Route :=
  ⟨"shop", "/scan", "QrPage", true⟩

theorem isWellNamed_of_shop {path page : Text} {hasParams : Bool} (isName : IsName page)
    (isPage : isPageName page = true) : Route.IsWellNamed ⟨"shop", path, page, hasParams⟩ where
  isFeature := rfl
  isGroup :=
    (isGroup_of_isName (by decide) (List.all_eq_true.mp (by decide)) : IsGroup "shop")
  isName := isName
  isPage := isPage

theorem shopRoute_wellNamed : shopRoute.IsWellNamed :=
  isWellNamed_of_shop (List.all_eq_true.mp (by decide)) (by decide)

theorem acronymRoute_wellNamed : acronymRoute.IsWellNamed :=
  isWellNamed_of_shop (List.all_eq_true.mp (by decide)) (by decide)

theorem wordRoute_wellNamed : wordRoute.IsWellNamed :=
  isWellNamed_of_shop (List.all_eq_true.mp (by decide)) (by decide)

theorem acronymRoute_writable : ownScaffold.Writable acronymRoute :=
  writable_of_isUnmarked ⟨.ofList (by decide), .ofList (by decide), .ofList (by decide)⟩
    (by decide +kernel)

theorem wordRoute_writable : ownScaffold.Writable wordRoute :=
  writable_of_isUnmarked ⟨.ofList (by decide), .ofList (by decide), .ofList (by decide)⟩
    (by decide +kernel)

/-- Two pages of a shop with views of their own. -/
theorem views_serve_shop :
    ∃ outcomes later, ownScaffold.run [shopRoute, wordRoute] ⟨blankDisk, [], []⟩ =
        .ok outcomes later ∧
      ∀ route ∈ [shopRoute, wordRoute],
        later.disk.Serves (ownScaffold.path route .view) route.page route.hasParams := by
  have wellNamed : ∀ route ∈ [shopRoute, wordRoute], route.IsWellNamed :=
    List.forall_mem_cons.mpr ⟨shopRoute_wellNamed,
      List.forall_mem_singleton.mpr wordRoute_wellNamed⟩
  have writable : ∀ route ∈ [shopRoute, wordRoute], route.isFeature = true →
      ownScaffold.Writable route :=
    List.forall_mem_cons.mpr ⟨fun _ => shopRoute_writable,
      List.forall_mem_singleton.mpr fun _ => wordRoute_writable⟩
  obtain ⟨outcomes, later, run, _, serves⟩ := @views_serve_iff _ ⟨.relative, ["lib"]⟩ "app"
    [shopRoute, wordRoute] ⟨blankDisk, [], []⟩ (by decide) (by decide) wellNamed writable
    (by decide) (blankDisk_isBare _)
  have injective : ∀ route ∈ [shopRoute, wordRoute], ∀ other ∈ [shopRoute, wordRoute],
      route.group = other.group → route.fileStem = other.fileStem → route = other := by
    decide +kernel
  exact ⟨outcomes, later, run, serves.mpr injective⟩

/-- Two pages of one group whose names differ in the case of an acronym share a view, which declares
the class of one of them only. -/
theorem not_forall_views_serve :
    ¬ ∀ (scaffold : Scaffold) (routes : List Route) (before later : Workspace)
      (outcomes : List Outcome),
      (∀ route ∈ routes, route.IsWellNamed) →
      (routes.map fun route => (route.group, route.page)).Nodup →
      before.disk.IsBare scaffold.featuresDir →
      scaffold.run routes before = .ok outcomes later →
        ∀ route ∈ routes,
          later.disk.Serves (scaffold.path route .view) route.page route.hasParams := by
  intro claim
  have wellNamed : ∀ route ∈ [acronymRoute, wordRoute], route.IsWellNamed :=
    List.forall_mem_cons.mpr ⟨acronymRoute_wellNamed,
      List.forall_mem_singleton.mpr wordRoute_wellNamed⟩
  have writable : ∀ route ∈ [acronymRoute, wordRoute], route.isFeature = true →
      ownScaffold.Writable route :=
    List.forall_mem_cons.mpr ⟨fun _ => acronymRoute_writable,
      List.forall_mem_singleton.mpr fun _ => wordRoute_writable⟩
  have distinct : ([acronymRoute, wordRoute].map fun route => (route.group, route.page)).Nodup := by
    decide
  have bare : blankDisk.IsBare ownScaffold.featuresDir := blankDisk_isBare _
  obtain ⟨outcomes, later, run⟩ := exists_ok_of_confined (run_confined_of_writable writable)
    ⟨blankDisk, [], []⟩
  obtain ⟨blocks, settles⟩ := run_settles writable bare.hasDirectory run
  have serves := claim _ _ _ later outcomes wellNamed distinct bare run
  have injective := (settles.serves_iff wellNamed writable (by decide) bare (by decide) distinct).mp
    serves
  have shared : acronymRoute.fileStem = wordRoute.fileStem := by decide +kernel
  have same := injective acronymRoute List.mem_cons_self wordRoute
    (List.mem_cons_of_mem _ List.mem_cons_self) rfl shared
  exact absurd same (by decide)

end Scaffold

end DartRoutes
