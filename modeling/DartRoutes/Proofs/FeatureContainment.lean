import DartRoutes.Proofs.FeaturePath
import DartRoutes.Proofs.ScaffoldReport
import DartRoutes.Route.Table

/-!
# Where feature files are created

A scaffolding run creates files at the paths of feature pages only. Such a path is made of texts
that a route gives: the group and the page. It ends below the directory of the features exactly if
these texts lead there, which they do not have to: they may go up, or start at a root.
-/

namespace DartRoutes

/-- The way that names lead from a place: some steps up, and then down. -/
structure Way where
  ups : Nat
  downs : List Text

namespace Way

/-- The way with one more name behind it. -/
def enter (way : Way) (name : Text) : Way :=
  if name = Disk.parentName then
    match way.downs with
    | [] => ⟨way.ups + 1, []⟩
    | _ :: _ => ⟨way.ups, way.downs.dropLast⟩
  else ⟨way.ups, way.downs ++ [name]⟩

def ofNames (names : List Text) : Way :=
  names.foldl enter ⟨0, []⟩

/-- The place at which the way ends; nothing lies above the root. -/
def endFrom (way : Way) (place : Place) : Place :=
  place.take (place.length - way.ups) ++ way.downs

theorem endFrom_enter (way : Way) (name : Text) (place : Place) :
    (way.enter name).endFrom place = Disk.enter (way.endFrom place) name := by
  obtain ⟨ups, downs⟩ := way
  by_cases isParent : name = Disk.parentName
  · rw [enter, if_pos isParent, Disk.enter, if_pos isParent]
    cases downs with
    | nil =>
        -- One step more is cut off the place itself; at the root both sides stay empty.
        simp only [endFrom, List.append_nil, List.dropLast_eq_take, List.length_take,
          List.take_take]
        congr 1
        omega
    | cons first downs =>
        simp only [endFrom]
        rw [List.dropLast_append_of_ne_nil (List.cons_ne_nil first downs)]
  · rw [enter, if_neg isParent, Disk.enter, if_neg isParent, endFrom, endFrom, List.append_assoc]

theorem endFrom_nil (way : Way) : way.endFrom [] = way.downs := by
  rw [endFrom, List.take_nil, List.nil_append]

theorem endFrom_ofNames (names : List Text) (place : Place) :
    (ofNames names).endFrom place = names.foldl Disk.enter place := by
  have follows : ∀ way : Way, (names.foldl enter way).endFrom place =
      names.foldl Disk.enter (way.endFrom place) := by
    induction names with
    | nil => exact fun _ => rfl
    | cons name names induction =>
        intro way
        rw [List.foldl_cons, List.foldl_cons, induction, endFrom_enter]
  have start : (⟨0, []⟩ : Way).endFrom place = place := by simp [endFrom]
  rw [ofNames, follows, start]

theorem ofNames_of_not_mem {names : List Text} (descends : Disk.parentName ∉ names) :
    ofNames names = ⟨0, names⟩ := by
  have follows : ∀ downs, names.foldl enter ⟨0, downs⟩ = ⟨0, downs ++ names⟩ := by
    induction names with
    | nil => simp
    | cons name names induction =>
        intro downs
        have isName : name ≠ Disk.parentName := fun same => descends (same ▸ List.mem_cons_self)
        have below : Disk.parentName ∉ names :=
          fun member => descends (List.mem_cons_of_mem name member)
        rw [List.foldl_cons, enter, if_neg isName, induction below, List.append_assoc]
        rfl
  exact follows []

theorem downs_ofNames_concat {front : List Text} {name : Text} (isName : name ≠ Disk.parentName) :
    (ofNames (front ++ [name])).downs = (ofNames front).downs ++ [name] := by
  rw [ofNames, List.foldl_append, List.foldl_cons, List.foldl_nil, enter, if_neg isName, ofNames]

end Way

/-- A place lies below another one, and is not this place itself. -/
def LiesBelow (home place : Place) : Prop :=
  ∃ rest, rest ≠ [] ∧ place = home ++ rest

/-- A way from a place ends below it exactly if it comes back through the directories that it has
left. -/
theorem Way.liesBelow_endFrom_iff {way : Way} {home : Place} :
    LiesBelow home (way.endFrom home) ↔
      ∃ rest, rest ≠ [] ∧ way.downs = home.drop (home.length - way.ups) ++ rest := by
  refine exists_congr fun rest => and_congr_right fun _ => ?_
  rw [Way.endFrom]
  nth_rewrite 3 [← List.take_append_drop (home.length - way.ups) home]
  rw [List.append_assoc, List.append_cancel_left_eq]

namespace Path

theorem join_assoc (first second third : Path) :
    (first.join second).join third = first.join (second.join third) := by
  obtain ⟨anchor, parts⟩ := third
  cases anchor with
  | relative =>
      obtain ⟨anchor, parts⟩ := second
      cases anchor <;> simp [join]
  | _ => rfl

theorem join_of_empty (path : Path) : (⟨.relative, []⟩ : Path).join path = path := by
  obtain ⟨anchor, parts⟩ := path
  cases anchor <;> rfl

end Path

theorem Disk.placeOf_join (disk : Disk) (left right : Path) :
    disk.placeOf (left.join right) =
      if right.anchor = .relative then right.parts.foldl enter (disk.placeOf left)
      else right.parts.foldl enter [] := by
  obtain ⟨anchor, parts⟩ := right
  cases anchor <;> simp [placeOf, start, Path.join]

namespace Layer

/-- The file of a layer as the texts of its route say it, seen from the directory of the
features. -/
def pathBelow (route : Route) (layer : Layer) : Path :=
  Path.ofText route.group / layer.directory / layer.fileName route

theorem path_eq_join (featuresDir : Path) (route : Route) (layer : Layer) :
    layer.path featuresDir route = featuresDir.join (layer.pathBelow route) := by
  change ((featuresDir.join (Path.ofText route.group)).join (Path.ofText layer.directory)).join
    (Path.ofText (layer.fileName route)) = _
  rw [Path.join_assoc, Path.join_assoc, ← Path.join_assoc (Path.ofText route.group)]
  rfl

/-- The texts of a route lead to a file below the directory of the features: they come back through
the directories that they leave, or come down to it from the root. -/
inductive StaysIn (home : Place) (route : Route) (layer : Layer) : Prop where
  | relative {rest : List Text} :
      (layer.pathBelow route).anchor = .relative →
      rest ≠ [] →
      (Way.ofNames (layer.pathBelow route).parts).downs =
        home.drop (home.length - (Way.ofNames (layer.pathBelow route).parts).ups) ++ rest →
      StaysIn home route layer
  | absolute {rest : List Text} :
      (layer.pathBelow route).anchor ≠ .relative →
      rest ≠ [] →
      (Way.ofNames (layer.pathBelow route).parts).downs = home ++ rest →
      StaysIn home route layer

theorem liesBelow_placeOf_iff (disk : Disk) (featuresDir : Path) (route : Route) (layer : Layer) :
    LiesBelow (disk.placeOf featuresDir) (disk.placeOf (layer.path featuresDir route)) ↔
      layer.StaysIn (disk.placeOf featuresDir) route := by
  rw [layer.path_eq_join, Disk.placeOf_join, ← Way.endFrom_ofNames, ← Way.endFrom_ofNames]
  by_cases isRelative : (layer.pathBelow route).anchor = .relative
  · rw [if_pos isRelative, Way.liesBelow_endFrom_iff]
    constructor
    · rintro ⟨rest, isFile, back⟩
      exact .relative isRelative isFile back
    · rintro (⟨_, isFile, back⟩ | ⟨isAbsolute, _, _⟩)
      · exact ⟨_, isFile, back⟩
      · exact absurd isRelative isAbsolute
  · rw [if_neg isRelative, Way.endFrom_nil]
    constructor
    · rintro ⟨rest, isFile, down⟩
      exact .absolute isRelative isFile down
    · rintro (⟨isAbsolute, _, _⟩ | ⟨_, isFile, down⟩)
      · exact absurd isAbsolute isRelative
      · exact ⟨_, isFile, down⟩

/-- The texts of a route lead to the file of a layer without leaving the directory of the
features. -/
structure NeverLeaves (route : Route) (layer : Layer) : Prop where
  isRelative : (layer.pathBelow route).anchor = .relative
  neverUp : (Way.ofNames (layer.pathBelow route).parts).ups = 0

theorem NeverLeaves.staysIn {route : Route} {layer : Layer} (never : layer.NeverLeaves route)
    (home : Place) : layer.StaysIn home route := by
  obtain ⟨front, name, ends, suffix⟩ := layer.exists_parts_path ⟨.relative, []⟩ route
  have isName : name ≠ Disk.parentName := by
    rintro rfl
    cases layer <;> exact absurd suffix (by decide)
  rw [layer.path_eq_join, Path.join_of_empty] at ends
  refine @StaysIn.relative _ _ _ (Way.ofNames (layer.pathBelow route).parts).downs
    never.isRelative ?_ ?_
  · rw [ends, Way.downs_ofNames_concat isName]
    exact List.concat_ne_nil _ _
  · rw [never.neverUp, Nat.sub_zero, List.drop_length, List.nil_append]

/-- Groups and pages that are made of names never leave. -/
theorem neverLeaves_of_isGroup {route : Route} (isGroup : IsGroup route.group)
    (isName : IsName route.page) (layer : Layer) : layer.NeverLeaves route := by
  have path := layer.path_eq ⟨.relative, []⟩ isGroup isName
  have descends := layer.not_mem_path ⟨.relative, []⟩ isGroup isName List.not_mem_nil
  rw [path] at descends
  rw [layer.path_eq_join, Path.join_of_empty] at path
  refine ⟨by rw [path], ?_⟩
  rw [path, Way.ofNames_of_not_mem descends]

end Layer

namespace Scaffold

open Effect

/-- The files of one workspace are those of another one, apart from files of feature pages. -/
structure ChangesFeatures (scaffold : Scaffold) (routes : List Route) (before after : Workspace) :
    Prop where
  directory : after.disk.directory = before.disk.directory
  elsewhere : ∀ place,
    (∀ route ∈ routes, route.isFeature → ∀ layer,
      before.disk.placeOf (scaffold.path route layer) ≠ place) →
    after.disk.tree.contentAt? place = before.disk.tree.contentAt? place

section Changes

variable {scaffold : Scaffold} {routes : List Route}

theorem ChangesFeatures.of_sameFiles {before after : Workspace}
    (same : Disk.SameFiles before.disk after.disk) : ChangesFeatures scaffold routes before after :=
  ⟨same.directory, fun place _ => same.content place⟩

instance : Std.Refl (ChangesFeatures scaffold routes) where
  refl _ := ⟨rfl, fun _ _ => rfl⟩

instance : IsTrans Workspace (ChangesFeatures scaffold routes) where
  trans before middle after first second := by
    refine ⟨second.directory.trans first.directory, fun place apart => ?_⟩
    rw [second.elsewhere place, first.elsewhere place apart]
    intro route member isFeature layer
    rw [Disk.placeOf_of_directory_eq first.directory]
    exact apart route member isFeature layer

variable [Console]

/-- A run creates a file at a place: the file is new, or it is reported as created. -/
inductive CreatesAt (scaffold : Scaffold) (routes : List Route) (before : Workspace)
    (place : Place) : Prop where
  | fresh :
      before.disk.tree.contentAt? place = none →
      ((after (scaffold.run routes) before).disk.tree.contentAt? place).isSome →
      CreatesAt scaffold routes before place
  | reported {outcomes : List Outcome} {later : Workspace} :
      scaffold.run routes before = .ok outcomes later →
      place ∈ createdPlaces before.disk outcomes →
      CreatesAt scaffold routes before place

theorem run_changesFeatures (scaffold : Scaffold) (routes : List Route) :
    Keeps (ChangesFeatures scaffold routes) (scaffold.run routes) := by
  refine run_keeps routes fun route member isFeature layer => ?_
  refine ensure_keeps (fun reads workspace => ?_) fun workspace _ => ?_
  · have same := reads.keeps workspace
    exact .of_sameFiles (same ▸ Std.Refl.refl _)
  · rcases Action.writeText_after (scaffold.path route layer) (scaffold.source route layer)
      workspace with same | ⟨_, content, rewritten⟩
    · exact .of_sameFiles same
    · exact ⟨rewritten.directory, fun place apart =>
        rewritten.elsewhere place (apart route member isFeature layer).symm⟩

theorem CreatesAt.exists_layer {before : Workspace} {place : Place}
    (creates : CreatesAt scaffold routes before place) :
    ∃ route ∈ routes, route.isFeature = true ∧
      ∃ layer, before.disk.placeOf (scaffold.path route layer) = place := by
  cases creates with
  | fresh absent isFile =>
      by_cases found : ∃ route ∈ routes, route.isFeature = true ∧
          ∃ layer, before.disk.placeOf (scaffold.path route layer) = place
      · exact found
      · have same := (run_changesFeatures scaffold routes before).elsewhere place
          fun route member isFeature layer here => found ⟨route, member, isFeature, layer, here⟩
        rw [same, absent] at isFile
        cases isFile
  | reported run created =>
      obtain ⟨blocks, visited, rfl, shapes⟩ := run_visits run
      obtain ⟨outcome, isCreated, rfl⟩ := List.mem_map.mp created
      obtain ⟨visit, member, rfl⟩ := List.mem_map.mp (List.mem_filter.mp isCreated).1
      obtain ⟨_, ensured⟩ := visited.ensure_of_mem member
      obtain ⟨isRoute, isFeature⟩ := isFeature_of_mem_covers shapes member
      exact ⟨visit.route, isRoute, isFeature, visit.layer, by rw [(ensure_eq_ok ensured).2.1]⟩

/-- A run creates the view of its only route if the disk denies it and lets it be written, and no
other file of the page has its place. -/
theorem createsAt_view {route : Route} {before : Workspace} (isFeature : route.isFeature = true)
    (writable : scaffold.Writable route)
    (denied : before.disk.pathExists (scaffold.path route .view) = .ok false)
    (checked : passes (Disk.makeDirectories (scaffold.path route .view).parent) before.disk
      (fun _ middle => middle.isOpen (scaffold.path route .view)) = true)
    (apart : ∀ layer, layer ≠ .view →
      before.disk.placeOf (scaffold.path route layer) ≠
        before.disk.placeOf (scaffold.path route .view)) :
    CreatesAt scaffold [route] before (before.disk.placeOf (scaffold.path route .view)) := by
  obtain ⟨outcomes, later, run⟩ := exists_ok_of_confined
    (run_confined_of_writable (List.forall_mem_singleton.mpr fun _ => writable)) before
  obtain ⟨_, visited, rfl, _ | ⟨shape, ⟨⟩⟩⟩ := run_visits run
  obtain ⟨_, middle, made, opened⟩ := exists_ok_of_passes checked
  rw [List.flatten_cons, List.flatten_nil, List.append_nil] at visited run
  exact .reported run (visited.overwrite_view shape isFeature writable denied
    (fun content => Disk.writeDeepFile_of_isOpen content made opened) apart).1

/--
All files that a run creates lie below the directory of the features exactly if the texts of their
routes lead there; in particular if no text leaves the directory.
-/
theorem creates_below_iff (scaffold : Scaffold) (routes : List Route) (before : Workspace) :
    ((∀ place, CreatesAt scaffold routes before place →
        LiesBelow (before.disk.placeOf scaffold.featuresDir) place) ↔
      ∀ route ∈ routes, route.isFeature → ∀ layer,
        CreatesAt scaffold routes before (before.disk.placeOf (scaffold.path route layer)) →
          layer.StaysIn (before.disk.placeOf scaffold.featuresDir) route) ∧
    ((∀ route ∈ routes, route.isFeature → ∀ layer : Layer, layer.NeverLeaves route) →
      ∀ place, CreatesAt scaffold routes before place →
        LiesBelow (before.disk.placeOf scaffold.featuresDir) place) := by
  have stays_iff (route : Route) (layer : Layer) :=
    layer.liesBelow_placeOf_iff before.disk scaffold.featuresDir route
  refine ⟨⟨fun below route _ _ layer creates => ?_, fun stays place creates => ?_⟩,
    fun never place creates => ?_⟩
  · exact (stays_iff route layer).mp (below _ creates)
  · obtain ⟨route, member, isFeature, layer, rfl⟩ := creates.exists_layer
    exact (stays_iff route layer).mpr (stays route member isFeature layer creates)
  · obtain ⟨route, member, isFeature, layer, rfl⟩ := creates.exists_layer
    exact (stays_iff route layer).mpr ((never route member isFeature layer).staysIn _)

end Changes

/-- The landing page of a shop is created, and its texts do not leave. -/
theorem creates_below_shop :
    CreatesAt ownScaffold [shopRoute] ⟨ownDisk [], [], []⟩
        ["lib", "features", "shop", "shop_page.dart"] ∧
      ∀ place, CreatesAt ownScaffold [shopRoute] ⟨ownDisk [], [], []⟩ place →
        LiesBelow ["lib", "features"] place := by
  have apart : ∀ layer, layer ≠ .view →
      (ownDisk []).placeOf (ownScaffold.path shopRoute layer) ≠
        (ownDisk []).placeOf (ownScaffold.path shopRoute .view) := by
    intro layer
    cases layer <;> decide +kernel
  have creates : CreatesAt ownScaffold [shopRoute] ⟨ownDisk [], [], []⟩
      ((ownDisk []).placeOf (ownScaffold.path shopRoute .view)) :=
    createsAt_view (by decide) shopRoute_writable (by decide +kernel) (by decide +kernel) apart
  have place : (ownDisk []).placeOf (ownScaffold.path shopRoute .view) =
      ["lib", "features", "shop", "shop_page.dart"] := by decide +kernel
  have home : (ownDisk []).placeOf ownScaffold.featuresDir = ["lib", "features"] := by
    decide +kernel
  have below := (creates_below_iff ownScaffold [shopRoute] ⟨ownDisk [], [], []⟩).2
    (List.forall_mem_singleton.mpr fun _ layer =>
      layer.neverLeaves_of_isGroup (by decide) (by decide))
  simp only [home] at below
  simp only [place] at creates
  exact ⟨creates, below⟩

/-- A page whose group is the directory above. -/
def outerRoute : Route :=
  ⟨"..", "/", "CartPage", false⟩

theorem outerRoute_writable : ownScaffold.Writable outerRoute :=
  writable_of_isUnmarked ⟨.ofList (by decide), .ofList (by decide), .ofList (by decide)⟩
    (by decide +kernel)

/-- A route table with a group that goes up. -/
def outerTable : Text :=
  "const routesConfig = [['..', '/', 'CartPage', false]];\n"

theorem parse_outerTable :
    RouteTable.parse outerTable RouteTable.defaultName = .ok ⟨[outerRoute], true, []⟩ := by
  decide +kernel

/-- A table that is read makes a run create a page beside the directory of the features. -/
theorem not_forall_creates_below :
    ¬ ∀ (text name : Text) (result : RouteTable) (scaffold : Scaffold) (before : Workspace),
      RouteTable.parse text name = .ok result →
        ∀ place, CreatesAt scaffold result.routes before place →
          LiesBelow (before.disk.placeOf scaffold.featuresDir) place := by
  intro claim
  have apart : ∀ layer, layer ≠ .view →
      (ownDisk []).placeOf (ownScaffold.path outerRoute layer) ≠
        (ownDisk []).placeOf (ownScaffold.path outerRoute .view) := by
    intro layer
    cases layer <;> decide +kernel
  have creates : CreatesAt ownScaffold [outerRoute] ⟨ownDisk [], [], []⟩
      ((ownDisk []).placeOf (ownScaffold.path outerRoute .view)) :=
    createsAt_view (by decide) outerRoute_writable (by decide +kernel) (by decide +kernel) apart
  have place : (ownDisk []).placeOf (ownScaffold.path outerRoute .view) =
      ["lib", "cart_page.dart"] := by decide +kernel
  have home : (ownDisk []).placeOf ownScaffold.featuresDir = ["lib", "features"] := by
    decide +kernel
  have below := claim _ _ _ ownScaffold ⟨ownDisk [], [], []⟩ parse_outerTable _ creates
  simp only [place, home] at below
  obtain ⟨rest, _, beside⟩ := below
  cases beside

end Scaffold

end DartRoutes
