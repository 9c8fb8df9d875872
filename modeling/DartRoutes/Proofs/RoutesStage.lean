import DartRoutes.Proofs.ScaffoldReport
import DartRoutes.Proofs.StageFlow

/-!
# Failures of the stage of the routes

If the stage of the routes fails after its table is loaded, the disk differs from what it was in new
feature files only, unless the disk has denied a path although there was a file at its place.
-/

namespace DartRoutes

open Effect Scaffold

/-- Every file of the first disk is a file of the second one with the same content. -/
def Disk.Kept (before after : Disk) : Prop :=
  ∀ place content, before.tree.contentAt? place = some content →
    after.tree.contentAt? place = some content

/-- Every file that a misled visit has written over has its content again. -/
def Scaffold.Restored (before after : Disk) (visits : List Visit) : Prop :=
  ∀ visit ∈ visits, visit.outcome.isCreated →
    visit.before.disk.Misleads visit.outcome.path →
      ∀ content, before.tree.contentAt? (before.placeOf visit.outcome.path) = some content →
        after.tree.contentAt? (before.placeOf visit.outcome.path) = some content

theorem Work.Puts.sameFiles {path : Path} {text : Text} {before after : Session}
    (puts : Puts path text before after false) :
    Disk.SameFiles before.workspace.disk after.workspace.disk := by
  cases puts with
  | refused unwritten isFromDisk sameDisk _ =>
      rw [sameDisk]
      exact Action.writeText_of_error unwritten isFromDisk

section Stages

variable [Console]

namespace Scaffold

variable {scaffold : Scaffold}

/-- Visits that cover routes lead from one disk to another. -/
structure Leads (scaffold : Scaffold) (routes : List Route) (before after : Disk)
    (blocks : List (List Visit)) : Prop where
  visits : ∃ first last, first.disk = before ∧ Visits scaffold first blocks.flatten last ∧
    Disk.SameFiles last.disk after
  covers : List.Forall₂ (Covers scaffold) routes blocks

theorem Leads.trans_same {routes : List Route} {before middle after : Disk}
    {blocks : List (List Visit)} (leads : Leads scaffold routes before middle blocks)
    (same : Disk.SameFiles middle after) : Leads scaffold routes before after blocks := by
  obtain ⟨⟨first, last, start, visited, ends⟩, shapes⟩ := leads
  exact ⟨⟨first, last, start, visited, IsTrans.trans _ _ _ ends same⟩, shapes⟩

/-- Files differ only where a visit has created its file, which was not there or misled it. -/
theorem Leads.created_of_ne {routes : List Route} {before after : Disk}
    {blocks : List (List Visit)} {place : Place} (leads : Leads scaffold routes before after blocks)
    (differs : after.tree.contentAt? place ≠ before.tree.contentAt? place) :
    ∃ visit ∈ blocks.flatten, visit.outcome.isCreated = true ∧
      before.placeOf visit.outcome.path = place ∧
      (before.tree.contentAt? place = none ∨
        visit.before.disk.Misleads visit.outcome.path) := by
  obtain ⟨⟨first, last, rfl, visited, same⟩, _⟩ := leads
  rw [same.content] at differs
  have member : place ∈ createdPlaces first.disk (blocks.flatten.map Visit.outcome) := by
    refine Decidable.byContradiction fun apart => differs ?_
    exact visited.contentAt?_of_not_mem apart
  obtain ⟨outcome, reported, placed⟩ := List.mem_map.mp member
  obtain ⟨found, isCreated⟩ := List.mem_filter.mp reported
  obtain ⟨visit, visitMember, rfl⟩ := List.mem_map.mp found
  refine ⟨visit, visitMember, isCreated, placed, ?_⟩
  cases wasFile : first.disk.tree.contentAt? place with
  | none => exact .inl rfl
  | some content =>
      right
      refine visited.misleads_of_isSome visitMember isCreated ?_
      rw [placed, wasFile]
      rfl

variable {routes : List Route} {before after : Disk} {blocks : List (List Visit)}

theorem Leads.kept_iff (leads : Leads scaffold routes before after blocks) :
    before.Kept after ↔ Restored before after blocks.flatten := by
  constructor
  · intro kept visit _ _ _ content wasFile
    exact kept _ content wasFile
  · intro restored place content wasFile
    refine Decidable.byContradiction fun lost => ?_
    have differs : after.tree.contentAt? place ≠ before.tree.contentAt? place := by
      rw [wasFile]
      exact lost
    obtain ⟨visit, member, isCreated, rfl, wasNothing | misled⟩ := leads.created_of_ne differs
    · rw [wasNothing] at wasFile
      cases wasFile
    · exact lost (restored visit member isCreated misled content wasFile)

theorem Leads.kept_of_descends (leads : Leads scaffold routes before after blocks)
    (descends : ∀ route ∈ routes, route.isFeature → scaffold.Descends route) :
    before.Kept after := by
  obtain ⟨_, _, _, visited, _⟩ := leads.visits
  have neverMisled := neverMisled_of_descends visited leads.covers descends
  refine leads.kept_iff.mpr fun visit member isCreated misled => ?_
  exact absurd misled (neverMisled visit member isCreated)

end Scaffold

namespace Work

theorem scaffold_of_ok {routes : List Route} {packageName : Text} {session later : Session}
    {created : List Text} (run : scaffold routes packageName session = .ok created later) :
    ∃ blocks, Leads ⟨session.pipeline.settings.featuresDir, packageName⟩
      (if session.pipeline.settings.scaffold then routes else [])
      session.workspace.disk later.workspace.disk blocks := by
  obtain ⟨blocks, last, visited, shapes, _, sameDisk, _⟩ := scaffold_eq_ok run
  refine ⟨blocks, ⟨_, last, rfl, visited, ?_⟩, shapes⟩
  rw [sameDisk]
  exact Std.Refl.refl _

theorem writeOutput_of_below {stage : Stage} {path : Path} (text : Text) {session : Session}
    {name : Text} {rest : Place} (clean : ∀ name ∈ path.parts, '\x00' ∉ name)
    (below : (session.workspace.disk.tree.contentAt?
      (session.workspace.disk.placeOf path ++ name :: rest)).isSome) :
    ∃ reason later, writeOutput stage path text session = .error (.stage stage reason) later := by
  obtain ⟨failure, workspace, failed, isFromDisk⟩ := Action.writeText_of_below text clean below
  rw [writeOutput_run, failed]
  dsimp only
  rw [if_pos isFromDisk]
  exact ⟨_, _, rfl⟩

/-- The scaffolder gets through writable files, and leaves every file as a file. -/
theorem scaffold_of_writable {routes : List Route} {packageName : Text} (session : Session)
    (writable : ∀ route ∈ routes, route.isFeature →
      Writable ⟨session.pipeline.settings.featuresDir, packageName⟩ route) :
    ∃ created later, scaffold routes packageName session = .ok created later ∧
      later.pipeline = session.pipeline ∧
      later.workspace.disk.directory = session.workspace.disk.directory ∧
      ∀ place, (session.workspace.disk.tree.contentAt? place).isSome →
        (later.workspace.disk.tree.contentAt? place).isSome := by
  rw [scaffold, bind_of_ok (settings_run session)]
  dsimp only
  split
  · obtain ⟨outcomes, workspace, run⟩ :=
      exists_ok_of_confined (run_confined_of_writable writable) session.workspace
    obtain ⟨blocks, visited, _⟩ := run_visits run
    have acted : act (Scaffold.run ⟨session.pipeline.settings.featuresDir, packageName⟩ routes)
        session = .ok outcomes { session with workspace } := by
      rw [act_run, run]
    rw [bind_of_ok acted]
    split
    · exact ⟨_, _, rfl, rfl, visited.keeps_directory, fun _ => visited.keeps_file⟩
    · rw [bind_of_ok (report_run _ _ _)]
      exact ⟨_, _, rfl, rfl, visited.keeps_directory, fun _ => visited.keeps_file⟩
  · exact ⟨_, _, rfl, rfl, rfl, fun _ => id⟩

section Below

variable {session : Session} {options : BuilderOptions} {name : Text} {rest : Place}

/-- The router cannot be written if there is a directory with a file in it where it goes. -/
theorem finishRoutes_of_below {routes : List Route} {packageName : Text}
    (writable : ∀ route ∈ routes, route.isFeature →
      Writable ⟨session.pipeline.settings.featuresDir, packageName⟩ route)
    (clean : ∀ name ∈ session.pipeline.settings.routerOutputPath.parts, '\x00' ∉ name)
    (below : (session.workspace.disk.tree.contentAt?
      (session.workspace.disk.placeOf session.pipeline.settings.routerOutputPath ++
        name :: rest)).isSome) :
    ∃ reason later blocks,
      finishRoutes session.pipeline.settings routes options packageName session =
        .error (.stage .routes reason) later ∧
      Leads ⟨session.pipeline.settings.featuresDir, packageName⟩
        (if session.pipeline.settings.scaffold then routes else [])
        session.workspace.disk later.workspace.disk blocks := by
  obtain ⟨created, later, scaffolded, _, sameDirectory, keepsFile⟩ :=
    scaffold_of_writable session writable
  have stillBelow := keepsFile _ below
  rw [← Disk.placeOf_of_directory_eq sameDirectory] at stillBelow
  obtain ⟨reason, ends, unwritten⟩ := writeOutput_of_below
    (navigationSource routes options packageName) clean stillBelow
  obtain ⟨blocks, leads⟩ := scaffold_of_ok scaffolded
  exact ⟨reason, ends, blocks, (bind_of_ok scaffolded).trans (bind_of_error unwritten),
    leads.trans_same (writeOutput_eq_stage unwritten).sameFiles⟩

variable [DocumentLoader]

/-- The stage of the routes fails if there is a directory with a file in it where the router goes.
The options and the name of the package are at hand here, so that nothing else can fail before. -/
theorem generateRoutes_of_below {table : RouteTable}
    (loaded : TableLoaded session.workspace.disk session.pipeline.settings table)
    (nonempty : table.routes ≠ [])
    (opened : session.pipeline.options? = some options)
    (named : session.pipeline.settings.packageName.isEmpty = false)
    (writable : ∀ route ∈ table.routes, route.isFeature →
      Writable ⟨session.pipeline.settings.featuresDir, session.pipeline.settings.packageName⟩ route)
    (clean : ∀ name ∈ session.pipeline.settings.routerOutputPath.parts, '\x00' ∉ name)
    (below : (session.workspace.disk.tree.contentAt?
      (session.workspace.disk.placeOf session.pipeline.settings.routerOutputPath ++
        name :: rest)).isSome) :
    ∃ reason later blocks, generateRoutes session = .error (.stage .routes reason) later ∧
      Leads ⟨session.pipeline.settings.featuresDir, session.pipeline.settings.packageName⟩
        (if session.pipeline.settings.scaffold then table.routes else [])
        session.workspace.disk later.workspace.disk blocks := by
  obtain ⟨log, goes⟩ := generateRoutes_of_routes loaded nonempty
  have chosen : Work.options (session.showing log) = .ok options (session.showing log) := by
    rw [Work.options, Effect.bind_run, Effect.get_run]
    dsimp only
    rw [show (session.showing log).pipeline.options? = some options from opened]
    rfl
  have known : act (.packageName session.pipeline.settings) (session.showing log) =
      .ok session.pipeline.settings.packageName (session.showing log) := by
    rw [act_run, Action.packageName, named]
    rfl
  rw [goes, bind_of_ok chosen, bind_of_ok known]
  exact finishRoutes_of_below writable clean below

end Below

variable [DocumentLoader]

theorem generateRoutes_of_loaded {session later : Session} {table : RouteTable} {stage : Stage}
    {reason : Text}
    (loaded : TableLoaded session.workspace.disk session.pipeline.settings table)
    (failed : generateRoutes session = .error (.stage stage reason) later) :
    ∃ packageName blocks, Leads ⟨session.pipeline.settings.featuresDir, packageName⟩
      (if session.pipeline.settings.scaffold then table.routes else [])
      session.workspace.disk later.workspace.disk blocks := by
  rcases generateRoutes_eq_stage failed with
    refused | ⟨other, _, packageName, start, _, middle, read, scaffolded, unwritten⟩
  · exact absurd loaded (refused.not_loaded table)
  · obtain rfl := read.loaded.unique loaded
    obtain ⟨blocks, leads⟩ := scaffold_of_ok scaffolded
    rw [read.opened.disk, read.opened.pipeline] at leads
    exact ⟨packageName, blocks, leads.trans_same unwritten.sameFiles⟩

end Work

variable [DocumentLoader]

/--
A route table is refused or loaded. If it is refused, the stage of the routes fails before it has
changed anything, and a run that starts with it executes no other stage and leaves the disk alone.
If the stage fails behind its table, files differ only where the scaffolder reports new ones. All
files that were there are kept exactly if those that misled visits have written over have their
content again; paths that never go up mislead no visit.
-/
theorem generateRoutes_atomic (session : Session) :
    (TableRefused session.workspace.disk session.pipeline.settings ∨
      ∃ table, TableLoaded session.workspace.disk session.pipeline.settings table) ∧
    (TableRefused session.workspace.disk session.pipeline.settings →
      (∃ reason later, Work.generateRoutes session = .error (.stage .routes reason) later ∧
        later.workspace.disk = session.workspace.disk) ∧
      ∀ names, Work.runStages (Stage.routes.name :: names) session =
          Work.runStages [Stage.routes.name] session ∧
        Work.Untouched session (after (Work.run (Stage.routes.name :: names)) session)) ∧
    ∀ table stage reason later,
      TableLoaded session.workspace.disk session.pipeline.settings table →
      Work.generateRoutes session = .error (.stage stage reason) later →
      ∃ packageName blocks,
        Leads ⟨session.pipeline.settings.featuresDir, packageName⟩
          (if session.pipeline.settings.scaffold then table.routes else [])
          session.workspace.disk later.workspace.disk blocks ∧
        (∀ place, later.workspace.disk.tree.contentAt? place ≠
            session.workspace.disk.tree.contentAt? place →
          place ∈ createdPlaces session.workspace.disk (blocks.flatten.map Visit.outcome)) ∧
        (session.workspace.disk.Kept later.workspace.disk ↔
          Restored session.workspace.disk later.workspace.disk blocks.flatten) ∧
        ((∀ route ∈ table.routes, route.isFeature →
            Descends ⟨session.pipeline.settings.featuresDir, packageName⟩ route) →
          session.workspace.disk.Kept later.workspace.disk) := by
  refine ⟨tableRefused_or_loaded _ _, ?_, ?_⟩
  · intro refused
    obtain ⟨reason, later, failed, sameDisk, _⟩ := Work.generateRoutes_of_refused refused
    refine ⟨⟨reason, later, failed, sameDisk⟩, fun names => ?_⟩
    exact ⟨(Work.runStages_of_refused names refused).1, Work.run_ifRefused names session refused⟩
  · intro table stage reason later loaded failed
    obtain ⟨packageName, blocks, leads⟩ := Work.generateRoutes_of_loaded loaded failed
    refine ⟨packageName, blocks, leads, fun place differs => ?_, leads.kept_iff,
      fun descends => leads.kept_of_descends fun route member => ?_⟩
    · obtain ⟨visit, member, isCreated, placed, _⟩ := leads.created_of_ne differs
      rw [← placed]
      have reported := List.mem_map_of_mem (f := Visit.outcome) member
      exact List.mem_map_of_mem (List.mem_filter.mpr ⟨reported, isCreated⟩)
    · split at member
      · exact descends route member
      · cases member

end Stages

/-- A pipeline of a project with a page of its own and a route table, in which a directory stands
where the router goes. -/
def blockedSession (table : Text) : Session :=
  ⟨⟨{ Settings.default with packageName := "app" }, some .default, .empty⟩,
    ⟨ownDisk [("route_config.dart", .file (Utf8.encode table)),
      ("router.g.dart", .directory [("keep.txt", .file [])])], [], []⟩⟩

/-- The route table of a shop. -/
def shopTable : Text :=
  "const routesConfig = [['shop', '/', 'ShopPage', false]];\n"

/-- A route table with a group that leads through a directory that is not there. -/
def ghostTable : Text :=
  "const routesConfig = [['ghost/..', '/', 'CartPage', false]];\n"

theorem tableLoaded_ownDisk {text : Text} {table : RouteTable} (others : List (Text × FileTree))
    (decoded : Utf8.decode (Utf8.encode text) = .ok text)
    (parsed : RouteTable.parse text.withLineFeeds Settings.default.tableName = .ok table) :
    TableLoaded (ownDisk (("route_config.dart", .file (Utf8.encode text)) :: others)) .default
      table := by
  have path : Settings.default.routeConfigPath = ⟨.relative, ["lib", "route_config.dart"]⟩ := by
    decide
  refine .parsed ?_ decoded parsed
  rw [path]
  rfl

theorem tableLoaded_of_blocked {text : Text} {table : RouteTable}
    (decoded : Utf8.decode (Utf8.encode text) = .ok text)
    (parsed : RouteTable.parse text.withLineFeeds Settings.default.tableName = .ok table) :
    TableLoaded (blockedSession text).workspace.disk (blockedSession text).pipeline.settings
      table := by
  obtain ⟨found, decoded, parsed⟩ := tableLoaded_ownDisk _ decoded parsed
  exact .parsed found decoded parsed

theorem featuresDir_default : Settings.default.featuresDir = .ofText "lib/features" := by
  decide

theorem generateRoutes_of_blocked {text : Text} {route : Route}
    (loaded : TableLoaded (blockedSession text).workspace.disk
      (blockedSession text).pipeline.settings ⟨[route], true, []⟩)
    (writable : ownScaffold.Writable route) :
    ∃ reason later blocks,
      Work.generateRoutes (blockedSession text) = .error (.stage .routes reason) later ∧
        Leads ownScaffold [route] (blockedSession text).workspace.disk later.workspace.disk
          blocks := by
  have output : Settings.default.routerOutputPath = ⟨.relative, ["lib", "router.g.dart"]⟩ := by
    decide
  have below : ((blockedSession text).workspace.disk.tree.contentAt?
      ((blockedSession text).workspace.disk.placeOf Settings.default.routerOutputPath ++
        ([("keep.txt" : Text)] : Place))).isSome := by
    rw [output]
    rfl
  have sameScaffold : (⟨Settings.default.featuresDir, "app"⟩ : Scaffold) = ownScaffold := by
    rw [featuresDir_default]
    rfl
  have failed := Work.generateRoutes_of_below loaded (List.cons_ne_nil _ _) rfl rfl
    (List.forall_mem_singleton.mpr fun _ => sameScaffold ▸ writable)
    (show ∀ name ∈ Settings.default.routerOutputPath.parts, '\x00' ∉ name by decide) below
  rw [← sameScaffold]
  exact failed

/-- Without a route table nothing changes, and the files that are there are kept when the router
of a shop cannot be written. -/
theorem generateRoutes_atomic_shop :
    (TableRefused ⟨.empty, []⟩ .default ∧
      ∃ reason later, Work.generateRoutes ⟨.ofSettings .default, ⟨⟨.empty, []⟩, [], []⟩⟩ =
        .error (.stage .routes reason) later ∧ later.workspace.disk = ⟨.empty, []⟩) ∧
    TableLoaded (blockedSession shopTable).workspace.disk
      (blockedSession shopTable).pipeline.settings ⟨[shopRoute], true, []⟩ ∧
    ∃ reason later,
      Work.generateRoutes (blockedSession shopTable) = .error (.stage .routes reason) later ∧
      (blockedSession shopTable).workspace.disk.Kept later.workspace.disk := by
  have refused : TableRefused ⟨.empty, []⟩ .default := .missing (by decide +kernel)
  have loaded : TableLoaded (blockedSession shopTable).workspace.disk
      (blockedSession shopTable).pipeline.settings ⟨[shopRoute], true, []⟩ :=
    tableLoaded_of_blocked (by decide +kernel) (by decide +kernel)
  have descends : ∀ packageName, ∀ route ∈ [shopRoute], route.isFeature →
      Descends ⟨(blockedSession shopTable).pipeline.settings.featuresDir, packageName⟩ route := by
    intro packageName route member _
    obtain rfl := List.mem_singleton.mp member
    intro layer
    rw [show (blockedSession shopTable).pipeline.settings.featuresDir = .ofText "lib/features" from
      featuresDir_default]
    exact shopRoute_descends layer
  obtain ⟨reason, later, _, failed, _⟩ := generateRoutes_of_blocked loaded shopRoute_writable
  obtain ⟨packageName, _, _, _, _, kept⟩ :=
    (generateRoutes_atomic (blockedSession shopTable)).2.2 _ _ _ later loaded failed
  exact ⟨⟨refused, ((generateRoutes_atomic ⟨.ofSettings .default, _⟩).2.1 refused).1⟩, loaded,
    reason, later, failed, kept (descends packageName)⟩

/-- A page that is there is written over when the router cannot be written, if its path leads
through a directory that is missing and back. -/
theorem not_forall_kept :
    ¬ ∀ (session : Session) (table : RouteTable) (stage : Stage) (reason : Text) (later : Session),
      TableLoaded session.workspace.disk session.pipeline.settings table →
      Work.generateRoutes session = .error (.stage stage reason) later →
      session.workspace.disk.Kept later.workspace.disk := by
  intro claim
  have loaded : TableLoaded (blockedSession ghostTable).workspace.disk
      (blockedSession ghostTable).pipeline.settings ⟨[ghostRoute], true, []⟩ :=
    tableLoaded_of_blocked (by decide +kernel) (by decide +kernel)
  obtain ⟨reason, later, _, failed, ⟨⟨first, last, start, visited, same⟩, _ | ⟨shape, ⟨⟩⟩⟩⟩ :=
    generateRoutes_of_blocked loaded ghostRoute_writable
  rw [List.flatten_cons, List.flatten_nil, List.append_nil] at visited
  have written := (overwrite_ghost visited shape start (by decide +kernel) (by decide +kernel)).2
  have wasFile : (blockedSession ghostTable).workspace.disk.tree.contentAt?
      ((blockedSession ghostTable).workspace.disk.placeOf (ownScaffold.path ghostRoute .view)) =
        some (Utf8.encode "// my own page\n") := by
    decide +kernel
  have kept := claim _ _ _ _ later loaded failed _ _ wasFile
  rw [same.content] at kept
  have different : Utf8.encode "// my own page\n" ≠
      Utf8.encode (ownScaffold.source ghostRoute .view) := by
    decide +kernel
  exact different (Option.some.inj (kept.symm.trans written))

end DartRoutes
