import DartRoutes.Proofs.ActionAgreement
import DartRoutes.Proofs.ScaffoldVisit
import DartRoutes.Proofs.TableRefusal

/-!
# How a stage goes

A stage looks at its input first. If there is something to do, it takes the options, and then writes
its output from what it has read. What it has shown on the way makes no difference.
-/

namespace DartRoutes

open Effect

/-- The session with another log. -/
def Session.showing (session : Session) (log : List LogEntry) : Session :=
  { session with workspace := { session.workspace with log } }

theorem Action.SameFile.rfl (path : Path) (disk : Disk) : Action.SameFile path disk disk :=
  ⟨Eq.refl _, Eq.refl _⟩

namespace Work

theorem attemptStage_run {α : Type} (work : Work α) (session : Session) :
    attemptStage work session =
      match work session with
      | .ok answer later => .ok (.ok answer) later
      | .error (.stage stage reason) later =>
          .ok (.error (Failure.stage stage reason).message) later
      | .error failure later => .error failure later := by
  cases run : work session with
  | ok answer later =>
      rw [attemptStage, map_eq_pure_bind]
      exact tryCatch_of_ok (bind_of_ok run)
  | error failure later =>
      rw [attemptStage, map_eq_pure_bind, tryCatch_of_error (bind_of_error run)]
      cases failure <;> rfl

theorem attemptStage_eq_ok {α : Type} {work : Work α} {before later : Session}
    {result : Except Text α} (attempted : attemptStage work before = .ok result later) :
    (∃ answer, result = .ok answer ∧ work before = .ok answer later) ∨
      ∃ stage reason, result = .error (Failure.stage stage reason).message ∧
        work before = .error (.stage stage reason) later := by
  rw [attemptStage_run] at attempted
  split at attempted
  · rename_i answered
    cases attempted
    exact .inl ⟨_, rfl, answered⟩
  · rename_i failed
    cases attempted
    exact .inr ⟨_, _, rfl, failed⟩
  · cases attempted

theorem writeText_confined (path : Path) (text : Text) :
    Confined IsNoStage (Action.writeText path text) := by
  have changes : ∀ content, Confined IsNoStage
      (Action.change (Disk.writeDeepFile path content)) := by
    intro content
    refine Action.change_confined (fun _ => True) (fun _ _ _ _ => trivial) ?_
    intro fault _ stage reason same
    cases same
  rw [Action.writeText]
  cases Utf8.encode? text with
  | ok content => exact changes content
  | error fault =>
      refine (changes []).bind fun _ => .throw ?_
      intro stage reason same
      cases same

/-- What has become of an output: its file is written, or the disk has refused it. -/
inductive Puts (path : Path) (text : Text) (before after : Session) : Bool → Prop where
  | written {workspace : Workspace} :
      Action.writeText path text before.workspace = .ok () workspace →
      after.workspace.disk = workspace.disk →
      after.pipeline = before.pipeline →
      Puts path text before after true
  | refused {workspace : Workspace} {failure : Failure} :
      Action.writeText path text before.workspace = .error failure workspace →
      failure.isFromDisk = true →
      after.workspace.disk = workspace.disk →
      after.pipeline = before.pipeline →
      Puts path text before after false

theorem Puts.showing {path : Path} {text : Text} {before after : Session} {isWritten : Bool}
    (puts : Puts path text before after isWritten) (log : List LogEntry) :
    Puts path text before (after.showing log) isWritten := by
  cases puts with
  | written wrote sameDisk samePipeline => exact .written wrote sameDisk samePipeline
  | refused refused isFromDisk sameDisk samePipeline =>
      exact .refused refused isFromDisk sameDisk samePipeline

/-- An effect has come to its answer or to the failure of a stage. -/
def IsEnd {α : Type} : EStateM.Result Failure Session α → Prop
  | .ok _ _ => True
  | .error (.stage _ _) _ => True
  | .error _ _ => False

theorem bind_of_isEnd {α β : Type} {first : Work α} {second : α → Work β} {session : Session}
    {outcome : EStateM.Result Failure Session β} (confined : Confined IsNoStage first)
    (run : (first >>= second) session = outcome) (isEnd : IsEnd outcome) :
    ∃ answer middle, first session = .ok answer middle ∧ second answer middle = outcome := by
  cases ran : first session with
  | ok answer middle =>
      rw [bind_of_ok ran] at run
      exact ⟨answer, middle, rfl, run⟩
  | error failure middle =>
      rw [bind_of_error ran] at run
      subst run
      cases failure with
      | stage stage reason => exact absurd rfl (confined _ _ _ ran stage reason)
      | _ => exact isEnd.elim

theorem collectAssets_eq_ok {directory : Path} {ignoreDirs : List Text} {before later : Session}
    {entries : List AssetEntry}
    (run : act (.collectAssets directory ignoreDirs) before = .ok entries later) :
    ∃ files, before.workspace.disk.list directory = .ok files ∧
      entries = AssetEntry.collect ignoreDirs files ∧ later = before := by
  rw [act_run, Action.collectAssets, bind_run, Action.ask_run] at run
  cases listed : before.workspace.disk.list directory with
  | ok files =>
      rw [listed] at run
      cases run
      exact ⟨files, rfl, rfl, rfl⟩
  | error fault =>
      rw [listed] at run
      cases run

variable [Console]

theorem writeOutput_run (stage : Stage) (path : Path) (text : Text) (session : Session) :
    writeOutput stage path text session =
      match Action.writeText path text session.workspace with
      | .ok _ workspace => .ok () { session with workspace }
      | .error failure workspace =>
          if failure.isFromDisk then
            .error (.stage stage ("Could not write " ++ path.text ++ ": " ++ failure.message))
              (Session.showing { session with workspace } (workspace.log ++ [.note
                (Markup.styled Tone.failure.style ("  Could not write " ++
                  session.pipeline.settings.shown path ++ ": " ++ failure.message))]))
          else .error failure { session with workspace } := by
  rw [writeOutput, bind_run, act_run, Action.attempt_run]
  cases Action.writeText path text session.workspace with
  | ok _ workspace => rfl
  | error failure workspace =>
      dsimp only
      cases failure.isFromDisk with
      | true => exact bind_of_ok (report_run _ _ _)
      | false => rfl

theorem writeOutput_eq_ok {stage : Stage} {path : Path} {text : Text} {before later : Session}
    (run : writeOutput stage path text before = .ok () later) :
    Puts path text before later true := by
  rw [writeOutput_run] at run
  split at run
  · rename_i written
    cases run
    exact .written written rfl rfl
  · split at run <;> cases run

theorem writeOutput_eq_stage {stage failed : Stage} {path : Path} {text reason : Text}
    {before later : Session}
    (run : writeOutput stage path text before = .error (.stage failed reason) later) :
    Puts path text before later false := by
  rw [writeOutput_run] at run
  split at run
  · cases run
  · rename_i failure workspace refused
    split at run
    · rename_i isFromDisk
      cases run
      exact .refused refused isFromDisk rfl rfl
    · cases run
      exact absurd rfl (writeText_confined path text _ _ _ refused failed reason)

/-- A scaffolding run in a session makes its visits, and answers the created files as they are
shown. -/
theorem scaffold_eq_ok {routes : List Route} {packageName : Text} {before later : Session}
    {created : List Text} (run : scaffold routes packageName before = .ok created later) :
    ∃ blocks last,
      Scaffold.Visits ⟨before.pipeline.settings.featuresDir, packageName⟩ before.workspace
        blocks.flatten last ∧
      List.Forall₂ (Scaffold.Covers ⟨before.pipeline.settings.featuresDir, packageName⟩)
        (if before.pipeline.settings.scaffold then routes else []) blocks ∧
      created = ((blocks.flatten.map Visit.outcome).filter Outcome.isCreated).map
        (fun outcome => before.pipeline.settings.shown outcome.path) ∧
      later.workspace.disk = last.disk ∧ later.pipeline = before.pipeline := by
  rw [scaffold, bind_of_ok (settings_run before)] at run
  cases wanted : before.pipeline.settings.scaffold with
  | false =>
      rw [wanted] at run
      cases run
      exact ⟨[], before.workspace, .nil _, .nil, rfl, rfl, rfl⟩
  | true =>
      rw [wanted] at run
      obtain ⟨outcomes, middle, acted, run⟩ := bind_eq_ok_iff.mp run
      rw [act_run] at acted
      split at acted
      · rename_i workspace ran
        cases acted
        obtain ⟨blocks, visited, rfl, shapes⟩ := Scaffold.run_visits ran
        refine ⟨blocks, workspace, visited, shapes, ?_⟩
        dsimp only at run
        split at run
        · cases run
          exact ⟨rfl, rfl, rfl⟩
        · simp only [bind_run, report_run, pure_run] at run
          cases run
          exact ⟨rfl, rfl, rfl⟩
      · cases acted

theorem scaffold_confined (routes : List Route) (packageName : Text) :
    Confined IsNoStage (scaffold routes packageName) := by
  refine settings_reads.confined.bind fun settings => ?_
  dsimp only
  split
  · refine Confined.bind (act_confined (Scaffold.run_confined fun route _ _ layer => ?_))
      fun outcomes => ?_
    · refine Scaffold.ensure_confined (fun _ _ _ => nofun) ?_ fun _ _ => nofun
      exact fun workspace failure after wrong =>
        .inr (writeText_confined _ _ workspace failure after wrong)
    · split
      · exact .pure _
      · exact (report_reads _ _).confined.bind fun _ => .pure _
  · exact .pure []

/-- What the stage of the routes does when it has its table, the options and the package name. -/
def finishRoutes (settings : Settings) (routes : List Route) (options : BuilderOptions)
    (packageName : Text) : Work RoutesResult := do
  let scaffolded ← scaffold routes packageName
  let output := settings.routerOutputPath
  writeOutput .routes output (navigationSource routes options packageName)
  say ("  Generated " ++ settings.shown output ++ " with " ++ Text.ofNat routes.length ++ " routes")
  return ⟨routes.length, some output, scaffolded⟩

theorem finishRoutes_eq_ok {settings : Settings} {routes : List Route} {options : BuilderOptions}
    {packageName : Text} {before later : Session} {result : RoutesResult}
    (run : finishRoutes settings routes options packageName before = .ok result later) :
    ∃ created middle, scaffold routes packageName before = .ok created middle ∧
      Puts settings.routerOutputPath (navigationSource routes options packageName) middle later
        true ∧
      result = ⟨routes.length, some settings.routerOutputPath, created⟩ := by
  obtain ⟨created, middle, scaffolded, run⟩ := bind_eq_ok_iff.mp run
  obtain ⟨_, written, wrote, run⟩ := bind_eq_ok_iff.mp run
  rw [bind_of_ok (say_of_shown (settings.fault?_generatedRoutes _) written)] at run
  cases run
  exact ⟨created, middle, scaffolded, (writeOutput_eq_ok wrote).showing _, rfl⟩

theorem finishRoutes_eq_stage {settings : Settings} {routes : List Route}
    {options : BuilderOptions} {packageName reason : Text} {before later : Session} {stage : Stage}
    (failed : finishRoutes settings routes options packageName before =
      .error (.stage stage reason) later) :
    ∃ created middle, scaffold routes packageName before = .ok created middle ∧
      Puts settings.routerOutputPath (navigationSource routes options packageName) middle later
        false := by
  rcases bind_eq_error_iff.mp failed with stopped | ⟨created, middle, scaffolded, failed⟩
  · exact absurd rfl (scaffold_confined _ _ _ _ _ stopped stage reason)
  · rcases bind_eq_error_iff.mp failed with unwritten | ⟨_, written, _, failed⟩
    · exact ⟨created, middle, scaffolded, writeOutput_eq_stage unwritten⟩
    · rw [bind_of_ok (say_of_shown (settings.fault?_generatedRoutes _) written)] at failed
      cases failed

/-- What the stage of the assets does when it has the options. -/
def finishAssets (settings : Settings) (options : BuilderOptions) : Work AssetsResult := do
  let entries ← act (.collectAssets settings.assetsDir options.ignoreDirs)
  let output := settings.manifestOutputPath
  writeOutput .assets output (manifestSource entries)
  say ("  Generated " ++ settings.shown output ++ " with " ++ Text.ofNat entries.length
    ++ " assets")
  return ⟨entries.length, some output⟩

theorem finishAssets_eq_ok {settings : Settings} {options : BuilderOptions}
    {before later : Session} {result : AssetsResult}
    (run : finishAssets settings options before = .ok result later) :
    ∃ files, before.workspace.disk.list settings.assetsDir = .ok files ∧
      Puts settings.manifestOutputPath
        (manifestSource (AssetEntry.collect options.ignoreDirs files)) before later true ∧
      result = ⟨(AssetEntry.collect options.ignoreDirs files).length,
        some settings.manifestOutputPath⟩ := by
  obtain ⟨entries, middle, collected, written⟩ := bind_eq_ok_iff.mp run
  obtain ⟨files, listed, rfl, rfl⟩ := collectAssets_eq_ok collected
  obtain ⟨_, written, wrote, returned⟩ := bind_eq_ok_iff.mp written
  rw [bind_of_ok (say_of_shown (settings.fault?_generatedAssets _) written)] at returned
  cases returned
  exact ⟨files, listed, (writeOutput_eq_ok wrote).showing _, rfl⟩

theorem finishAssets_eq_stage {settings : Settings} {options : BuilderOptions}
    {before later : Session} {stage : Stage} {reason : Text}
    (failed : finishAssets settings options before = .error (.stage stage reason) later) :
    ∃ files, before.workspace.disk.list settings.assetsDir = .ok files ∧
      Puts settings.manifestOutputPath
        (manifestSource (AssetEntry.collect options.ignoreDirs files)) before later false := by
  obtain ⟨entries, middle, collected, unfinished⟩ :=
    bind_of_isEnd (act_confined (Action.collectAssets_reads _ _).confined) failed trivial
  obtain ⟨files, listed, rfl, rfl⟩ := collectAssets_eq_ok collected
  rcases bind_eq_error_iff.mp unfinished with unwritten | ⟨_, written, _, failed⟩
  · exact ⟨files, listed, writeOutput_eq_stage unwritten⟩
  · rw [bind_of_ok (say_of_shown (settings.fault?_generatedAssets _) written)] at failed
    cases failed

end Work

variable [Console] [DocumentLoader]

/-- The options that a session has, or will load. -/
def Opens (session : Session) (options : BuilderOptions) : Prop :=
  match session.pipeline.options? with
  | some known => options = known
  | none => ∃ later,
      Action.loadOptions session.pipeline.settings.builderConfigPath session.workspace =
        .ok options later

/-- The package name that a session will read. -/
def Names (session : Session) (packageName : Text) : Prop :=
  ∃ later, Action.packageName session.pipeline.settings session.workspace = .ok packageName later

theorem Opens.of_sameFile {first second : Session} {options : BuilderOptions}
    (opens : Opens first options) (known : second.pipeline.options? = first.pipeline.options?)
    (settings : second.pipeline.settings = first.pipeline.settings)
    (same : Action.SameFile first.pipeline.settings.builderConfigPath first.workspace.disk
      second.workspace.disk) : Opens second options := by
  rw [Opens] at opens ⊢
  rw [known, settings]
  cases opened : first.pipeline.options? with
  | some other =>
      rw [opened] at opens
      exact opens
  | none =>
      rw [opened] at opens
      obtain ⟨later, loaded⟩ := opens
      obtain ⟨last, loaded, _⟩ := (Action.loadOptions_parallel _).exists_ok same loaded
      exact ⟨last, loaded⟩

theorem Names.of_sameFile {first second : Session} {packageName : Text}
    (names : Names first packageName)
    (settings : second.pipeline.settings = first.pipeline.settings)
    (same : Action.SameFile first.pipeline.settings.pubspecPath first.workspace.disk
      second.workspace.disk) : Names second packageName := by
  obtain ⟨later, named⟩ := names
  obtain ⟨last, named, _⟩ := (Action.packageName_parallel _).exists_ok same named
  rw [Names, settings]
  exact ⟨last, named⟩

namespace Work

/-- A session comes from another one by reading, when it has the options at hand. -/
structure Opened (options : BuilderOptions) (before after : Session) : Prop where
  disk : after.workspace.disk = before.workspace.disk
  pipeline : after.pipeline = { before.pipeline with options? := some options }

theorem options_eq_ok {before after : Session} {options : BuilderOptions}
    (run : Work.options before = .ok options after) :
    Opens before options ∧ Opened options before after := by
  obtain ⟨⟨settings, options?, record⟩, workspace⟩ := before
  cases options? with
  | some known =>
      cases run
      exact ⟨rfl, rfl, rfl⟩
  | none =>
      obtain ⟨_, middle, answered, run⟩ := bind_eq_ok_iff.mp run
      cases answered
      obtain ⟨_, middle, answered, run⟩ := bind_eq_ok_iff.mp run
      cases answered
      obtain ⟨_, middle, loaded, run⟩ := bind_eq_ok_iff.mp run
      cases run
      rw [act_run] at loaded
      split at loaded
      · rename_i last ran
        cases loaded
        exact ⟨⟨last, ran⟩, (Action.loadOptions_reads _).keeps.of_ok ran, rfl⟩
      · cases loaded

theorem options_of_opens {before : Session} {options : BuilderOptions}
    (opens : Opens before options) :
    ∃ after, Work.options before = .ok options after ∧ Opened options before after := by
  obtain ⟨⟨settings, options?, record⟩, workspace⟩ := before
  cases options? with
  | some known =>
      cases opens
      exact ⟨_, rfl, rfl, rfl⟩
  | none =>
      obtain ⟨last, loaded⟩ := opens
      refine ⟨⟨⟨settings, some options, record⟩, last⟩, ?_, ?_, rfl⟩
      · have ran : act (.loadOptions settings.builderConfigPath)
            ⟨⟨settings, none, record⟩, workspace⟩ =
              .ok options ⟨⟨settings, none, record⟩, last⟩ := by
          rw [act_run]
          dsimp only at loaded ⊢
          rw [loaded]
        exact bind_of_ok ran
      · exact (Action.loadOptions_reads _).keeps.of_ok loaded

theorem packageName_eq_ok {before after : Session} {packageName : Text}
    (run : act (.packageName before.pipeline.settings) before = .ok packageName after) :
    Names before packageName ∧ after.workspace.disk = before.workspace.disk ∧
      after.pipeline = before.pipeline := by
  rw [act_run] at run
  split at run
  · rename_i last named
    cases run
    exact ⟨⟨last, named⟩, (Action.packageName_reads _).keeps.of_ok named, rfl⟩
  · cases run

theorem packageName_of_names {before : Session} {packageName : Text}
    (names : Names before packageName) :
    ∃ after, act (.packageName before.pipeline.settings) before = .ok packageName after ∧
      after.workspace.disk = before.workspace.disk ∧ after.pipeline = before.pipeline := by
  obtain ⟨last, named⟩ := names
  have sameDisk := (Action.packageName_reads _).keeps.of_ok named
  refine ⟨{ before with workspace := last }, ?_, sameDisk, rfl⟩
  rw [act_run, named]

theorem generateRoutes_of_empty {session : Session} {table : RouteTable}
    (loaded : TableLoaded session.workspace.disk session.pipeline.settings table)
    (empty : table.routes = []) :
    ∃ log, generateRoutes session = .ok ⟨0, none, []⟩ (session.showing log) := by
  obtain ⟨pipeline, ⟨disk, clock, log⟩⟩ := session
  have read : ∀ log, routeTable ⟨pipeline, ⟨disk, clock, log⟩⟩ =
      .ok table ⟨pipeline, ⟨disk, clock, log⟩⟩ :=
    fun _ => routeTable_of_loaded loaded
  rw [generateRoutes, bind_of_ok (settings_run _)]
  dsimp only
  rw [bind_of_ok (say_of_shown (Settings.fault?_processing _) _), bind_of_ok (read _),
    forM_report, bind_of_ok (act_run _ _), empty]
  exact ⟨_, bind_of_ok (report_run _ _ _)⟩

/-- With a table of routes, the stage takes the options and the package name, and finishes. -/
theorem generateRoutes_of_routes {session : Session} {table : RouteTable}
    (loaded : TableLoaded session.workspace.disk session.pipeline.settings table)
    (nonempty : table.routes ≠ []) :
    ∃ log, generateRoutes session = (do
      let options ← options
      let packageName ← act (.packageName session.pipeline.settings)
      finishRoutes session.pipeline.settings table.routes options packageName)
        (session.showing log) := by
  obtain ⟨pipeline, ⟨disk, clock, log⟩⟩ := session
  have read : ∀ log, routeTable ⟨pipeline, ⟨disk, clock, log⟩⟩ =
      .ok table ⟨pipeline, ⟨disk, clock, log⟩⟩ :=
    fun _ => routeTable_of_loaded loaded
  rw [generateRoutes, bind_of_ok (settings_run _)]
  dsimp only
  rw [bind_of_ok (say_of_shown (Settings.fault?_processing _) _), bind_of_ok (read _),
    forM_report, bind_of_ok (act_run _ _), List.isEmpty_eq_false_iff.mpr nonempty]
  simp only [Bool.false_eq_true, if_false]
  rw [bind_of_ok (say_of_shown (Settings.fault?_parsed _) _)]
  exact ⟨_, rfl⟩

theorem generateAssets_run (session : Session) :
    generateAssets session =
      match session.workspace.disk.isDirectory session.pipeline.settings.assetsDir with
      | .error fault => .error (.file fault) session
      | .ok true => (do
          let options ← options
          finishAssets session.pipeline.settings options) session
      | .ok false => (do
          report .warning ("  Assets directory not found: " ++
            session.pipeline.settings.shown session.pipeline.settings.assetsDir)
          return (⟨0, none⟩ : AssetsResult)) session := by
  rw [generateAssets, bind_of_ok (settings_run session)]
  dsimp only
  rw [bind_run, act_run, Action.ask_run]
  cases session.workspace.disk.isDirectory session.pipeline.settings.assetsDir with
  | error fault => rfl
  | ok isThere => cases isThere <;> rfl

theorem options_reads : Reads options := by
  refine Respects.get.bind fun session => ?_
  split
  · exact .pure _
  · refine settings_reads.bind fun settings => ?_
    refine (act_reads (Action.loadOptions_reads _)).bind fun options => ?_
    refine .bind (.modify fun _ => ?_) fun _ => .pure _
    exact ⟨rfl, rfl⟩

/-- A stage of the routes reads the options and the package name, from which its feature files and
its router are made. -/
structure RoutesRead (before : Session) (table : RouteTable) (options : BuilderOptions)
    (packageName : Text) (start : Session) : Prop where
  loaded : TableLoaded before.workspace.disk before.pipeline.settings table
  nonempty : table.routes ≠ []
  opens : Opens before options
  names : Names before packageName
  opened : Opened options before start

/-- A stage of the routes that comes to an end behind a table of routes ends as its last part. -/
theorem generateRoutes_of_isEnd {before : Session} {table : RouteTable}
    (loaded : TableLoaded before.workspace.disk before.pipeline.settings table)
    (nonempty : table.routes ≠ []) (isEnd : IsEnd (generateRoutes before)) :
    ∃ options packageName start, RoutesRead before table options packageName start ∧
      generateRoutes before =
        finishRoutes before.pipeline.settings table.routes options packageName start := by
  obtain ⟨log, goes⟩ := generateRoutes_of_routes loaded nonempty
  obtain ⟨options, read, answered, run⟩ :=
    bind_of_isEnd options_reads.confined goes.symm isEnd
  obtain ⟨opens, opened⟩ := options_eq_ok answered
  obtain ⟨packageName, start, named, run⟩ :=
    bind_of_isEnd (act_confined (Action.packageName_reads _).confined) run isEnd
  have sameSettings : read.pipeline.settings = before.pipeline.settings := by
    rw [opened.pipeline]
    rfl
  rw [← sameSettings] at named
  obtain ⟨names, sameDisk, samePipeline⟩ := packageName_eq_ok named
  refine ⟨options, packageName, start, ⟨loaded, nonempty, ?_, ?_, ?_, ?_⟩, run.symm⟩
  · exact opens.of_sameFile rfl rfl (.rfl _ _)
  · refine names.of_sameFile sameSettings.symm ?_
    rw [opened.disk]
    exact .rfl _ _
  · exact sameDisk.trans opened.disk
  · exact samePipeline.trans opened.pipeline

/-- A stage of the routes that is completed has found no routes, or has written its router. -/
theorem generateRoutes_eq_ok {before later : Session} {result : RoutesResult}
    (run : generateRoutes before = .ok result later) :
    (∃ table, TableLoaded before.workspace.disk before.pipeline.settings table ∧
        table.routes = [] ∧ result = ⟨0, none, []⟩ ∧ ∃ log, later = before.showing log) ∨
      ∃ table options packageName start created middle,
        RoutesRead before table options packageName start ∧
        scaffold table.routes packageName start = .ok created middle ∧
        Puts before.pipeline.settings.routerOutputPath
          (navigationSource table.routes options packageName) middle later true ∧
        result = ⟨table.routes.length, some before.pipeline.settings.routerOutputPath,
          created⟩ := by
  rcases tableRefused_or_loaded before.workspace.disk before.pipeline.settings with
    refused | ⟨table, loaded⟩
  · obtain ⟨_, _, failed, _⟩ := generateRoutes_of_refused refused
    rw [failed] at run
    cases run
  · by_cases empty : table.routes = []
    · obtain ⟨log, ended⟩ := generateRoutes_of_empty loaded empty
      rw [ended] at run
      cases run
      exact .inl ⟨table, loaded, empty, rfl, log, rfl⟩
    · obtain ⟨options, packageName, start, read, goes⟩ :=
        generateRoutes_of_isEnd loaded empty (run ▸ trivial)
      rw [goes] at run
      exact .inr ⟨table, options, packageName, start, (finishRoutes_eq_ok run).imp fun _ =>
        .imp fun _ ended => ⟨read, ended⟩⟩

/-- A stage of the routes that fails has been refused its table, or its router. -/
theorem generateRoutes_eq_stage {before later : Session} {stage : Stage} {reason : Text}
    (failed : generateRoutes before = .error (.stage stage reason) later) :
    TableRefused before.workspace.disk before.pipeline.settings ∨
      ∃ table options packageName start created middle,
        RoutesRead before table options packageName start ∧
        scaffold table.routes packageName start = .ok created middle ∧
        Puts before.pipeline.settings.routerOutputPath
          (navigationSource table.routes options packageName) middle later false := by
  rcases tableRefused_or_loaded before.workspace.disk before.pipeline.settings with
    refused | ⟨table, loaded⟩
  · exact .inl refused
  · by_cases empty : table.routes = []
    · obtain ⟨log, ended⟩ := generateRoutes_of_empty loaded empty
      rw [ended] at failed
      cases failed
    · obtain ⟨options, packageName, start, read, goes⟩ :=
        generateRoutes_of_isEnd loaded empty (failed ▸ trivial)
      rw [goes] at failed
      exact .inr ⟨table, options, packageName, start, (finishRoutes_eq_stage failed).imp fun _ =>
        .imp fun _ ended => ⟨read, ended⟩⟩

/-- A stage of the assets finds its directory and reads the options. -/
structure AssetsRead (before : Session) (options : BuilderOptions) (start : Session) : Prop where
  isThere : before.workspace.disk.isDirectory before.pipeline.settings.assetsDir = .ok true
  opens : Opens before options
  opened : Opened options before start

/-- A stage of the assets that comes to an end with its directory ends as its last part. -/
theorem generateAssets_of_isEnd {before : Session}
    (isThere : before.workspace.disk.isDirectory before.pipeline.settings.assetsDir = .ok true)
    (isEnd : IsEnd (generateAssets before)) :
    ∃ options start, AssetsRead before options start ∧
      generateAssets before = finishAssets before.pipeline.settings options start := by
  have goes := generateAssets_run before
  rw [isThere] at goes
  obtain ⟨options, start, answered, run⟩ := bind_of_isEnd options_reads.confined goes.symm isEnd
  obtain ⟨opens, opened⟩ := options_eq_ok answered
  exact ⟨options, start, ⟨isThere, opens, opened⟩, run.symm⟩

/-- A stage of the assets that is completed has found no directory, or has written its constants. -/
theorem generateAssets_eq_ok {before later : Session} {result : AssetsResult}
    (run : generateAssets before = .ok result later) :
    (before.workspace.disk.isDirectory before.pipeline.settings.assetsDir = .ok false ∧
        result = ⟨0, none⟩ ∧ ∃ log, later = before.showing log) ∨
      ∃ options start files, AssetsRead before options start ∧
        start.workspace.disk.list before.pipeline.settings.assetsDir = .ok files ∧
        Puts before.pipeline.settings.manifestOutputPath
          (manifestSource (AssetEntry.collect options.ignoreDirs files)) start later true ∧
        result = ⟨(AssetEntry.collect options.ignoreDirs files).length,
          some before.pipeline.settings.manifestOutputPath⟩ := by
  cases asked : before.workspace.disk.isDirectory before.pipeline.settings.assetsDir with
  | error fault =>
      rw [generateAssets_run, asked] at run
      cases run
  | ok isThere =>
      cases isThere with
      | false =>
          rw [generateAssets_run, asked] at run
          dsimp only at run
          rw [bind_of_ok (report_run _ _ _)] at run
          cases run
          exact .inl ⟨rfl, rfl, _, rfl⟩
      | true =>
          obtain ⟨options, start, read, goes⟩ := generateAssets_of_isEnd asked (run ▸ trivial)
          rw [goes] at run
          exact .inr ⟨options, start, (finishAssets_eq_ok run).imp fun _ ended => ⟨read, ended⟩⟩

/-- A stage of the assets that fails has been refused its output. -/
theorem generateAssets_eq_stage {before later : Session} {stage : Stage} {reason : Text}
    (failed : generateAssets before = .error (.stage stage reason) later) :
    ∃ options start files, AssetsRead before options start ∧
      start.workspace.disk.list before.pipeline.settings.assetsDir = .ok files ∧
      Puts before.pipeline.settings.manifestOutputPath
        (manifestSource (AssetEntry.collect options.ignoreDirs files)) start later false := by
  cases asked : before.workspace.disk.isDirectory before.pipeline.settings.assetsDir with
  | error fault =>
      rw [generateAssets_run, asked] at failed
      cases failed
  | ok isThere =>
      cases isThere with
      | false =>
          rw [generateAssets_run, asked] at failed
          dsimp only at failed
          rw [bind_of_ok (report_run _ _ _)] at failed
          cases failed
      | true =>
          obtain ⟨options, start, read, goes⟩ :=
            generateAssets_of_isEnd asked (failed ▸ trivial)
          rw [goes] at failed
          exact ⟨options, start, (finishAssets_eq_stage failed).imp fun _ ended => ⟨read, ended⟩⟩

end Work

end DartRoutes
