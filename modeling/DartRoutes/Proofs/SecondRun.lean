import DartRoutes.Proofs.FileKeeping
import DartRoutes.Proofs.RunHistory
import DartRoutes.Proofs.StageRepeat

/-!
# A second run

A run that has come to its end leaves a disk on which all its stages are done. A second run, on a
pipeline of its own, changes nothing there, reports no new file and ends with the same success,
unless the disk refuses to say whether a feature file is there: a directory that the first run has
made can be the first to find a name too long.
-/

namespace DartRoutes

open Effect

theorem RunRecord.IsCalm.complete {record : RunRecord} (calm : record.IsCalm) (stage : Stage) :
    (record.complete stage).IsCalm :=
  calm

theorem RunRecord.IsCalm.fail {record : RunRecord} (calm : record.IsCalm) (stage : Stage)
    (reason : Text) : (record.fail stage reason).IsCalm := by
  cases stage <;> exact calm

theorem Disk.resolve_of_directory_eq {before after : Disk}
    (same : after.directory = before.directory) (path : Path) :
    after.resolve path = before.resolve path := by
  rw [resolve, resolve, start, start, same]

section Runs

variable [Console] [DocumentLoader]

/-- A run of all stages has come to an end on a disk, with success or without. -/
inductive RunDone (disk : Disk) (settings : Settings) : Bool → Prop where
  | stopped : RoutesDone disk settings false → RunDone disk settings false
  | ended {success : Bool} :
      RoutesDone disk settings true →
      AssetsDone disk settings success →
      RunDone disk settings success

section First

variable {before later : Session} {execution : Execution} {executions : List Execution}

/-- A stage of the routes that was executed is done on the disk that it has left. -/
theorem Performed.routesDone (performed : Performed before (execution :: executions) later)
    (ofRoutes : execution.stage = .routes) (faithful : IsFaithful before)
    (isDefault : before.pipeline.settings.configFile = Settings.default.configFile) :
    ∃ finished, RoutesDone finished.workspace.disk before.pipeline.settings execution.isCompleted ∧
      IsFaithful finished ∧ finished.pipeline.settings = before.pipeline.settings ∧
      Performed finished executions later := by
  cases performed with
  | @next _ started finished _ _ _ idle executed rest =>
      cases executed with
      | assets _ => cases ofRoutes
      | @routes _ result attempted =>
          have stillFaithful := faithful.of_same idle.toSameProject idle.options
          rw [← idle.settings] at isDefault ⊢
          obtain ⟨done, sameSettings, faithful⟩ :=
            Work.attemptStage_generateRoutes_done attempted stillFaithful isDefault
          refine ⟨finished, ?_, faithful, sameSettings, rest⟩
          cases result <;> exact done

theorem Performed.assetsDone (performed : Performed before (execution :: executions) later)
    (ofAssets : execution.stage = .assets) (faithful : IsFaithful before)
    (isDefault : before.pipeline.settings.configFile = Settings.default.configFile)
    (routes : RoutesDone before.workspace.disk before.pipeline.settings true) :
    ∃ finished, AssetsDone finished.workspace.disk before.pipeline.settings execution.isCompleted ∧
      RoutesDone finished.workspace.disk before.pipeline.settings true ∧
      Performed finished executions later := by
  cases performed with
  | @next _ started finished _ _ _ idle executed rest =>
      cases executed with
      | routes _ => cases ofAssets
      | @assets _ result attempted =>
          have stillFaithful := faithful.of_same idle.toSameProject idle.options
          rw [← idle.settings] at isDefault routes ⊢
          rw [← idle.disk] at routes
          obtain ⟨done, routes⟩ :=
            Work.attemptStage_generateAssets_done attempted stillFaithful isDefault routes
          refine ⟨finished, ?_, routes, rest⟩
          cases result <;> exact done

theorem Performed.disk_of_nil (performed : Performed before [] later) :
    later.workspace.disk = before.workspace.disk := by
  cases performed with
  | done idle => exact idle.disk

/-- A run of all stages stops at the stage of the routes or executes both. -/
theorem RunTrace.Describes.all_cases {trace : RunTrace}
    (describes : trace.Describes (Stage.all.map Stage.name) before later) :
    (∃ routes : Execution, routes.stage = .routes ∧ routes.isCompleted = false ∧
        trace.failing?.isNone = false ∧ Performed before [routes] later) ∨
      ∃ routes assets : Execution, routes.stage = .routes ∧ routes.isCompleted = true ∧
        assets.stage = .assets ∧ assets.isCompleted = trace.failing?.isNone ∧
        Performed before [routes, assets] later := by
  have known := describes.known
  have stages : (Stage.all.map Stage.name).filterMap Stage.ofName? = [.routes, .assets] := by
    decide
  rw [stages] at known
  have performed := describes.performed
  have completed := describes.completed
  have failing := describes.failing
  have unreached := describes.unreached
  obtain ⟨done, failing?, others⟩ := trace
  rw [RunTrace.executions] at known performed
  cases failing? with
  | none =>
      cases unreached rfl
      rw [Option.toList_none, List.append_nil] at known performed
      rw [List.append_nil] at known
      rcases done with _ | ⟨routes, _ | ⟨assets, _ | ⟨other, rest⟩⟩⟩
      · simp at known
      · simp at known
      · obtain ⟨ofRoutes, others⟩ := List.cons.inj known
        obtain ⟨ofAssets, _⟩ := List.cons.inj others
        obtain ⟨first, others⟩ := List.forall_mem_cons.mp completed
        exact .inr ⟨routes, assets, ofRoutes.symm, first, ofAssets.symm,
          others assets (List.mem_singleton_self _), performed⟩
      · simp at known
  | some failed =>
      have isFailed : failed.isCompleted = false := failing failed (List.mem_singleton_self _)
      rcases done with _ | ⟨routes, _ | ⟨other, rest⟩⟩
      · obtain ⟨ofRoutes, _⟩ := List.cons.inj known
        exact .inl ⟨failed, ofRoutes.symm, isFailed, rfl, performed⟩
      · obtain ⟨ofRoutes, others⟩ := List.cons.inj known
        obtain ⟨ofAssets, _⟩ := List.cons.inj others
        exact .inr ⟨routes, failed, ofRoutes.symm, completed routes (List.mem_singleton_self _),
          ofAssets.symm, isFailed, performed⟩
      · simp at known

/-- A run that comes to its end leaves a disk on which all its stages are done. -/
theorem Work.runDone_of_run {settings : Settings} {start : Workspace} {first : Session}
    (isDefault : settings.configFile = Settings.default.configFile)
    (ran : Work.run (Stage.all.map Stage.name) ⟨.ofSettings settings, start⟩ = .ok () first) :
    RunDone first.workspace.disk settings first.pipeline.record.success := by
  obtain ⟨trace, describes, succeeded⟩ := run_eq_ok ran
  rw [succeeded]
  have faithful : IsFaithful ⟨.ofSettings settings, start⟩ := isFaithful_of_fresh rfl
  rcases describes.all_cases with
    ⟨routes, ofRoutes, isFailed, hasFailed, performed⟩ |
    ⟨routes, assets, ofRoutes, isCompleted, ofAssets, ended, performed⟩
  · obtain ⟨finished, done, _, _, rest⟩ := performed.routesDone ofRoutes faithful isDefault
    rw [hasFailed, rest.disk_of_nil]
    rw [isFailed] at done
    exact .stopped done
  · obtain ⟨middle, routesDone, faithful, sameSettings, rest⟩ :=
      performed.routesDone ofRoutes faithful isDefault
    have stillDefault : middle.pipeline.settings.configFile = Settings.default.configFile := by
      rw [sameSettings]
      exact isDefault
    rw [isCompleted, ← sameSettings] at routesDone
    obtain ⟨finished, assetsDone, routesDone, rest⟩ :=
      rest.assetsDone ofAssets faithful stillDefault routesDone
    rw [← ended, rest.disk_of_nil]
    rw [sameSettings] at assetsDone routesDone
    exact .ended routesDone assetsDone

end First

/-- Entering something calm into the record leaves all else as it is. -/
theorem IsAgain.noted {disk : Disk} {settings : Settings} {session : Session} {record : RunRecord}
    (again : IsAgain disk settings session) (calm : record.IsCalm) :
    IsAgain disk settings { session with pipeline := { session.pipeline with record } } where
  disk := again.disk
  settings := again.settings
  faithful := again.faithful.of_same ⟨rfl, rfl⟩ rfl
  calm := calm

namespace Work

section Again

variable {disk : Disk} {settings : Settings} {session : Session} {isCompleted : Bool}

theorem header_again (stage : Stage) (again : IsAgain disk settings session) :
    Meets (fun _ later => IsAgain disk settings later) (Interrupted disk settings)
      (act (.header (Stage.colorOf stage.name) stage.title) session) := by
  rw [Action.header_eq]
  exact again.of_remains rfl rfl

theorem frame_again {text : Text} (shown : Console.fault? text = none)
    (again : IsAgain disk settings session) :
    Meets (fun _ later => IsAgain disk settings later) (Interrupted disk settings)
      (act (.frame text) session) := by
  rw [act_run, Action.frame, Action.display_run, List.findSome?_singleton, shown]
  exact again.of_remains rfl rfl

theorem now_again (again : IsAgain disk settings session) :
    Meets (fun _ later => IsAgain disk settings later) (Interrupted disk settings)
      (act .now session) := by
  obtain ⟨time, later, clocked, sameDisk⟩ := Action.now_eq_ok session.workspace
  rw [act_run, clocked]
  exact again.of_remains sameDisk rfl

theorem durationSince_again (start : Seconds) (again : IsAgain disk settings session)
    (answers : AnswersFeatures disk settings) :
    Meets (fun _ later => IsAgain disk settings later) (Interrupted disk settings)
      (durationSince start session) := by
  refine (now_again again).bind fun time later again => ?_
  cases Duration.between start time with
  | ok duration => exact again
  | error fault => exact ⟨.late answers, again⟩

theorem report_duration_again {start : Seconds} {tone : Tone} {text : Text → Text} {answer : Bool}
    (again : IsAgain disk settings session) (answers : AnswersFeatures disk settings) :
    Meets (fun result later => result = answer ∧ AnswersFeatures disk settings ∧
        IsAgain disk settings later) (Interrupted disk settings)
      ((do
        report tone (text (← durationSince start))
        return answer : Work Bool) session) := by
  refine (durationSince_again start again answers).bind fun duration timed again => ?_
  rw [bind_of_ok (report_run _ _ _)]
  exact ⟨rfl, answers, again.of_remains rfl rfl⟩

/-- The change of the record keeps it calm. -/
def KeepsCalm (change : RunRecord → RunRecord) : Prop :=
  ∀ record : RunRecord, record.IsCalm → (change record).IsCalm

theorem generate_routes_again (again : IsAgain disk settings session)
    (done : RoutesDone disk settings isCompleted) :
    Meets (AnswersAgain disk settings isCompleted KeepsCalm)
      (FailsAgain disk settings isCompleted) (generate .routes session) := by
  refine (generateRoutes_again again done).bind fun result later answered => ?_
  refine ⟨answered.isCompleted, fun record _ => ?_, answered.answers, answered.again⟩
  rintro _ ⟨⟩
  exact answered.isCalm

theorem generate_assets_again (again : IsAgain disk settings session)
    (answers : AnswersFeatures disk settings) (done : AssetsDone disk settings isCompleted) :
    Meets (AnswersAgain disk settings isCompleted KeepsCalm)
      (FailsAgain disk settings isCompleted) (generate .assets session) := by
  refine (generateAssets_again again answers done).bind fun result later answered => ?_
  exact ⟨answered.isCompleted, fun record calm => calm, answered.answers, answered.again⟩

/-- A stage that ends as before is recorded as before. -/
theorem runStage_again {stage : Stage} (again : IsAgain disk settings session)
    (generates : ∀ session, IsAgain disk settings session →
      Meets (AnswersAgain disk settings isCompleted KeepsCalm)
        (FailsAgain disk settings isCompleted) (generate stage session)) :
    Meets (fun completed later => completed = isCompleted ∧ AnswersFeatures disk settings ∧
        IsAgain disk settings later) (Interrupted disk settings) (runStage stage session) := by
  refine (header_again stage again).bind fun _ headed again => ?_
  refine (now_again again).bind fun start started again => ?_
  refine (attemptStage_again (generates started again)).bind fun result finished ended => ?_
  have isCompleted := ended.isCompleted
  cases result with
  | ok change =>
      cases isCompleted
      dsimp only
      rw [bind_of_ok (note_run _ _)]
      have calm := ended.isCalm change rfl _ ended.again.calm
      exact report_duration_again (ended.again.noted (calm.complete stage)) ended.answers
  | error reason =>
      cases isCompleted
      dsimp only
      rw [bind_of_ok (note_run _ _)]
      exact report_duration_again (ended.again.noted (ended.again.calm.fail stage reason))
        ended.answers

theorem runStages_again {success : Bool} (again : IsAgain disk settings session)
    (done : RunDone disk settings success) :
    Meets (fun result later => result = success ∧ AnswersFeatures disk settings ∧
        IsAgain disk settings later) (Interrupted disk settings)
      (runStages (Stage.all.map Stage.name) session) := by
  have routes : Stage.ofName? Stage.routes.name = some .routes := by decide
  have assets : Stage.ofName? Stage.assets.name = some .assets := by decide
  rw [Stage.all, List.map_cons, runStages, routes]
  dsimp only
  cases done with
  | stopped done =>
      refine (runStage_again again fun session again => generate_routes_again again done).bind
        fun completed later ended => ?_
      obtain ⟨rfl, answers, again⟩ := ended
      exact ⟨rfl, answers, again⟩
  | ended routesDone assetsDone =>
      refine (runStage_again again fun session again => generate_routes_again again routesDone).bind
        fun completed later ended => ?_
      obtain ⟨rfl, answers, again⟩ := ended
      rw [if_pos rfl, List.map_cons, runStages, assets]
      dsimp only
      refine (runStage_again again fun session again =>
        generate_assets_again again answers assetsDone).bind fun completed later ended => ?_
      obtain ⟨rfl, answers, again⟩ := ended
      cases completed with
      | true => exact ⟨rfl, answers, again⟩
      | false => exact ⟨rfl, answers, again⟩

theorem run_again {success : Bool} {root : Path} (again : IsAgain disk settings session)
    (resolved : disk.resolve settings.projectRoot = .ok root)
    (shown : Console.fault? (panelText root (Stage.all.map Stage.name)) = none)
    (done : RunDone disk settings success) :
    Meets (fun _ later => later.pipeline.record.success = success ∧ AnswersFeatures disk settings ∧
        IsAgain disk settings later) (Interrupted disk settings)
      (run (Stage.all.map Stage.name) session) := by
  refine (now_again again).bind fun start started again => ?_
  have asked : act (.ask (·.resolve started.pipeline.settings.projectRoot)) started =
      .ok root started := by
    rw [act_run, Action.ask_run, again.disk, again.settings, resolved]
  rw [bind_of_ok (settings_run started), bind_of_ok asked]
  refine (frame_again shown again).bind fun _ framed again => ?_
  refine (runStages_again again done).bind fun result finished ended => ?_
  obtain ⟨rfl, answers, again⟩ := ended
  rw [bind_of_ok (note_run _ _)]
  have calm : RunRecord.IsCalm { finished.pipeline.record with success := result } := again.calm
  have measured := durationSince_again start (again.noted calm) answers
  refine (measured.and_keeps (durationSince_quiet start)).bind fun duration later ended => ?_
  obtain ⟨again, quiet⟩ := ended
  have timed : RunRecord.IsCalm { later.pipeline.record with duration? := some duration } :=
    again.calm
  exact ⟨congrArg RunRecord.success quiet.record, answers, again.noted timed⟩

end Again

end Work

/-- A run ends with the given success, or it is the clock that stops it. -/
def EndsWith (success : Bool) : EStateM.Result Failure Session Unit → Prop
  | .ok _ later => later.pipeline.record.success = success
  | .error (.duration _) _ => True
  | .error _ _ => False

/-- A run of all stages. -/
abbrev Work.runAll : Work Unit :=
  run (Stage.all.map Stage.name)

section Second

variable {settings : Settings} {start again : Workspace} {first : Session}

/-- A run that comes to its end has found the place of the project root, and has shown it. -/
theorem Work.exists_resolved {names : List Text} {before later : Session}
    (ran : Work.run names before = .ok () later) :
    ∃ root, before.workspace.disk.resolve before.pipeline.settings.projectRoot = .ok root ∧
      Console.fault? (panelText root names) = none := by
  obtain ⟨time, started, clocked, ran⟩ := bind_eq_ok_iff.mp ran
  obtain ⟨_, _, answered, ran⟩ := bind_eq_ok_iff.mp ran
  cases answered
  obtain ⟨root, resolving, asked, ran⟩ := bind_eq_ok_iff.mp ran
  obtain ⟨_, framed, shown, _⟩ := bind_eq_ok_iff.mp ran
  have quiet := (act_quiet Action.now_reads).of_ok clocked
  rw [act_run, Action.ask_run, quiet.disk, quiet.settings] at asked
  rw [act_run, Action.frame, Action.display_run, List.findSome?_singleton] at shown
  cases resolved : before.workspace.disk.resolve before.pipeline.settings.projectRoot with
  | error fault =>
      rw [resolved] at asked
      cases asked
  | ok place =>
      rw [resolved] at asked
      cases asked
      refine ⟨root, rfl, ?_⟩
      cases refused : Console.fault? (panelText root names) with
      | none => rfl
      | some reason =>
          rw [refused] at shown
          cases shown

theorem Work.runAll_again (isDefault : settings.configFile = Settings.default.configFile)
    (ran : Work.runAll ⟨.ofSettings settings, start⟩ = .ok () first)
    (same : again.disk = first.workspace.disk) :
    Meets (fun _ later => later.pipeline.record.success = first.pipeline.record.success ∧
        AnswersFeatures first.workspace.disk settings ∧
        IsAgain first.workspace.disk settings later)
      (Interrupted first.workspace.disk settings)
      (Work.runAll ⟨.ofSettings settings, again⟩) := by
  obtain ⟨root, found, shown⟩ := Work.exists_resolved ran
  let run : StageRun := ⟨.ofSettings settings, Stage.all.map Stage.name, start.clock, start.log⟩
  have reached : run.take start.disk = first.workspace.disk := StageRun.take_of_ok ran
  have grows : Disk.Grows start.disk first.workspace.disk :=
    reached ▸ (run.generates start.disk).toGrows
  have resolved := (Disk.resolve_of_directory_eq grows.directory settings.projectRoot).trans found
  have starts : IsAgain first.workspace.disk settings ⟨.ofSettings settings, again⟩ :=
    ⟨same, rfl, isFaithful_of_fresh rfl, nofun⟩
  exact Work.run_again starts resolved shown (Work.runDone_of_run isDefault ran)

theorem endsWith_iff {disk : Disk} {success : Bool} {ending : EStateM.Result Failure Session Unit}
    (meets : Meets (fun _ later => later.pipeline.record.success = success ∧
      AnswersFeatures disk settings ∧ IsAgain disk settings later) (Interrupted disk settings)
      ending) : EndsWith success ending ↔ AnswersFeatures disk settings := by
  cases ending with
  | ok answer later =>
      obtain ⟨ended, answers, _⟩ := meets
      exact iff_of_true ended answers
  | error failure later =>
      obtain ⟨interrupts, _⟩ := meets
      cases interrupts with
      | refused unanswered => exact iff_of_false id unanswered
      | late answers => exact iff_of_true trivial answers

/--
After a run that has come to its end, a second run with a pipeline of its own leaves the disk as it
is and reports no new feature file. It ends with the success of the first one, or the clock stops
it, exactly if the disk says of every leading feature file whether it is there; a disk does so if
the names on the paths are not too long.
-/
theorem second_run_changes_nothing
    (isDefault : settings.configFile = Settings.default.configFile)
    (ran : Work.runAll ⟨.ofSettings settings, start⟩ = .ok () first)
    (same : again.disk = first.workspace.disk) :
    (after Work.runAll ⟨.ofSettings settings, again⟩).workspace.disk = first.workspace.disk ∧
      (∀ result,
        (after Work.runAll ⟨.ofSettings settings, again⟩).pipeline.record.routes? = some result →
          result.scaffolded = []) ∧
      (EndsWith first.pipeline.record.success (Work.runAll ⟨.ofSettings settings, again⟩) ↔
        AnswersFeatures first.workspace.disk settings) ∧
      ((∀ table, TableLoaded first.workspace.disk settings table →
          ∀ route ∈ table.routes, route.isFeature = true → ∀ layer ∈ Layer.leading,
            Disk.Admits (layer.path settings.featuresDir route)) →
        EndsWith first.pipeline.record.success (Work.runAll ⟨.ofSettings settings, again⟩)) := by
  have meets := Work.runAll_again isDefault ran same
  have left : IsAgain first.workspace.disk settings
      (after Work.runAll ⟨.ofSettings settings, again⟩) :=
    meets.holds_after (fun _ _ ended => ended.2.2) fun _ _ interrupted => interrupted.2
  have ends := endsWith_iff meets
  refine ⟨left.disk, left.calm, ends, fun admits => ends.mpr ?_⟩
  intro table loaded _ route member isFeature layer leads
  exact (admits table loaded route member isFeature layer leads).pathExists_eq_ok _

end Second

end Runs

/-- The project of a route table and of some files beside its sources. -/
def tableWorkspace (table : Text) (others : List (Text × FileTree)) : Workspace :=
  ⟨⟨.directory (("lib", .directory [("route_config.dart", .file (Utf8.encode table))]) :: others),
    []⟩, [], []⟩

/-- The project of a shop with a resource file. -/
def shopWorkspace : Workspace :=
  tableWorkspace shopTable [("assets", .directory [("logo.png", .file [])])]

/-- A run of all stages for a shop creates its view, the router and the resource constants. -/
theorem runAll_shop : passes Work.runAll ⟨.ofSettings .default, shopWorkspace⟩ (fun _ first =>
    first.pipeline.record.success &&
      ([["lib", "features", "shop", "shop_page.dart"], ["lib", "router.g.dart"],
        ["lib", "res", "r.g.dart"]] : List Place).all fun place =>
          (first.workspace.disk.tree.contentAt? place).isSome) = true := by
  decide +kernel

/-- A second run for a shop leaves the files alone that the first one has created. -/
theorem second_run_changes_nothing_shop :
    ∃ first, Work.runAll ⟨.ofSettings .default, shopWorkspace⟩ = .ok () first ∧
      (∀ place ∈ ([["lib", "features", "shop", "shop_page.dart"], ["lib", "router.g.dart"],
          ["lib", "res", "r.g.dart"]] : List Place),
        (first.workspace.disk.tree.contentAt? place).isSome) ∧
      (after Work.runAll ⟨.ofSettings .default, ⟨first.workspace.disk, [], []⟩⟩).workspace.disk =
        first.workspace.disk ∧
      (EndsWith true (Work.runAll ⟨.ofSettings .default, ⟨first.workspace.disk, [], []⟩⟩) ↔
        AnswersFeatures first.workspace.disk .default) := by
  obtain ⟨_, first, ran, checked⟩ := exists_ok_of_passes runAll_shop
  rw [Bool.and_eq_true, List.all_eq_true] at checked
  obtain ⟨success, areThere⟩ := checked
  have same : (⟨first.workspace.disk, [], []⟩ : Workspace).disk = first.workspace.disk := rfl
  obtain ⟨unchanged, _, ends, _⟩ := second_run_changes_nothing rfl ran same
  rw [success] at ends
  exact ⟨first, ran, areThere, unchanged, ends⟩

/-- A route table with a page whose files have names that are too long. -/
def longTable : Text :=
  "const routesConfig = [['shop', '/', '" ++ List.replicate 246 'A' ++ "Page', false]];\n"

/-- Does the disk refuse an effect? -/
def isRefused {α : Type} : EStateM.Result Failure Session α → Bool
  | .error (.file _) _ => true
  | _ => false

/-- A run that could not create the files of a page comes to its end, and the run after it does
not. -/
theorem runAll_long : passes Work.runAll ⟨.ofSettings .default, tableWorkspace longTable []⟩
    (fun _ first => isRefused
      (Work.runAll ⟨.ofSettings .default, ⟨first.workspace.disk, [], []⟩⟩)) = true := by
  decide +kernel

/-- The project of a shop whose package name has no encoding. -/
def brokenWorkspace : Workspace :=
  tableWorkspace shopTable [("pubspec.yaml", .file (Utf8.encode "name: \"\\ud800\"\n"))]

/-- The disk that a run of all stages leaves. -/
def diskAfterRun (disk : Disk) : Disk :=
  (after Work.runAll ⟨.ofSettings .default, ⟨disk, [], []⟩⟩).workspace.disk

/-- Where no text can be written, a run breaks off behind the view of a page, and the run after it
comes to the controller. -/
theorem runAll_broken :
    let place : Place := ["lib", "features", "shop", "controllers", "shop_controller.dart"]
    let first := diskAfterRun brokenWorkspace.disk
    ((first.tree.contentAt? place).isNone &&
      ((diskAfterRun first).tree.contentAt? place).isSome) = true := by
  decide +kernel

/-- A second run does not always report the success of the first one. If the first one does not come
to its end, the second one does not always leave the disk as it is. -/
theorem not_forall_second_run_ends :
    (¬ ∀ (settings : Settings) (start again : Workspace) (first : Session),
      settings.configFile = Settings.default.configFile →
      Work.runAll ⟨.ofSettings settings, start⟩ = .ok () first →
      again.disk = first.workspace.disk →
      EndsWith first.pipeline.record.success (Work.runAll ⟨.ofSettings settings, again⟩)) ∧
    ¬ ∀ (settings : Settings) (start : Workspace),
      settings.configFile = Settings.default.configFile →
      let first := (after Work.runAll ⟨.ofSettings settings, start⟩).workspace.disk
      (after Work.runAll ⟨.ofSettings settings, ⟨first, [], []⟩⟩).workspace.disk = first := by
  constructor
  · intro claim
    obtain ⟨_, first, ran, refused⟩ := exists_ok_of_passes runAll_long
    have ends := claim .default _ ⟨first.workspace.disk, [], []⟩ first rfl ran rfl
    generalize Work.runAll ⟨.ofSettings .default, ⟨first.workspace.disk, [], []⟩⟩ = ending
      at refused ends
    unfold isRefused at refused
    split at refused
    · exact ends
    · cases refused
  · intro claim
    obtain ⟨missing, created⟩ := Bool.and_eq_true_iff.mp runAll_broken
    have same : diskAfterRun (diskAfterRun brokenWorkspace.disk) =
        diskAfterRun brokenWorkspace.disk := claim .default ⟨brokenWorkspace.disk, [], []⟩ rfl
    rw [same, Option.isSome_iff_ne_none] at created
    exact created (Option.isNone_iff_eq_none.mp missing)

end DartRoutes
