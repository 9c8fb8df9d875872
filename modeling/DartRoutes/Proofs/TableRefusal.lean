import DartRoutes.Proofs.ShownText

/-!
# Refused route tables

The stage of the routes stops before it has changed anything if the file of the route table is
missing, cannot be read, is no text, or names a page wrongly. A run does not go on to other stages
then.
-/

namespace DartRoutes

open Effect

/-- The route table of a project cannot be had. -/
inductive TableRefused (disk : Disk) (settings : Settings) : Prop where
  | missing :
      disk.pathExists settings.routeConfigPath = .ok false →
      TableRefused disk settings
  | unreadable {fault : FileFault} :
      disk.read settings.routeConfigPath = .error fault →
      fault.isFromDisk = true →
      TableRefused disk settings
  | undecodable {content : Bytes} {fault : Utf8Fault} :
      disk.read settings.routeConfigPath = .ok content →
      Utf8.decode content = .error fault →
      TableRefused disk settings
  | misnamed {content : Bytes} {text : Text} {fault : NamingFault} :
      disk.read settings.routeConfigPath = .ok content →
      Utf8.decode content = .ok text →
      RouteTable.parse text.withLineFeeds settings.tableName = .error fault →
      TableRefused disk settings

/-- The file of the route table holds a table. -/
inductive TableLoaded (disk : Disk) (settings : Settings) (table : RouteTable) : Prop where
  | parsed {content : Bytes} {text : Text} :
      disk.read settings.routeConfigPath = .ok content →
      Utf8.decode content = .ok text →
      RouteTable.parse text.withLineFeeds settings.tableName = .ok table →
      TableLoaded disk settings table

theorem TableLoaded.unique {disk : Disk} {settings : Settings} {first second : RouteTable}
    (loadedFirst : TableLoaded disk settings first)
    (loadedSecond : TableLoaded disk settings second) : first = second := by
  obtain ⟨foundFirst, decodedFirst, parsedFirst⟩ := loadedFirst
  obtain ⟨foundSecond, decodedSecond, parsedSecond⟩ := loadedSecond
  rw [foundFirst] at foundSecond
  cases foundSecond
  rw [decodedFirst] at decodedSecond
  cases decodedSecond
  rw [parsedFirst] at parsedSecond
  cases parsedSecond
  rfl

theorem Disk.pathExists_eq_error {disk : Disk} {path : Path} {fault : FileFault}
    (refused : disk.pathExists path = .error fault) : fault = ⟨.nameTooLong, path⟩ := by
  rw [pathExists] at refused
  cases found : disk.find? path with
  | ok tree? =>
      rw [found] at refused
      cases refused
  | error other =>
      rw [found] at refused
      cases refused
      exact find?_eq_error found

theorem Disk.pathExists_of_read_eq_ok {disk : Disk} {path : Path} {content : Bytes}
    (found : disk.read path = .ok content) : disk.pathExists path = .ok true := by
  rw [read] at found
  split at found
  · rename_i file
    rw [pathExists, find?, file]
    rfl
  · cases found
  · cases found

theorem Disk.pathExists_of_read_eq_error {disk : Disk} {path : Path} {fault : FileFault}
    (refused : disk.read path = .error fault) (isInvalid : fault.isFromDisk = false) :
    disk.pathExists path = .ok false := by
  rw [read] at refused
  split at refused
  · cases refused
  · cases refused
    cases isInvalid
  · rename_i kind missing
    cases refused
    cases kind with
    | nullCharacter =>
        rw [pathExists, find?, missing]
        rfl
    | _ => cases isInvalid

theorem tableRefused_or_loaded (disk : Disk) (settings : Settings) :
    TableRefused disk settings ∨ ∃ table, TableLoaded disk settings table := by
  cases found : disk.read settings.routeConfigPath with
  | error fault =>
      cases isFromDisk : fault.isFromDisk with
      | true => exact .inl (.unreadable found isFromDisk)
      | false => exact .inl (.missing (Disk.pathExists_of_read_eq_error found isFromDisk))
  | ok content =>
      cases decoded : Utf8.decode content with
      | error fault => exact .inl (.undecodable found decoded)
      | ok text =>
          cases parsed : RouteTable.parse text.withLineFeeds settings.tableName with
          | error fault => exact .inl (.misnamed found decoded parsed)
          | ok table => exact .inr ⟨table, .parsed found decoded parsed⟩

theorem TableRefused.not_loaded {disk : Disk} {settings : Settings}
    (refused : TableRefused disk settings) (table : RouteTable) :
    ¬ TableLoaded disk settings table := by
  rintro ⟨found, decoded, parsed⟩
  cases refused with
  | missing absent =>
      rw [Disk.pathExists_of_read_eq_ok found] at absent
      cases absent
  | unreadable unread _ =>
      rw [found] at unread
      cases unread
  | undecodable foundOther broken =>
      rw [found] at foundOther
      cases foundOther
      rw [decoded] at broken
      cases broken
  | misnamed foundOther decodedOther misnamed =>
      rw [found] at foundOther
      cases foundOther
      rw [decoded] at decodedOther
      cases decodedOther
      rw [parsed] at misnamed
      cases misnamed

theorem TableLoaded.of_sameProject {before after : Session} {table : RouteTable}
    (loaded : TableLoaded before.workspace.disk before.pipeline.settings table)
    (same : SameProject before after) :
    TableLoaded after.workspace.disk after.pipeline.settings table := by
  rw [same.disk, same.settings]
  exact loaded

namespace Action

theorem loadRouteTable_of_refused {workspace : Workspace} {settings : Settings}
    (refused : TableRefused workspace.disk settings) :
    ∃ failure, Work.isTableFailure failure = true ∧
      loadRouteTable settings.routeConfigPath settings.tableName workspace =
        .error failure workspace := by
  cases refused with
  | missing absent =>
      refine ⟨.noRouteConfig settings.routeConfigPath, rfl, ?_⟩
      simp [loadRouteTable, absent]
  | @unreadable fault unread isFromDisk =>
      cases asked : workspace.disk.pathExists settings.routeConfigPath with
      | error other =>
          obtain rfl := Disk.pathExists_eq_error asked
          refine ⟨.file ⟨.nameTooLong, settings.routeConfigPath⟩, rfl, ?_⟩
          simp [loadRouteTable, asked]
      | ok isThere =>
          cases isThere with
          | false =>
              refine ⟨.noRouteConfig settings.routeConfigPath, rfl, ?_⟩
              simp [loadRouteTable, asked]
          | true =>
              refine ⟨.file fault, isFromDisk, ?_⟩
              simp [loadRouteTable, asked, readText, unread]
  | @undecodable content fault found broken =>
      refine ⟨.encoding fault, rfl, ?_⟩
      simp [loadRouteTable, Disk.pathExists_of_read_eq_ok found, readText, found, broken]
  | @misnamed content text fault found decoded misnamed =>
      refine ⟨.naming fault, rfl, ?_⟩
      simp [loadRouteTable, Disk.pathExists_of_read_eq_ok found, readText, found, decoded,
        misnamed]

theorem loadRouteTable_of_loaded {workspace : Workspace} {settings : Settings}
    {table : RouteTable} (loaded : TableLoaded workspace.disk settings table) :
    loadRouteTable settings.routeConfigPath settings.tableName workspace = .ok table workspace := by
  obtain ⟨found, decoded, parsed⟩ := loaded
  simp [loadRouteTable, Disk.pathExists_of_read_eq_ok found, readText, found, decoded, parsed]

end Action

namespace Work

theorem routeTable_of_refused {session : Session}
    (refused : TableRefused session.workspace.disk session.pipeline.settings) :
    ∃ reason, routeTable session = .error (.stage .routes reason) session := by
  obtain ⟨failure, isExpected, failed⟩ := Action.loadRouteTable_of_refused refused
  refine ⟨tableReason (session.pipeline.settings.shown
    session.pipeline.settings.routeConfigPath) failure, ?_⟩
  simp [routeTable, Action.attempt_run, failed, isExpected]

theorem routeTable_of_loaded {session : Session} {table : RouteTable}
    (loaded : TableLoaded session.workspace.disk session.pipeline.settings table) :
    routeTable session = .ok table session := by
  simp [routeTable, Action.attempt_run, Action.loadRouteTable_of_loaded loaded]

theorem routeTable_eq_ok {session later : Session} {table : RouteTable}
    (read : routeTable session = .ok table later) :
    TableLoaded session.workspace.disk session.pipeline.settings table ∧ later = session := by
  rcases tableRefused_or_loaded session.workspace.disk session.pipeline.settings with
    refused | ⟨other, loaded⟩
  · obtain ⟨reason, failed⟩ := routeTable_of_refused refused
    rw [failed] at read
    cases read
  · rw [routeTable_of_loaded loaded] at read
    cases read
    exact ⟨loaded, rfl⟩

/-- The sessions have the same disk, and no stage was completed or failed in between but that of the
routes, which gave nothing. -/
structure Untouched (before after : Session) : Prop where
  project : SameProject before after
  completed : after.pipeline.record.completed = before.pipeline.record.completed
  failed : after.pipeline.record.failed.filter (· ≠ .routes) =
    before.pipeline.record.failed.filter (· ≠ .routes)
  routes : after.pipeline.record.routes? = before.pipeline.record.routes?
  assets : after.pipeline.record.assets? = before.pipeline.record.assets?
  assetsError : after.pipeline.record.assetsError? = before.pipeline.record.assetsError?

instance : Std.Refl Untouched where
  refl _ := ⟨Std.Refl.refl _, rfl, rfl, rfl, rfl, rfl⟩

instance : IsTrans Session Untouched where
  trans _ _ _ first second :=
    ⟨IsTrans.trans _ _ _ first.project second.project, second.completed.trans first.completed,
      second.failed.trans first.failed, second.routes.trans first.routes,
      second.assets.trans first.assets, second.assetsError.trans first.assetsError⟩

theorem act_untouched {α : Type} {action : Action α} (reads : action.Reads) :
    Keeps Untouched (act action) :=
  act_keeps fun session => ⟨⟨reads.keeps session.workspace, rfl⟩, rfl, rfl, rfl, rfl, rfl⟩

theorem durationSince_untouched (start : Seconds) : Keeps Untouched (durationSince start) := by
  refine (act_untouched Action.now_reads).bind fun time => ?_
  split
  · exact .pure _
  · exact .throw _

theorem note_untouched {change : RunRecord → RunRecord}
    (quiet : ∀ record, (change record).completed = record.completed ∧
      (change record).failed.filter (· ≠ .routes) = record.failed.filter (· ≠ .routes) ∧
      (change record).routes? = record.routes? ∧ (change record).assets? = record.assets? ∧
      (change record).assetsError? = record.assetsError?) : Keeps Untouched (note change) := by
  intro session
  obtain ⟨completed, failed, routes, assets, assetsError⟩ := quiet session.pipeline.record
  exact ⟨⟨rfl, rfl⟩, completed, failed, routes, assets, assetsError⟩

theorem attemptStage_of_stage {α : Type} {work : Work α} {session later : Session}
    {stage : Stage} {reason : Text} (failed : work session = .error (.stage stage reason) later) :
    attemptStage work session =
      .ok (.error (Failure.stage stage reason).message) later := by
  rw [attemptStage, map_eq_pure_bind]
  exact tryCatch_of_error (bind_of_error failed)

/-- The relation that a run keeps if it starts with the stage of the routes. -/
def UntouchedIfRefused (before after : Session) : Prop :=
  TableRefused before.workspace.disk before.pipeline.settings → Untouched before after

instance : IsTrans Session UntouchedIfRefused where
  trans _ _ _ first second := fun refused => by
    have start := first refused
    refine IsTrans.trans _ _ _ start (second ?_)
    rw [start.project.disk, start.project.settings]
    exact refused

theorem ifRefused_of_untouched {α : Type} {work : Work α} (keeps : Keeps Untouched work) :
    Keeps UntouchedIfRefused work :=
  fun session _ => keeps session

variable [Console] [DocumentLoader]

theorem generateRoutes_of_refused {session : Session}
    (refused : TableRefused session.workspace.disk session.pipeline.settings) :
    ∃ reason later, generateRoutes session = .error (.stage .routes reason) later ∧
      later.workspace.disk = session.workspace.disk ∧ later.pipeline = session.pipeline := by
  let processing : Text := "  Processing " ++ Markup.tagged "bold"
    (session.pipeline.settings.shown session.pipeline.settings.routeConfigPath)
  let noted : Session := { session with
    workspace := { session.workspace with log := session.workspace.log ++ [.note processing] } }
  have said : say processing session = .ok () noted :=
    say_of_shown session.pipeline.settings.fault?_processing session
  have stillRefused : TableRefused noted.workspace.disk noted.pipeline.settings := refused
  obtain ⟨reason, failed⟩ := routeTable_of_refused stillRefused
  refine ⟨reason, noted, ?_, rfl, rfl⟩
  rw [generateRoutes, bind_of_ok (settings_run session)]
  dsimp only
  rw [bind_of_ok said]
  exact bind_of_error failed

/-- What is done after the stage of the routes has failed. -/
def endFailedRoutes (start : Seconds) (reason : Text) : Work Bool := do
  note (·.fail .routes reason)
  report .failure
    ("Stage " ++ Stage.routes.name ++ " FAILED after " ++ (← durationSince start) ++ ": " ++ reason)
  return false

omit [DocumentLoader] in
theorem endFailedRoutes_of_ok {start : Seconds} {reason : Text} {session later : Session}
    {completed : Bool} (run : endFailedRoutes start reason session = .ok completed later) :
    completed = false := by
  obtain ⟨_, _, _, run⟩ := bind_eq_ok_iff.mp run
  obtain ⟨_, _, _, run⟩ := bind_eq_ok_iff.mp run
  obtain ⟨_, _, _, run⟩ := bind_eq_ok_iff.mp run
  cases run
  rfl

omit [DocumentLoader] in
theorem endFailedRoutes_untouched (start : Seconds) (reason : Text) :
    Keeps Untouched (endFailedRoutes start reason) := by
  refine Keeps.bind (note_untouched fun record => ?_) fun _ => ?_
  · refine ⟨rfl, ?_, rfl, rfl, rfl⟩
    simp [RunRecord.fail]
  · refine (durationSince_untouched start).bind fun duration => ?_
    exact (act_untouched (Action.report_reads _ _)).bind fun _ => .pure false

/-- A stage of the routes whose table is refused is not completed and leaves everything but its own
failure untouched. -/
theorem runStage_of_refused {session : Session}
    (refused : TableRefused session.workspace.disk session.pipeline.settings) :
    (∀ later, runStage .routes session ≠ .ok true later) ∧
      Untouched session (after (runStage .routes) session) := by
  let headed : Session := { session with
    workspace := { session.workspace with
      log := session.workspace.log ++ Stage.routes.headerEntries } }
  have shown : act (.showAll Stage.routes.headerEntries) session = .ok () headed := rfl
  obtain ⟨start, workspace, clocked, sameDisk⟩ := Action.now_eq_ok headed.workspace
  let started : Session := { headed with workspace }
  have clock : act .now headed = .ok start started := by
    rw [act_run, clocked]
  have stillRefused : TableRefused started.workspace.disk started.pipeline.settings := by
    rw [show started.workspace.disk = session.workspace.disk from sameDisk]
    exact refused
  obtain ⟨reason, stopped, failed, stoppedDisk, stoppedPipeline⟩ :=
    generateRoutes_of_refused stillRefused
  have generated : generate .routes started = .error (.stage .routes reason) stopped :=
    bind_of_error failed
  have untouched : Untouched session stopped := by
    have project : SameProject session stopped :=
      ⟨stoppedDisk.trans sameDisk, congrArg Pipeline.settings stoppedPipeline⟩
    constructor
    · exact project
    all_goals rw [stoppedPipeline]
  have run : runStage .routes session =
      endFailedRoutes start (Failure.stage .routes reason).message stopped := by
    rw [runStage, Action.header_eq, bind_of_ok shown, bind_of_ok clock, bind_of_ok (attemptStage_of_stage generated)]
    rfl
  constructor
  · intro later completed
    rw [run] at completed
    cases endFailedRoutes_of_ok completed
  · have same : after (runStage .routes) session =
        after (endFailedRoutes start (Failure.stage .routes reason).message) stopped := by
      simp only [after, run]
    rw [same]
    exact IsTrans.trans _ _ _ untouched (endFailedRoutes_untouched start _ stopped)

/-- The stages behind a stage of the routes whose table is refused are not executed. -/
theorem runStages_of_refused {session : Session} (names : List Text)
    (refused : TableRefused session.workspace.disk session.pipeline.settings) :
    runStages (Stage.routes.name :: names) session = runStages [Stage.routes.name] session ∧
      Untouched session (after (runStages (Stage.routes.name :: names)) session) := by
  obtain ⟨notCompleted, untouched⟩ := runStage_of_refused refused
  have isRoutes : Stage.ofName? Stage.routes.name = some .routes := by decide
  have run : ∀ others : List Text, runStages (Stage.routes.name :: others) session =
      runStage .routes session := by
    intro others
    rw [runStages, isRoutes]
    dsimp only
    cases ran : runStage .routes session with
    | error failure later => exact bind_of_error ran
    | ok completed later =>
        rw [bind_of_ok ran]
        cases completed with
        | true => exact absurd ran (notCompleted later)
        | false => rfl
  refine ⟨(run names).trans (run []).symm, ?_⟩
  rw [after, run names]
  exact untouched

/-- A run that starts with a stage of the routes whose table is refused leaves the disk and what the
other stages have given untouched. -/
theorem run_ifRefused (names : List Text) :
    Keeps UntouchedIfRefused (run (Stage.routes.name :: names)) := by
  refine (ifRefused_of_untouched (act_untouched Action.now_reads)).bind fun start => ?_
  refine (ifRefused_of_untouched fun session => Std.Refl.refl session).bind fun settings => ?_
  dsimp only
  refine (ifRefused_of_untouched (act_untouched (Action.ask_reads _))).bind fun root => ?_
  refine (ifRefused_of_untouched (act_untouched (Action.display_reads _ _))).bind fun _ => ?_
  refine Keeps.bind (fun session refused => (runStages_of_refused names refused).2)
    fun success => ?_
  refine Keeps.bind (ifRefused_of_untouched (note_untouched ?_)) fun _ => ?_
  · exact fun record => ⟨rfl, rfl, rfl, rfl, rfl⟩
  · refine (ifRefused_of_untouched (durationSince_untouched start)).bind fun duration => ?_
    exact ifRefused_of_untouched (note_untouched fun record => ⟨rfl, rfl, rfl, rfl, rfl⟩)

end Work

end DartRoutes
