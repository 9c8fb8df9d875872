import DartRoutes.Proofs.ProjectOutput

/-!
# Stages that have come to an end

When a stage has come to an end, its inputs are read as before, its files are settled and its output
is put. In this state the stage can be executed again and again: it ends as before and changes
nothing, unless the disk refuses to say whether a feature file is there.
-/

namespace DartRoutes

open Effect

/-- The disk says of every file that a feature page of the project is checked for whether it is
there, if such files are looked at. -/
def AnswersFeatures (disk : Disk) (settings : Settings) : Prop :=
  ∀ table, TableLoaded disk settings table → settings.scaffold = true →
    disk.AnswersLeading settings.featuresDir table.routes

theorem TableLoaded.answersFeatures_iff {disk : Disk} {settings : Settings} {table : RouteTable}
    (loaded : TableLoaded disk settings table) :
    AnswersFeatures disk settings ↔
      (settings.scaffold = true → disk.AnswersLeading settings.featuresDir table.routes) := by
  constructor
  · exact fun answers => answers table loaded
  · intro answers other loadedOther
    rw [loadedOther.unique loaded]
    exact answers

theorem TableRefused.answersFeatures {disk : Disk} {settings : Settings}
    (refused : TableRefused disk settings) : AnswersFeatures disk settings :=
  fun table loaded => absurd loaded (refused.not_loaded table)

/-- The record reports no new feature file. -/
def RunRecord.IsCalm (record : RunRecord) : Prop :=
  ∀ result, record.routes? = some result → result.scaffolded = []

/-- What stops a pipeline that works on a disk again: an answer that the disk refuses, or else the
clock. -/
inductive Interrupts (disk : Disk) (settings : Settings) : Failure → Prop where
  | refused {fault : FileFault} :
      ¬ AnswersFeatures disk settings → Interrupts disk settings (.file fault)
  | late {fault : DurationFault} :
      AnswersFeatures disk settings → Interrupts disk settings (.duration fault)

theorem Scaffold.SettledLeading.grow [Console] {scaffold : Scaffold} {before after : Disk}
    {routes : List Route} (settled : scaffold.SettledLeading before routes)
    (grows : Disk.Grows before after) : scaffold.SettledLeading after routes :=
  fun route member isFeature layer leads => (settled route member isFeature layer leads).grow grows

theorem Work.Puts.pipeline {before later : Session} {path : Path} {text : Text} {isWritten : Bool}
    (puts : Work.Puts path text before later isWritten) : later.pipeline = before.pipeline := by
  cases puts with
  | written _ _ samePipeline => exact samePipeline
  | refused _ _ _ samePipeline => exact samePipeline

/-- The end of an action in a session is that of the action in its workspace. -/
theorem Work.act_meets {session : Session} {α : Type} {action : Action α} {answers : α → Workspace → Prop}
    {fails : Failure → Workspace → Prop} (meets : Meets answers fails (action session.workspace)) :
    Meets (fun answer later => answers answer later.workspace ∧ later.pipeline = session.pipeline)
      (fun failure later => fails failure later.workspace ∧ later.pipeline = session.pipeline)
      (act action session) := by
  rw [act_run]
  cases ran : action session.workspace with
  | ok answer workspace =>
      rw [ran] at meets
      exact ⟨meets, rfl⟩
  | error failure workspace =>
      rw [ran] at meets
      exact ⟨meets, rfl⟩

variable [Console] [DocumentLoader]

/-- A pipeline has the options that are loaded from the disk. -/
def IsFaithful (session : Session) : Prop :=
  ∀ options, Opens session options ↔
    LoadsOptions session.workspace.disk session.pipeline.settings options

theorem isFaithful_of_fresh {session : Session} (fresh : session.pipeline.options? = none) :
    IsFaithful session := by
  intro options
  rw [Opens, fresh]
  constructor
  · rintro ⟨later, loaded⟩
    exact ⟨session.workspace.clock, session.workspace.log, later, loaded⟩
  · exact fun loads => loads.exists_ok rfl

theorem isFaithful_of_loaded {session : Session} {options : BuilderOptions}
    (known : session.pipeline.options? = some options)
    (loads : LoadsOptions session.workspace.disk session.pipeline.settings options) :
    IsFaithful session := by
  intro other
  rw [Opens, known]
  constructor
  · rintro rfl
    exact loads
  · exact fun loadsOther => loadsOther.unique loads

/-- Only the disk, the settings and the loaded options decide whether a pipeline is faithful. -/
theorem IsFaithful.of_same {before after : Session} (faithful : IsFaithful before)
    (project : SameProject before after)
    (options : after.pipeline.options? = before.pipeline.options?) : IsFaithful after := by
  cases known : before.pipeline.options? with
  | none => exact isFaithful_of_fresh (options.trans known)
  | some loaded =>
      refine isFaithful_of_loaded (options.trans known) ?_
      rw [project.disk, project.settings]
      refine (faithful loaded).mp ?_
      rw [Opens, known]

/-- The stage of the routes has come to an end on a disk: its table is refused or empty, or all that
it makes is there or refused for good. -/
inductive RoutesDone (disk : Disk) (settings : Settings) : Bool → Prop where
  | refused : TableRefused disk settings → RoutesDone disk settings false
  | empty {table : RouteTable} :
      TableLoaded disk settings table →
      table.routes = [] →
      RoutesDone disk settings true
  | put {table : RouteTable} {options : BuilderOptions} {packageName : Text} {isWritten : Bool} :
      TableLoaded disk settings table →
      table.routes ≠ [] →
      LoadsOptions disk settings options →
      NamesPackage disk settings packageName →
      (settings.scaffold = true →
        Scaffold.SettledLeading ⟨settings.featuresDir, packageName⟩ disk table.routes) →
      disk.IsPut settings.routerOutputPath (navigationSource table.routes options packageName)
        isWritten →
      RoutesDone disk settings isWritten

/-- The stage of the assets has come to an end on a disk: its directory is missing, or its constants
are there or refused for good. -/
inductive AssetsDone (disk : Disk) (settings : Settings) : Bool → Prop where
  | absent : disk.isDirectory settings.assetsDir = .ok false → AssetsDone disk settings true
  | put {options : BuilderOptions} {files : List Text} {isWritten : Bool} :
      disk.isDirectory settings.assetsDir = .ok true →
      LoadsOptions disk settings options →
      disk.list settings.assetsDir = .ok files →
      disk.IsPut settings.manifestOutputPath
        (manifestSource (AssetEntry.collect options.ignoreDirs files)) isWritten →
      AssetsDone disk settings isWritten

/-- A completed stage of the routes stays done when resource constants are put. -/
theorem RoutesDone.of_manifest {settings : Settings} {text : Text} {isWritten : Bool}
    {before later : Session} (done : RoutesDone before.workspace.disk settings true)
    (puts : Work.Puts settings.manifestOutputPath text before later isWritten)
    (isDefault : settings.configFile = Settings.default.configFile) :
    RoutesDone later.workspace.disk settings true := by
  have generates := puts.generates .manifest
  cases done with
  | empty loaded empty => exact .empty (loaded.of_generates generates) empty
  | put loaded nonempty loads names settled put =>
      obtain ⟨place, lies⟩ := loaded.exists_liesAt
      exact .put (loaded.of_generates generates) nonempty
        (loads.of_generates generates lies isDefault) (names.of_generates generates lies)
        (fun wanted => (settled wanted).grow generates.toGrows)
        (put.grow generates.toGrows (puts.contentAt?_router lies))

theorem RoutesDone.exists_liesAt {disk : Disk} {settings : Settings}
    (done : RoutesDone disk settings true) : ∃ place, settings.LiesAt disk place := by
  cases done with
  | empty loaded _ => exact loaded.exists_liesAt
  | put loaded _ _ _ _ _ => exact loaded.exists_liesAt

/-- A pipeline of a project works on a disk, and has not reported any new feature file. -/
structure IsAgain (disk : Disk) (settings : Settings) (session : Session) : Prop where
  disk : session.workspace.disk = disk
  settings : session.pipeline.settings = settings
  faithful : IsFaithful session
  calm : session.pipeline.record.IsCalm

def Interrupted (disk : Disk) (settings : Settings) (failure : Failure) (later : Session) : Prop :=
  Interrupts disk settings failure ∧ IsAgain disk settings later

/-- A stage ends again as it has ended before. -/
structure EndsAgain (disk : Disk) (settings : Settings) (isCompleted : Bool) {α : Type}
    (isCalm : α → Prop) (result : Except Text α) (later : Session) : Prop where
  isCompleted : result.isOk = isCompleted
  isCalm : ∀ answer, result = .ok answer → isCalm answer
  answers : AnswersFeatures disk settings
  again : IsAgain disk settings later

/-- What a completed stage answers again. -/
structure AnswersAgain (disk : Disk) (settings : Settings) (isCompleted : Bool) {α : Type}
    (isCalm : α → Prop) (answer : α) (later : Session) : Prop where
  isCompleted : isCompleted = true
  isCalm : isCalm answer
  answers : AnswersFeatures disk settings
  again : IsAgain disk settings later

/-- How a stage fails again: it is interrupted, or it has failed before. -/
inductive FailsAgain (disk : Disk) (settings : Settings) (isCompleted : Bool) :
    Failure → Session → Prop where
  | interrupted {failure : Failure} {later : Session} :
      Interrupted disk settings failure later →
      FailsAgain disk settings isCompleted failure later
  | failed {stage : Stage} {reason : Text} {later : Session} :
      isCompleted = false →
      AnswersFeatures disk settings →
      IsAgain disk settings later →
      FailsAgain disk settings isCompleted (.stage stage reason) later

/-- What is opened works on the same disk as before. -/
theorem IsAgain.of_opened {disk : Disk} {settings : Settings} {before after : Session}
    {options : BuilderOptions} (again : IsAgain disk settings before)
    (loads : LoadsOptions disk settings options) (opened : Work.Opened options before after) :
    IsAgain disk settings after where
  disk := opened.disk.trans again.disk
  settings := by
    rw [opened.pipeline]
    exact again.settings
  faithful := by
    have known : after.pipeline.options? = some options := by rw [opened.pipeline]
    refine isFaithful_of_loaded known ?_
    rw [opened.disk, opened.pipeline, again.disk, again.settings]
    exact loads
  calm := by
    rw [opened.pipeline]
    exact again.calm

theorem IsAgain.of_remains {disk : Disk} {settings : Settings} {before after : Session}
    (again : IsAgain disk settings before)
    (sameDisk : after.workspace.disk = before.workspace.disk)
    (samePipeline : after.pipeline = before.pipeline) : IsAgain disk settings after where
  disk := sameDisk.trans again.disk
  settings := (congrArg Pipeline.settings samePipeline).trans again.settings
  faithful := again.faithful.of_same ⟨sameDisk, congrArg Pipeline.settings samePipeline⟩
    (congrArg Pipeline.options? samePipeline)
  calm := by
    rw [samePipeline]
    exact again.calm

namespace Work

section First

variable {before later : Session}

/-- A stage of the routes that has put its router has come to an end. -/
theorem RoutesRead.done {table : RouteTable} {options : BuilderOptions} {packageName : Text}
    {start middle : Session} {created : List Text} {isWritten : Bool}
    (read : RoutesRead before table options packageName start)
    (scaffolded : scaffold table.routes packageName start = .ok created middle)
    (puts : Puts before.pipeline.settings.routerOutputPath
      (navigationSource table.routes options packageName) middle later isWritten)
    (faithful : IsFaithful before)
    (isDefault : before.pipeline.settings.configFile = Settings.default.configFile) :
    RoutesDone later.workspace.disk before.pipeline.settings isWritten ∧
      later.pipeline.settings = before.pipeline.settings ∧ IsFaithful later := by
  obtain ⟨place, lies⟩ := read.loaded.exists_liesAt
  obtain ⟨blocks, last, visited, covers, _, sameDisk, samePipeline⟩ := scaffold_eq_ok scaffolded
  rw [read.opened.pipeline] at visited covers
  have made : Generates before.pipeline.settings before.workspace.disk middle.workspace.disk := by
    rw [sameDisk, ← read.opened.disk]
    exact visited.generates
  have put := puts.generates .router
  have generates := IsTrans.trans _ _ _ made put
  have loads : LoadsOptions later.workspace.disk before.pipeline.settings options :=
    ((faithful options).mp read.opens).of_generates generates lies isDefault
  have names : NamesPackage later.workspace.disk before.pipeline.settings packageName := by
    obtain ⟨_, named⟩ := read.names
    exact NamesPackage.of_generates ⟨_, _, _, named⟩ generates lies
  have pipeline : later.pipeline = { before.pipeline with options? := some options } :=
    puts.pipeline.trans (samePipeline.trans read.opened.pipeline)
  refine ⟨.put (read.loaded.of_generates generates) read.nonempty loads names ?_ ?_, ?_, ?_⟩
  · intro wanted
    refine Scaffold.SettledLeading.grow ?_ put.toGrows
    rw [sameDisk]
    rw [if_pos wanted] at covers
    refine visited.settledLeading covers fun route layer => ?_
    rw [read.opened.disk]
    exact lies.isGrounded (.feature route layer)
  · exact puts.isPut ((lies.grow made.toGrows).isGrounded .router)
  · rw [pipeline]
  · have known : later.pipeline.options? = some options := by rw [pipeline]
    refine isFaithful_of_loaded known ?_
    rw [pipeline]
    exact loads

theorem attemptStage_generateRoutes_done {result : Except Text RoutesResult}
    (attempted : attemptStage generateRoutes before = .ok result later)
    (faithful : IsFaithful before)
    (isDefault : before.pipeline.settings.configFile = Settings.default.configFile) :
    RoutesDone later.workspace.disk before.pipeline.settings result.isOk ∧
      later.pipeline.settings = before.pipeline.settings ∧ IsFaithful later := by
  rcases attemptStage_eq_ok attempted with ⟨answer, rfl, ran⟩ | ⟨stage, reason, rfl, failed⟩
  · rcases generateRoutes_eq_ok ran with
      ⟨table, loaded, empty, _, log, rfl⟩ |
      ⟨table, options, packageName, start, created, middle, read, scaffolded, puts, _⟩
    · exact ⟨.empty loaded empty, rfl, faithful.of_same ⟨rfl, rfl⟩ rfl⟩
    · exact read.done scaffolded puts faithful isDefault
  · rcases generateRoutes_eq_stage failed with
      refused | ⟨table, options, packageName, start, created, middle, read, scaffolded, puts⟩
    · obtain ⟨_, stopped, refusal, sameDisk, samePipeline⟩ := generateRoutes_of_refused refused
      rw [failed] at refusal
      cases refusal
      have project : SameProject before later :=
        ⟨sameDisk, congrArg Pipeline.settings samePipeline⟩
      refine ⟨.refused ?_, project.settings, faithful.of_same project ?_⟩
      · rw [project.disk]
        exact refused
      · rw [samePipeline]
    · exact read.done scaffolded puts faithful isDefault

/-- A stage of the assets that has put its constants has come to an end, and leaves the routes
done. -/
theorem AssetsRead.done {options : BuilderOptions} {start : Session} {files : List Text}
    {isWritten : Bool} (read : AssetsRead before options start)
    (listed : start.workspace.disk.list before.pipeline.settings.assetsDir = .ok files)
    (puts : Puts before.pipeline.settings.manifestOutputPath
      (manifestSource (AssetEntry.collect options.ignoreDirs files)) start later isWritten)
    (faithful : IsFaithful before)
    (isDefault : before.pipeline.settings.configFile = Settings.default.configFile)
    (routes : RoutesDone before.workspace.disk before.pipeline.settings true) :
    AssetsDone later.workspace.disk before.pipeline.settings isWritten ∧
      RoutesDone later.workspace.disk before.pipeline.settings true := by
  have loads := (faithful options).mp read.opens
  have isThere := read.isThere
  rw [← read.opened.disk] at routes loads isThere
  obtain ⟨place, lies⟩ := routes.exists_liesAt
  have generates := puts.generates .manifest
  have same := puts.find_assets lies
  have stillThere :
      later.workspace.disk.isDirectory before.pipeline.settings.assetsDir = .ok true := by
    rw [← isThere, Disk.isDirectory, Disk.isDirectory, Disk.find?, Disk.find?, same]
  have stillListed : later.workspace.disk.list before.pipeline.settings.assetsDir = .ok files := by
    rw [← listed, Disk.list, Disk.list, Disk.find?, Disk.find?, same]
  exact ⟨.put stillThere (loads.of_generates generates lies isDefault) stillListed
    (puts.isPut (lies.isGrounded .manifest)), routes.of_manifest puts isDefault⟩

theorem attemptStage_generateAssets_done {result : Except Text AssetsResult}
    (attempted : attemptStage generateAssets before = .ok result later)
    (faithful : IsFaithful before)
    (isDefault : before.pipeline.settings.configFile = Settings.default.configFile)
    (routes : RoutesDone before.workspace.disk before.pipeline.settings true) :
    AssetsDone later.workspace.disk before.pipeline.settings result.isOk ∧
      RoutesDone later.workspace.disk before.pipeline.settings true := by
  rcases attemptStage_eq_ok attempted with ⟨answer, rfl, ran⟩ | ⟨stage, reason, rfl, failed⟩
  · rcases generateAssets_eq_ok ran with
      ⟨absent, _, log, rfl⟩ | ⟨options, start, files, read, listed, puts, _⟩
    · exact ⟨.absent absent, routes⟩
    · exact read.done listed puts faithful isDefault routes
  · obtain ⟨options, start, files, read, listed, puts⟩ := generateAssets_eq_stage failed
    exact read.done listed puts faithful isDefault routes

end First

section Again

variable {disk : Disk} {settings : Settings} {session : Session}

variable {isCompleted : Bool}

theorem attemptStage_again {α : Type} {isCalm : α → Prop} {work : Work α}
    (meets : Meets (AnswersAgain disk settings isCompleted isCalm)
      (FailsAgain disk settings isCompleted) (work session)) :
    Meets (EndsAgain disk settings isCompleted isCalm) (Interrupted disk settings)
      (attemptStage work session) := by
  rw [attemptStage_run]
  cases ran : work session with
  | ok answer later =>
      rw [ran] at meets
      refine ⟨meets.isCompleted.symm, ?_, meets.answers, meets.again⟩
      rintro _ ⟨⟩
      exact meets.isCalm
  | error failure later =>
      rw [ran] at meets
      cases meets with
      | failed failed answers again => exact ⟨failed.symm, nofun, answers, again⟩
      | interrupted interrupted =>
          obtain ⟨interrupts, again⟩ := interrupted
          cases interrupts with
          | refused unanswered => exact ⟨.refused unanswered, again⟩
          | late answers => exact ⟨.late answers, again⟩

theorem writeOutput_again {stage : Stage} {path : Path} {text : Text}
    (again : IsAgain disk settings session) (answers : AnswersFeatures disk settings)
    (put : disk.IsPut path text isCompleted) :
    Meets (fun _ later => isCompleted = true ∧ IsAgain disk settings later)
      (FailsAgain disk settings isCompleted) (writeOutput stage path text session) := by
  rw [← again.disk] at put
  cases isCompleted with
  | true =>
      rw [writeOutput_of_written put]
      exact ⟨rfl, again⟩
  | false =>
      obtain ⟨reason, log, refused⟩ := writeOutput_of_barred put
      rw [refused]
      exact .failed rfl answers (again.of_remains rfl rfl)

/-- Scaffolding settled files leaves the disk alone and creates nothing, unless the disk refuses to
say whether a file is there. -/
theorem scaffold_again {table : RouteTable} {packageName : Text}
    (again : IsAgain disk settings session) (loaded : TableLoaded disk settings table)
    (settled : settings.scaffold = true →
      Scaffold.SettledLeading ⟨settings.featuresDir, packageName⟩ disk table.routes) :
    Meets
      (fun created later => created = [] ∧ AnswersFeatures disk settings ∧
        IsAgain disk settings later)
      (FailsAgain disk settings isCompleted) (scaffold table.routes packageName session) := by
  rw [scaffold, bind_of_ok (settings_run session), again.settings, loaded.answersFeatures_iff]
  dsimp only
  cases wanted : settings.scaffold with
  | false => exact ⟨rfl, fun isWanted => absurd isWanted Bool.false_ne_true, again⟩
  | true =>
      rw [if_pos rfl]
      have visits := act_meets (Scaffold.run_again again.disk (settled wanted))
      refine (visits.imp (fun _ _ visited => visited) ?_).bind fun outcomes later visited => ?_
      · rintro failure later ⟨⟨sameDisk, ⟨fault, rfl⟩, unanswered⟩, samePipeline⟩
        refine .interrupted ⟨.refused fun answers => ?_, ?_⟩
        · exact unanswered (loaded.answersFeatures_iff.mp answers wanted)
        · exact again.of_remains (sameDisk.trans again.disk.symm) samePipeline
      · obtain ⟨⟨areOld, answers, sameDisk⟩, samePipeline⟩ := visited
        have remains := again.of_remains (sameDisk.trans again.disk.symm) samePipeline
        have none : outcomes.filter Outcome.isCreated = [] :=
          List.filter_eq_nil_iff.mpr fun outcome member => by simp [areOld outcome member]
        rw [none]
        split
        · exact ⟨rfl, fun _ => answers, remains⟩
        · rw [bind_of_ok (report_run _ _ _)]
          exact ⟨rfl, fun _ => answers, remains.of_remains rfl rfl⟩

theorem finishRoutes_again {table : RouteTable} {options : BuilderOptions} {packageName : Text}
    (again : IsAgain disk settings session) (loaded : TableLoaded disk settings table)
    (settled : settings.scaffold = true →
      Scaffold.SettledLeading ⟨settings.featuresDir, packageName⟩ disk table.routes)
    (put : disk.IsPut settings.routerOutputPath
      (navigationSource table.routes options packageName) isCompleted) :
    Meets (AnswersAgain disk settings isCompleted (·.scaffolded = []))
      (FailsAgain disk settings isCompleted)
      (finishRoutes settings table.routes options packageName session) := by
  refine (scaffold_again again loaded settled).bind fun created middle visited => ?_
  obtain ⟨rfl, answers, visited⟩ := visited
  refine (writeOutput_again visited answers put).bind fun _ written wrote => ?_
  rw [bind_of_ok (say_of_shown (settings.fault?_generatedRoutes _) written)]
  exact ⟨wrote.1, rfl, answers, wrote.2.of_remains rfl rfl⟩

/-- A stage of the routes that is done ends as before when it is executed again. -/
theorem generateRoutes_again (again : IsAgain disk settings session)
    (done : RoutesDone disk settings isCompleted) :
    Meets (AnswersAgain disk settings isCompleted (·.scaffolded = []))
      (FailsAgain disk settings isCompleted) (generateRoutes session) := by
  obtain ⟨rfl, rfl, faithful, calm⟩ := again
  have again : IsAgain session.workspace.disk session.pipeline.settings session :=
    ⟨rfl, rfl, faithful, calm⟩
  cases done with
  | refused refused =>
      obtain ⟨reason, later, failed, sameDisk, samePipeline⟩ := generateRoutes_of_refused refused
      rw [failed]
      exact .failed rfl refused.answersFeatures (again.of_remains sameDisk samePipeline)
  | @empty table loaded empty =>
      obtain ⟨log, ended⟩ := generateRoutes_of_empty loaded empty
      rw [ended]
      refine ⟨rfl, rfl, ?_, again.of_remains rfl rfl⟩
      rw [loaded.answersFeatures_iff, empty]
      exact fun _ => List.forall_mem_nil _
  | @put table options packageName _ loaded nonempty loads names settled put =>
      obtain ⟨log, goes⟩ := generateRoutes_of_routes loaded nonempty
      have shown : IsAgain session.workspace.disk session.pipeline.settings (session.showing log) :=
        again.of_remains rfl rfl
      obtain ⟨read, answered, opened⟩ := options_of_opens ((shown.faithful options).mpr loads)
      have reads := shown.of_opened loads opened
      have namesRead : Names read packageName := by
        rw [Names, reads.settings]
        exact names.exists_ok reads.disk
      obtain ⟨start, named, sameDisk, samePipeline⟩ := packageName_of_names namesRead
      rw [reads.settings] at named
      rw [goes, bind_of_ok answered, bind_of_ok named]
      exact finishRoutes_again (reads.of_remains sameDisk samePipeline) loaded settled put

/-- A stage of the assets that is done ends as before when it is executed again. -/
theorem generateAssets_again (again : IsAgain disk settings session)
    (answers : AnswersFeatures disk settings) (done : AssetsDone disk settings isCompleted) :
    Meets (AnswersAgain disk settings isCompleted (fun _ => True))
      (FailsAgain disk settings isCompleted) (generateAssets session) := by
  obtain ⟨rfl, rfl, faithful, calm⟩ := again
  have again : IsAgain session.workspace.disk session.pipeline.settings session :=
    ⟨rfl, rfl, faithful, calm⟩
  rw [generateAssets_run]
  cases done with
  | absent absent =>
      rw [absent]
      dsimp only
      rw [bind_of_ok (report_run _ _ _)]
      exact ⟨rfl, trivial, answers, again.of_remains rfl rfl⟩
  | @put options files _ isThere loads listed put =>
      obtain ⟨start, answered, opened⟩ := options_of_opens ((faithful options).mpr loads)
      have reads := again.of_opened loads opened
      rw [isThere]
      dsimp only
      rw [bind_of_ok answered]
      have collected : act (.collectAssets session.pipeline.settings.assetsDir options.ignoreDirs)
          start = .ok (AssetEntry.collect options.ignoreDirs files) start := by
        rw [act_run, Action.collectAssets, bind_run, Action.ask_run, reads.disk, listed]
        rfl
      rw [finishAssets, bind_of_ok collected]
      refine (writeOutput_again reads answers put).bind fun _ written wrote => ?_
      rw [bind_of_ok (say_of_shown (Settings.fault?_generatedAssets _ _) written)]
      exact ⟨wrote.1, trivial, answers, wrote.2.of_remains rfl rfl⟩

end Again

end Work

end DartRoutes
