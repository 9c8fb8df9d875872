import DartRoutes.CommandLine.Run
import DartRoutes.Proofs.CommandRequest
import DartRoutes.Proofs.FileKeeping
import DartRoutes.Proofs.SecondRun
import DartRoutes.Proofs.StageDisturbance

/-!
# What the command line brings about

The arguments and the environment decide which files a run may change, and the exit code says
whether they were accepted and whether every stage was completed. A run whose stages do not come to
an end fails, too, although no stage has; so does one of which the console does not show everything.
-/

namespace DartRoutes

open Effect

/-- The path is one of a file that some stages of a project may write. -/
inductive Settings.Writes (settings : Settings) (stages : List Stage) : Path → Prop where
  | output {stage : Stage} :
      stage ∈ stages →
      Writes settings stages (settings.outputPath stage)
  | feature {route : Route} (layer : Layer) :
      .routes ∈ stages →
      settings.scaffold = true →
      route.isFeature = true →
      Writes settings stages (layer.path settings.featuresDir route)

/-- No file has changed but those at the places of the given paths. -/
structure ChangesOnly (paths : Path → Prop) (before after : Disk) : Prop where
  directory : after.directory = before.directory
  elsewhere : ∀ place, (∀ path, paths path → place ≠ before.placeOf path) →
    after.tree.contentAt? place = before.tree.contentAt? place

instance (paths : Path → Prop) : Std.Refl (ChangesOnly paths) where
  refl _ := ⟨rfl, fun _ _ => rfl⟩

instance (paths : Path → Prop) : IsTrans Disk (ChangesOnly paths) where
  trans before middle after first second := by
    refine ⟨second.directory.trans first.directory, fun place apart => ?_⟩
    rw [second.elsewhere place fun path isPath => ?_, first.elsewhere place apart]
    rw [Disk.placeOf_of_directory_eq first.directory]
    exact apart path isPath

theorem changesOnly_of_writeText {paths : Path → Prop} {path : Path} (isPath : paths path)
    (text : Text) (workspace : Workspace) :
    ChangesOnly paths workspace.disk (after (Action.writeText path text) workspace).disk := by
  rcases Action.writeText_after path text workspace with same | ⟨_, content, rewritten⟩
  · exact ⟨same.directory, fun place _ => same.content place⟩
  · exact ⟨rewritten.directory, fun place apart => rewritten.elsewhere place (apart path isPath)⟩

namespace Work

/-- The stages of a project change only what they may write. -/
def WritesOnly (project : Settings) (stages : List Stage) (before after : Session) : Prop :=
  before.pipeline.settings = project →
    after.pipeline.settings = project ∧
      ChangesOnly (project.Writes stages) before.workspace.disk after.workspace.disk

variable {project : Settings} {stages : List Stage}

instance : Std.Refl (WritesOnly project stages) where
  refl _ isProject := ⟨isProject, Std.Refl.refl _⟩

instance : IsTrans Session (WritesOnly project stages) where
  trans before middle after first second := by
    intro isProject
    obtain ⟨stillProject, firstChanges⟩ := first isProject
    obtain ⟨sameProject, secondChanges⟩ := second stillProject
    exact ⟨sameProject, IsTrans.trans _ _ _ firstChanges secondChanges⟩

theorem act_writesOnly {α : Type} {action : Action α}
    (changes : Keeps (Action.Alike (ChangesOnly (project.Writes stages))) action) :
    Keeps (WritesOnly project stages) (act action) :=
  act_keeps fun session isProject => ⟨isProject, changes session.workspace⟩

theorem filterMap_ofName?_name (stages : List Stage) :
    (stages.map Stage.name).filterMap Stage.ofName? = stages := by
  have found : Stage.ofName? ∘ Stage.name = some := funext ofName?_name
  rw [List.filterMap_map, found, List.filterMap_some]

variable [Console]

theorem writesOnly_keptByParts :
    KeptByParts (· ∈ stages) (· = project) (WritesOnly project stages) where
  guarded related isProject := related isProject isProject
  reads reading := act_writesOnly reading.alike
  opens _ _ isProject := ⟨isProject, Std.Refl.refl _⟩
  scaffolds runs settings isProject wanted packageName table session _ := by
    subst isProject
    refine act_writesOnly (Scaffold.run_keeps table.routes fun route _ isFeature layer => ?_) session
    refine Scaffold.ensure_keeps (fun reads => reads.alike) fun workspace _ => ?_
    exact changesOnly_of_writeText (.feature layer runs wanted isFeature) _ workspace
  writes stage runs settings isProject text := by
    subst isProject
    refine act_writesOnly fun workspace => ?_
    rw [Action.attempt_after]
    exact changesOnly_of_writeText (.output runs) text workspace

variable [DocumentLoader]

theorem runAndTell_writesOnly (project : Settings) (stages : List Stage) :
    Keeps (WritesOnly project stages) (runAndTell stages) := by
  have parts := @writesOnly_keptByParts project stages
  have notes : ∀ change, Keeps (WritesOnly project stages) (note change) :=
    fun _ _ isProject => ⟨isProject, Std.Refl.refl _⟩
  refine (parts.run notes ?_).bind fun _ => ?_
  · rw [filterMap_ofName?_name]
    exact fun _ runs => runs
  · refine (Keeps.get.bind fun session => parts.reads (Action.summarize_reads _ _)).bind fun _ => ?_
    exact Keeps.get.bind fun session => .pure _

end Work

theorem Disk.exists_resolved_of_isDirectory {disk : Disk} {path : Path}
    (isThere : disk.isDirectory path = .ok true) : ∃ root, disk.resolve path = .ok root := by
  have checked : checkPath path = .ok () := by
    cases refused : checkPath path with
    | ok _ => rfl
    | error kind =>
        rw [isDirectory, find?, find, locate, refused] at isThere
        cases kind <;> cases isThere
  have clean : path.text.contains '\x00' = false := by
    rw [checkPath] at checked
    split at checked
    · cases checked
    · rename_i clean
      exact Bool.not_eq_true _ ▸ clean
  rw [resolve, clean]
  exact ⟨_, rfl⟩

/-- The console shows the root of a project above a run over stages, and their outputs below it. -/
structure Settings.IsShown [Console] (settings : Settings) (stages : List Stage) (disk : Disk) :
    Prop where
  panel : ∀ root, disk.resolve settings.projectRoot = .ok root →
    Console.fault? (Work.panelText root (stages.map Stage.name)) = none
  outputs : ∀ stage ∈ stages, Console.fault? (settings.outputPath stage).text = none

namespace CommandLine

/-- The code with which a run ends; a failure that nobody deals with counts as one. -/
def exitCode : EStateM.Result Failure Workspace Exit → Nat
  | .ok exit _ => exit.code
  | .error _ _ => 1

/-- An effect has come to the failure of a stage. -/
def Raises {α : Type} (ending : EStateM.Result Failure Session α) : Prop :=
  ∃ stage reason later, ending = .error (.stage stage reason) later

/-- A run fails and leaves the disk as it is. -/
def FailsAtOnce (run : Action Exit) (workspace : Workspace) : Prop :=
  exitCode (run workspace) ≠ 0 ∧ (after run workspace).disk = workspace.disk

theorem tracks_self [Console] (settings : Settings) (workspace : Workspace) :
    Tracks settings workspace.clock ⟨.ofSettings settings, workspace⟩
      ⟨.ofSettings settings, workspace⟩ :=
  ⟨Std.Refl.refl _, rfl, List.Subset.refl _, RunRecord.isShown_empty⟩

section Execute

variable [Console] [DocumentLoader] {settings : Settings} {stages : List Stage}
  {workspace : Workspace}

theorem execute_of_rooted (rooted : workspace.disk.isDirectory settings.projectRoot = .ok true) :
    execute settings stages workspace =
      match Work.runAndTell stages ⟨.ofSettings settings, workspace⟩ with
      | .ok success session => .ok (if success then .success else .failure) session.workspace
      | .error failure session => .error failure session.workspace := by
  have asked : Action.ask (·.isDirectory settings.projectRoot) workspace = .ok true workspace := by
    rw [Action.ask_run, rooted]
  have goes : execute settings stages workspace = (do
      let success ← Work.runOnce settings (Work.runAndTell stages)
      return if success then Exit.success else Exit.failure) workspace := by
    rw [execute, bind_of_ok asked]
    rfl
  cases ended : Work.runAndTell stages ⟨.ofSettings settings, workspace⟩ with
  | ok success session =>
      have told : Work.runOnce settings (Work.runAndTell stages) workspace =
          .ok success session.workspace := by
        rw [Work.runOnce, ended]
      rw [goes, bind_of_ok told]
      rfl
  | error failure session =>
      have told : Work.runOnce settings (Work.runAndTell stages) workspace =
          .error failure session.workspace := by
        rw [Work.runOnce, ended]
      rw [goes, bind_of_error told]

theorem execute_of_unrooted
    (unrooted : workspace.disk.isDirectory settings.projectRoot ≠ .ok true) :
    FailsAtOnce (execute settings stages) workspace := by
  rw [FailsAtOnce, execute]
  cases answered : workspace.disk.isDirectory settings.projectRoot with
  | error fault =>
      have asked : Action.ask (·.isDirectory settings.projectRoot) workspace =
          .error (.file fault) workspace := by
        rw [Action.ask_run, answered]
      rw [after, bind_of_error asked]
      exact ⟨Nat.one_ne_zero, rfl⟩
  | ok isDirectory =>
      cases isDirectory with
      | true => exact absurd answered unrooted
      | false =>
          have asked : Action.ask (·.isDirectory settings.projectRoot) workspace =
              .ok false workspace := by
            rw [Action.ask_run, answered]
          rw [after, bind_of_ok asked, if_neg Bool.false_ne_true, bind_run, Action.say_run]
          -- If the console refuses the message, the run fails all the same.
          cases Console.fault? (Markup.tagged "bold red" "Error:" ++ " Project root not found: " ++
            settings.projectRoot.text) with
          | none => exact ⟨Nat.one_ne_zero, rfl⟩
          | some reason => exact ⟨Nat.one_ne_zero, rfl⟩

/-- Nothing is done if the console does not show the panel above the run. -/
theorem execute_of_panel {root : Path} {reason : Text}
    (resolved : workspace.disk.resolve settings.projectRoot = .ok root)
    (refused : Console.fault? (Work.panelText root (stages.map Stage.name)) = some reason) :
    FailsAtOnce (execute settings stages) workspace := by
  by_cases rooted : workspace.disk.isDirectory settings.projectRoot = .ok true
  · obtain ⟨start, started, -, quiet, -, goes⟩ :=
      Work.runAndTell_begins stages (tracks_self settings workspace) resolved
    have stops : Work.act (.frame (Work.panelText root (stages.map Stage.name))) started =
        .error (.markup reason) started := by
      rw [Work.act_run, Action.frame, Action.display_run, List.findSome?_singleton, refused]
    rw [FailsAtOnce, after, execute_of_rooted rooted, goes, bind_of_error stops]
    exact ⟨Nat.one_ne_zero, quiet.disk⟩
  · exact execute_of_unrooted rooted

/-- Whatever comes of it, a run changes only what its stages may write. -/
theorem execute_changesOnly (settings : Settings) (stages : List Stage) (workspace : Workspace) :
    ChangesOnly (settings.Writes stages) workspace.disk
      (after (execute settings stages) workspace).disk := by
  by_cases rooted : workspace.disk.isDirectory settings.projectRoot = .ok true
  · obtain ⟨-, changes⟩ := Work.runAndTell_writesOnly settings stages
      ⟨.ofSettings settings, workspace⟩ rfl
    rw [after, execute_of_rooted rooted]
    rw [after] at changes
    generalize Work.runAndTell stages ⟨.ofSettings settings, workspace⟩ = ending at changes ⊢
    cases ending with
    | ok success session => exact changes
    | error failure session => exact changes
  · rw [(execute_of_unrooted rooted).2]
    exact Std.Refl.refl _

/-- The exit code says whether a stage has failed exactly if the stages come to an end, one after
the other. -/
theorem exitCode_execute_iff
    (rooted : workspace.disk.isDirectory settings.projectRoot = .ok true)
    (comparable : Seconds.AreComparable workspace.clock)
    (shown : settings.IsShown stages workspace.disk) :
    (exitCode (execute settings stages workspace) ≠ 0 ↔
        Raises (Work.generateEach stages ⟨.ofSettings settings, workspace⟩)) ↔
      Work.IsEnd (Work.generateEach stages ⟨.ofSettings settings, workspace⟩) := by
  obtain ⟨root, resolved⟩ := Disk.exists_resolved_of_isDirectory rooted
  have follows := Work.runAndTell_follows comparable (tracks_self settings workspace) resolved
    (shown.panel root resolved) shown.outputs
  rw [execute_of_rooted rooted]
  generalize Work.generateEach stages ⟨.ofSettings settings, workspace⟩ = alone at follows ⊢
  generalize Work.runAndTell stages ⟨.ofSettings settings, workspace⟩ = ended at follows
  cases follows with
  | completed _ =>
      refine iff_of_true (iff_of_false (fun failed => failed rfl) ?_) trivial
      rintro ⟨_, _, _, impossible⟩
      cases impossible
  | failed _ => exact iff_of_true (iff_of_true Nat.one_ne_zero ⟨_, _, _, rfl⟩) trivial
  | @stopped failure _ _ noStage _ =>
      refine iff_of_false (fun same => ?_) ?_
      · obtain ⟨stage, reason, _, ended⟩ := same.mp Nat.one_ne_zero
        cases ended
        exact noStage stage reason rfl
      · cases failure with
        | stage stage reason => exact absurd rfl (noStage stage reason)
        | _ => exact id

/-- The stage of the assets may write its constants only. -/
theorem content_of_assets {place : Place}
    (elsewhere : place ≠ workspace.disk.placeOf settings.manifestOutputPath) :
    (after (execute settings [.assets]) workspace).disk.tree.contentAt? place =
      workspace.disk.tree.contentAt? place := by
  refine (execute_changesOnly settings [.assets] workspace).elsewhere place fun path writes => ?_
  cases writes with
  | output member =>
      cases List.mem_singleton.mp member
      exact elsewhere
  | feature _ member => cases List.mem_singleton.mp member

/-- The stage of the routes writes no resource constants: their file has a name of its own. -/
theorem content_of_routes :
    (after (execute settings [.routes]) workspace).disk.tree.contentAt?
        (workspace.disk.placeOf settings.manifestOutputPath) =
      workspace.disk.tree.contentAt? (workspace.disk.placeOf settings.manifestOutputPath) := by
  have manifest : workspace.disk.placeOf settings.manifestOutputPath =
      workspace.disk.placeOf (settings.libDir.child "res") ++ [("r.g.dart" : Text)] := by
    rw [settings.manifestOutputPath_eq, Disk.placeOf_child, Disk.enter, if_neg (by decide)]
  refine (execute_changesOnly settings [.routes] workspace).elsewhere _ fun path writes => ?_
  rw [manifest]
  intro same
  -- Neither the router nor a feature file has the last name of this place.
  cases writes with
  | output member =>
      cases List.mem_singleton.mp member
      have router : workspace.disk.placeOf (settings.outputPath .routes) =
          workspace.disk.placeOf settings.libDir ++ [("router.g.dart" : Text)] := by
        rw [Settings.outputPath, settings.routerOutputPath_eq, Disk.placeOf_child, Disk.enter,
          if_neg (by decide)]
      rw [router] at same
      exact absurd (List.append_inj_right' same rfl) (by decide)
  | @feature route layer _ _ _ =>
      obtain ⟨front, name, ends, suffix⟩ :=
        layer.exists_placeOf_path settings.featuresDir route workspace.disk
      rw [ends] at same
      cases List.append_inj_right' same rfl
      cases layer <;> exact absurd suffix (by decide)

theorem content_of_unscaffolded (unscaffolded : settings.scaffold = false) {place : Place}
    (beside : place ∉ settings.outputPlaces workspace.disk) :
    (after (execute settings stages) workspace).disk.tree.contentAt? place =
      workspace.disk.tree.contentAt? place := by
  refine (execute_changesOnly settings stages workspace).elsewhere place fun path writes => ?_
  cases writes with
  | output _ =>
      intro here
      exact beside (here ▸ List.mem_map_of_mem (settings.outputPath_mem _))
  | feature _ _ wanted _ =>
      rw [unscaffolded] at wanted
      cases wanted

end Execute

/-- Scaffolding is forbidden by an argument, or by a word of the environment in any letter case. -/
def ForbidsScaffolding (environment : List (Text × Text)) (arguments : List Text) : Prop :=
  noScaffoldText ∈ arguments ∨
    ∃ value, environment.lookup ("ROUTEGEN_NO_SCAFFOLD" : Text) = some value ∧
      value.map Char.toLower ∈ Settings.yesWords

section Run

variable [Console] [DocumentLoader]

/-- How stages end when nothing else is done. -/
def stagesAlone (settings : Settings) (stages : List Stage) (workspace : Workspace) :
    EStateM.Result Failure Session Unit :=
  Work.generateEach stages ⟨.ofSettings settings, workspace⟩

variable [ArgumentRules]

/-- What accepted arguments and the settings for them say of the exit code and of the files that a
run may change. -/
structure Conforms (environment : List (Text × Text)) (arguments : List Text) (request : Request)
    (settings : Settings) (workspace : Workspace) : Prop where
  /-- Without a project root the run fails. -/
  unrooted : workspace.disk.isDirectory settings.projectRoot ≠ .ok true →
    FailsAtOnce (run environment arguments) workspace
  /-- So it does if the panel above it is not shown. -/
  panel : ∀ root reason, workspace.disk.resolve settings.projectRoot = .ok root →
    Console.fault? (Work.panelText root (request.stages.map Stage.name)) = some reason →
      FailsAtOnce (run environment arguments) workspace
  exits : workspace.disk.isDirectory settings.projectRoot = .ok true →
    Seconds.AreComparable workspace.clock →
    settings.IsShown request.stages workspace.disk →
    ((exitCode (run environment arguments workspace) ≠ 0 ↔
        Raises (stagesAlone settings request.stages workspace)) ↔
      Work.IsEnd (stagesAlone settings request.stages workspace))
  /-- The stages of an orderly project come to an end, unless a text has no encoding. -/
  ends : IsOrderly workspace.disk settings →
    Work.IsEnd (stagesAlone settings request.stages workspace) ∨
      ∃ fault later, stagesAlone settings request.stages workspace = .error (.unencodable fault) later
  assets : request.stages = [.assets] →
    ∀ place, place ≠ workspace.disk.placeOf settings.manifestOutputPath →
      (after (run environment arguments) workspace).disk.tree.contentAt? place =
        workspace.disk.tree.contentAt? place
  routes : request.stages = [.routes] →
    (after (run environment arguments) workspace).disk.tree.contentAt?
        (workspace.disk.placeOf settings.manifestOutputPath) =
      workspace.disk.tree.contentAt? (workspace.disk.placeOf settings.manifestOutputPath)
  unscaffolded : ForbidsScaffolding environment arguments →
    ∀ place, place ∉ settings.outputPlaces workspace.disk →
      (after (run environment arguments) workspace).disk.tree.contentAt? place =
        workspace.disk.tree.contentAt? place

section Runs

variable {environment : List (Text × Text)} {arguments : List Text} {request : Request}
  {settings : Settings} {workspace : Workspace}

theorem run_of_error {fault : UsageFault} (refused : Request.ofTexts arguments = .error fault) :
    run environment arguments = pure (.usage fault) := by
  rw [run, refused]

theorem run_of_request (asked : Request.ofTexts arguments = .ok (some request))
    (fits : settingsFor environment request = .ok settings) :
    run environment arguments = execute settings request.stages := by
  simp only [run, asked, fits]

theorem run_of_unfit {issues : List Issue} (asked : Request.ofTexts arguments = .ok (some request))
    (unfit : settingsFor environment request = .error issues) :
    run environment arguments = throw (.invalid issues) := by
  simp only [run, asked, unfit]

theorem exitCode_run_iff (asked : Request.ofTexts arguments = .ok (some request))
    (fits : settingsFor environment request = .ok settings)
    (rooted : workspace.disk.isDirectory settings.projectRoot = .ok true)
    (comparable : Seconds.AreComparable workspace.clock)
    (shown : settings.IsShown request.stages workspace.disk) :
    (exitCode (run environment arguments workspace) ≠ 0 ↔
        Raises (stagesAlone settings request.stages workspace)) ↔
      Work.IsEnd (stagesAlone settings request.stages workspace) := by
  rw [run_of_request asked fits, stagesAlone]
  exact exitCode_execute_iff rooted comparable shown

/-- The exit code of a run that the disk stops says that a stage has failed, although none has. -/
theorem not_exitCode_run_iff (asked : Request.ofTexts arguments = .ok (some request))
    (fits : settingsFor environment request = .ok settings)
    (rooted : workspace.disk.isDirectory settings.projectRoot = .ok true)
    (comparable : Seconds.AreComparable workspace.clock)
    (shown : settings.IsShown request.stages workspace.disk)
    (refused : isRefused (stagesAlone settings request.stages workspace) = true) :
    ¬ (exitCode (run environment arguments workspace) ≠ 0 ↔
        Raises (stagesAlone settings request.stages workspace)) := by
  intro exits
  have ended := (exitCode_run_iff asked fits rooted comparable shown).mp exits
  generalize stagesAlone settings request.stages workspace = ending at refused ended
  unfold isRefused at refused
  split at refused
  · exact ended
  · cases refused

end Runs

/--
Arguments that are refused, an environment that does not fit, a project root that is no directory, or
a panel that is not shown make a run fail before anything is changed. Otherwise the exit code says
whether a stage has failed, exactly if the stages come to an end and the console shows the project;
in an orderly project they do. The stage of the assets changes its constants only, the stage of the
routes does not change them, and where scaffolding is forbidden only the outputs are written. What
the arguments override in the environment makes no difference.
-/
theorem run_conforms (environment : List (Text × Text)) (arguments : List Text)
    (workspace : Workspace) :
    (∀ fault, Request.ofTexts arguments = .error fault →
      FailsAtOnce (run environment arguments) workspace) ∧
    ∀ request, Request.ofTexts arguments = .ok (some request) →
      (∀ issues, settingsFor environment request = .error issues →
        FailsAtOnce (run environment arguments) workspace) ∧
      (∀ settings, settingsFor environment request = .ok settings →
        Conforms environment arguments request settings workspace) ∧
      ∀ other : List (Text × Text),
        (∀ name, name ∉ request.overridden → other.lookup name = environment.lookup name) →
          run other arguments workspace = run environment arguments workspace := by
  refine ⟨fun fault refused => ?_, fun request asked => ⟨fun issues unfit => ?_,
    fun settings fits => ?_, fun other same => ?_⟩⟩
  · rw [run_of_error refused]
    exact ⟨Nat.succ_ne_zero 1, rfl⟩
  · rw [run_of_unfit asked unfit]
    exact ⟨Nat.one_ne_zero, rfl⟩
  · have goes := run_of_request asked fits
    constructor
    · rw [goes]
      exact execute_of_unrooted
    · rw [goes]
      exact fun root reason => execute_of_panel
    · exact exitCode_run_iff asked fits
    · exact fun orderly =>
        (Work.generateEach_expected orderly (Request.stages_mem asked)).isEnd_or_unencodable
    · rintro ofAssets place elsewhere
      rw [goes, ofAssets]
      exact content_of_assets elsewhere
    · intro ofRoutes
      rw [goes, ofRoutes]
      exact content_of_routes
    · intro forbids place beside
      rw [goes]
      refine content_of_unscaffolded ?_ beside
      rcases forbids with member | ⟨value, set, word⟩
      · exact scaffold_of_noScaffold fits (Request.noScaffold_of_mem asked member)
      · exact scaffold_of_word fits set word
  · simp only [run, asked, settingsFor_eq_of_lookup_eq same]

end Run

theorem areComparable_nil : Seconds.AreComparable [] := by
  intro start isStart finish isFinish
  cases List.mem_singleton.mp isStart
  cases List.mem_singleton.mp isFinish
  exact ⟨_, rfl⟩

/-- The request for the stage of the assets without scaffolding. -/
def assetsRequest : Request :=
  { Request.default with stages := [.assets], noScaffold := true }

/-- The settings for this request in an empty environment. -/
def assetsSettings : Settings :=
  { Settings.default with scaffold := false }

/-- A project with a file in its assets directory. -/
def resourceWorkspace : Workspace :=
  tableWorkspace "const routesConfig = [];\n" [("assets", .directory [("logo.png", .file [])])]

theorem generateEach_resources : passes (Work.generateEach [.assets])
    ⟨.ofSettings assetsSettings, resourceWorkspace⟩
    (fun _ later => (later.workspace.disk.tree.contentAt? ["lib", "res", "r.g.dart"]).isSome)
    = true := by
  decide +kernel

/-- The stage of the assets is asked for in an orderly project, and the exit code says that it has
not failed. -/
theorem run_conforms_resources :
    Request.ofTexts ["assets", "--no-scaffold"] = .ok (some assetsRequest) ∧
      settingsFor [] assetsRequest = .ok assetsSettings ∧
      IsOrderly resourceWorkspace.disk assetsSettings ∧
      Conforms [] ["assets", "--no-scaffold"] assetsRequest assetsSettings resourceWorkspace ∧
      exitCode (run [] ["assets", "--no-scaffold"] resourceWorkspace) = 0 := by
  have asked : Request.ofTexts ["assets", "--no-scaffold"] = .ok (some assetsRequest) := by
    decide
  have fits : settingsFor [] assetsRequest = .ok assetsSettings := by
    decide
  have orderly : IsOrderly resourceWorkspace.disk assetsSettings :=
    ⟨⟨_, [], [], _, rfl⟩, ⟨_, [], [], _, rfl⟩, by decide, fun wanted => by cases wanted⟩
  have conforms := ((run_conforms [] ["assets", "--no-scaffold"] resourceWorkspace).2 _ asked).2.1
    _ fits
  have rooted : resourceWorkspace.disk.isDirectory assetsSettings.projectRoot = .ok true := by
    decide
  have shown : assetsSettings.IsShown [.assets] resourceWorkspace.disk := by
    constructor
    · intro root resolved
      cases resolved
      decide
    · decide
  obtain ⟨_, later, ended, _⟩ := exists_ok_of_passes generateEach_resources
  have alone : stagesAlone assetsSettings assetsRequest.stages resourceWorkspace = .ok () later :=
    ended
  have exits := conforms.exits rooted areComparable_nil shown
  rw [alone] at exits
  refine ⟨asked, fits, orderly, conforms, Decidable.byContradiction fun fails => ?_⟩
  obtain ⟨_, _, _, raised⟩ := (exits.mpr trivial).mp fails
  cases raised

/-- A project with a page whose files have names that are too long, in a directory that is there. -/
def longPageWorkspace : Workspace :=
  ⟨⟨.directory [("lib", .directory [("route_config.dart", .file (Utf8.encode longTable)),
    ("features", .directory [("shop", .directory [("notes.txt", .file [])])])])], []⟩, [], []⟩

/-- The stages of such a project do not come to an end. -/
theorem isRefused_longPage :
    isRefused (stagesAlone .default Stage.all longPageWorkspace) = true := by
  decide +kernel

/-- The exit code does not always say whether a stage has failed, even if the console shows the
project and its documents can be loaded. -/
theorem not_forall_exitCode_iff :
    ¬ ∀ (environment : List (Text × Text)) (arguments : List Text) (request : Request)
        (settings : Settings) (workspace : Workspace),
      Request.ofTexts arguments = .ok (some request) →
      settingsFor environment request = .ok settings →
      workspace.disk.isDirectory settings.projectRoot = .ok true →
      Seconds.AreComparable workspace.clock →
      settings.IsShown request.stages workspace.disk →
      (∃ options, LoadsOptions workspace.disk settings options) →
      (∃ packageName, NamesPackage workspace.disk settings packageName) →
      (exitCode (run environment arguments workspace) ≠ 0 ↔
        Raises (stagesAlone settings request.stages workspace)) := by
  intro claim
  have asked : Request.ofTexts [] = .ok (some .default) := by decide
  have fits : settingsFor [] .default = .ok .default := by decide
  have rooted : longPageWorkspace.disk.isDirectory Settings.default.projectRoot = .ok true := by
    decide
  have shown : Settings.default.IsShown Stage.all longPageWorkspace.disk := by
    constructor
    · intro root resolved
      cases resolved
      decide
    · decide
  have loads : ∃ options, LoadsOptions longPageWorkspace.disk .default options :=
    ⟨_, [], [], _, rfl⟩
  have names : ∃ packageName, NamesPackage longPageWorkspace.disk .default packageName :=
    ⟨_, [], [], _, rfl⟩
  refine not_exitCode_run_iff asked fits rooted areComparable_nil shown isRefused_longPage ?_
  exact claim [] [] .default .default longPageWorkspace asked fits rooted areComparable_nil shown
    loads names

end CommandLine

end DartRoutes
