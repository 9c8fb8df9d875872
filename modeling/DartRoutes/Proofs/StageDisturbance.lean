import DartRoutes.CommandLine.Request
import DartRoutes.Proofs.StageRepeat
import DartRoutes.Proofs.StageSequence

/-!
# What disturbs a stage

A stage is stopped before its end only if a document cannot be loaded, if the disk cannot follow a
path, if the console refuses the path of a feature file, or if a text has no encoding. In an orderly
project only the last of these is left.
-/

namespace DartRoutes

open Effect

/-- The failure means that a text has no encoding. -/
def IsUnencodable (failure : Failure) : Prop :=
  ∃ fault, failure = .unencodable fault

/-- The failure is that of a stage, or it means that a text has no encoding. -/
def IsExpected (failure : Failure) : Prop :=
  (∃ stage reason, failure = .stage stage reason) ∨ IsUnencodable failure

/-- An effect has come to an answer or to an expected failure. -/
abbrev EndsExpectedly {α : Type} (ending : EStateM.Result Failure Session α) : Prop :=
  Meets (fun _ _ => True) (fun failure _ => IsExpected failure) ending

theorem EndsExpectedly.isEnd_or_unencodable {α : Type} {ending : EStateM.Result Failure Session α}
    (expected : EndsExpectedly ending) :
    Work.IsEnd ending ∨ ∃ fault later, ending = .error (.unencodable fault) later := by
  cases ending with
  | ok answer later => exact .inl trivial
  | error failure later =>
      rcases expected with ⟨stage, reason, rfl⟩ | ⟨fault, rfl⟩
      · exact .inl trivial
      · exact .inr ⟨fault, later, rfl⟩

/-- A text is written to a path without NUL characters unless the disk refuses it or it has no
encoding. -/
theorem Action.writeText_confined_of_clean {path : Path} (text : Text)
    (clean : ∀ name ∈ path.parts, '\x00' ∉ name) :
    Confined (fun failure => failure.isFromDisk ∨ IsUnencodable failure) (writeText path text) := by
  intro workspace failure later failed
  rw [writeText_run] at failed
  split at failed
  · rename_i refused
    cases failed
    exact .inl (Disk.writeDeepFile_confined _ clean _ _ _ refused).isFromDisk
  · split at failed
    · cases failed
    · cases failed
      exact .inr ⟨_, rfl⟩

theorem Settings.outputPath_clean {settings : Settings} (admits : Disk.Admits settings.assetsDir)
    (stage : Stage) : ∀ name ∈ (settings.outputPath stage).parts, '\x00' ∉ name := by
  have root : ∀ name ∈ settings.projectRoot.parts, '\x00' ∉ name := by
    intro name member
    refine admits.clean name ?_
    rw [settings.assetsDir_eq]
    exact List.mem_append_left _ member
  intro name member
  cases stage with
  | routes =>
      rw [outputPath, routerOutputPath_eq, libDir_eq] at member
      simp only [Path.child, List.mem_append, List.mem_singleton] at member
      rcases member with (inRoot | rfl) | rfl
      · exact root name inRoot
      · decide
      · decide
  | assets =>
      rw [outputPath, manifestOutputPath_eq, libDir_eq] at member
      simp only [Path.child, List.mem_append, List.mem_singleton] at member
      rcases member with ((inRoot | rfl) | rfl) | rfl
      · exact root name inRoot
      · decide
      · decide
      · decide

theorem endsExpectedly_of_confined {α : Type} {work : Work α} {session : Session}
    (confined : Confined IsExpected work) : EndsExpectedly (work session) := by
  cases run : work session with
  | ok answer later => exact trivial
  | error failure later => exact confined _ _ _ run

variable [Console]

/-- The options and the package name of a project can be loaded, the disk can follow the paths to its
assets and to the files of its feature pages, and the console shows what is said of these. -/
structure IsOrderly [DocumentLoader] (disk : Disk) (settings : Settings) : Prop where
  loads : ∃ options, LoadsOptions disk settings options
  names : ∃ packageName, NamesPackage disk settings packageName
  assets : Disk.Admits settings.assetsDir
  features : settings.scaffold = true → ∀ table, TableLoaded disk settings table →
    ∀ route ∈ table.routes, route.isFeature = true →
      (∀ layer : Layer, Disk.Admits (layer.path settings.featuresDir route)) ∧
        ∀ packageName, Scaffold.Shows ⟨settings.featuresDir, packageName⟩ route

namespace Work

variable {session : Session}

theorem writeOutput_expected {stage : Stage} {path : Path} (text : Text)
    (clean : ∀ name ∈ path.parts, '\x00' ∉ name) :
    Confined IsExpected (writeOutput stage path text) := by
  intro session failure later failed
  rw [writeOutput_run] at failed
  split at failed
  · cases failed
  · rename_i refused
    split at failed
    · cases failed
      exact .inl ⟨_, _, rfl⟩
    · rename_i notFromDisk
      cases failed
      exact .inr ((Action.writeText_confined_of_clean text clean _ _ _ refused).resolve_left
        notFromDisk)

theorem scaffold_expected {routes : List Route} (packageName : Text)
    (features : session.pipeline.settings.scaffold = true → ∀ route ∈ routes,
      route.isFeature = true →
        (∀ layer : Layer, Disk.Admits (layer.path session.pipeline.settings.featuresDir route)) ∧
          ∀ packageName,
            Scaffold.Shows ⟨session.pipeline.settings.featuresDir, packageName⟩ route) :
    EndsExpectedly (scaffold routes packageName session) := by
  rw [scaffold, bind_of_ok (settings_run session)]
  dsimp only
  split
  · rename_i wanted
    have confined : Confined IsExpected (act
        (Scaffold.run ⟨session.pipeline.settings.featuresDir, packageName⟩ routes)) := by
      refine act_confined (Scaffold.run_confined fun route member isFeature layer => ?_)
      obtain ⟨admits, shows⟩ := features wanted route member isFeature
      refine Scaffold.ensure_confined (fun disk fault refused => ?_) ?_ fun reason refused => ?_
      · obtain ⟨_, answered⟩ := (admits layer).pathExists_eq_ok disk
        rw [Scaffold.path, answered] at refused
        cases refused
      · intro workspace failure later failed
        exact (Action.writeText_confined_of_clean _ (admits layer).clean _ _ _ failed).imp_right
          .inr
      · rcases refused with refused | refused
        · cases ((shows packageName).missing layer).symm.trans refused
        · cases ((shows packageName).created layer).symm.trans refused
    refine (endsExpectedly_of_confined confined).bind fun outcomes later _ => ?_
    split
    · exact trivial
    · rw [bind_of_ok (report_run _ _ _)]
      exact trivial
  · exact trivial

variable [DocumentLoader]

theorem generateRoutes_expected {options : BuilderOptions}
    (orderly : IsOrderly session.workspace.disk session.pipeline.settings)
    (opens : Opens session options) :
    EndsExpectedly (generateRoutes session) := by
  rcases tableRefused_or_loaded session.workspace.disk session.pipeline.settings with
    refused | ⟨table, loaded⟩
  · obtain ⟨_, _, failed, _⟩ := generateRoutes_of_refused refused
    rw [failed]
    exact .inl ⟨_, _, rfl⟩
  · by_cases empty : table.routes = []
    · obtain ⟨_, ended⟩ := generateRoutes_of_empty loaded empty
      rw [ended]
      exact trivial
    · obtain ⟨log, goes⟩ := generateRoutes_of_routes loaded empty
      have stillOpens : Opens (session.showing log) options :=
        opens.of_sameFile rfl rfl (.rfl _ _)
      obtain ⟨read, answered, opened⟩ := options_of_opens stillOpens
      have sameSettings : read.pipeline.settings = session.pipeline.settings := by
        rw [opened.pipeline]
        rfl
      obtain ⟨packageName, names⟩ := orderly.names
      obtain ⟨_, named⟩ := names.exists_ok opened.disk
      rw [← sameSettings] at named
      obtain ⟨start, named, _, samePipeline⟩ := packageName_of_names ⟨_, named⟩
      rw [sameSettings] at named
      have startSettings : start.pipeline.settings = session.pipeline.settings :=
        (congrArg Pipeline.settings samePipeline).trans sameSettings
      rw [goes, bind_of_ok answered, bind_of_ok named]
      have features := orderly.features
      rw [← startSettings] at features
      refine (scaffold_expected packageName fun wanted => ?_).bind fun created middle _ => ?_
      · exact features wanted table (startSettings ▸ loaded)
      · refine Meets.bind (endsExpectedly_of_confined ?_) fun _ written _ => ?_
        · exact writeOutput_expected _ (Settings.outputPath_clean orderly.assets .routes)
        · rw [bind_of_ok (say_of_shown (Settings.fault?_generatedRoutes _ _) written)]
          exact trivial

theorem generateRoutes_opens {before later : Session} {options : BuilderOptions}
    {result : RoutesResult} (run : generateRoutes before = .ok result later)
    (opens : Opens before options) :
    (∃ options, Opens later options) ∧ later.pipeline.settings = before.pipeline.settings := by
  rcases generateRoutes_eq_ok run with
    ⟨_, _, _, _, log, rfl⟩ | ⟨_, known, _, start, _, _, read, scaffolded, puts, _⟩
  · exact ⟨⟨options, opens.of_sameFile rfl rfl (.rfl _ _)⟩, rfl⟩
  · obtain ⟨_, _, _, _, _, _, samePipeline⟩ := scaffold_eq_ok scaffolded
    have pipeline : later.pipeline = { before.pipeline with options? := some known } :=
      puts.pipeline.trans (samePipeline.trans read.opened.pipeline)
    refine ⟨⟨known, ?_⟩, ?_⟩
    · rw [Opens, pipeline]
    · rw [pipeline]

theorem generateAssets_expected {options : BuilderOptions} (opens : Opens session options)
    (admits : Disk.Admits session.pipeline.settings.assetsDir) :
    EndsExpectedly (generateAssets session) := by
  obtain ⟨tree?, found⟩ := admits.find?_eq_ok session.workspace.disk
  have answers : session.workspace.disk.isDirectory session.pipeline.settings.assetsDir =
      .ok (tree?.any FileTree.isDirectory) := by
    rw [Disk.isDirectory, found]
    rfl
  rw [generateAssets_run, answers]
  cases tree?.any FileTree.isDirectory with
  | false =>
      dsimp only
      rw [bind_of_ok (report_run _ _ _)]
      exact trivial
  | true =>
      obtain ⟨start, answered, opened⟩ := options_of_opens opens
      dsimp only
      rw [bind_of_ok answered, finishAssets]
      refine Meets.bind (endsExpectedly_of_confined ?_) fun entries collected _ => ?_
      · refine act_confined ((Action.ask_confined fun disk fault refused => ?_).bind
          fun _ => .pure _)
        obtain ⟨listed?, listed⟩ := admits.find?_eq_ok disk
        rw [Disk.list, listed] at refused
        cases refused
      · refine Meets.bind (endsExpectedly_of_confined ?_) fun _ written _ => ?_
        · exact writeOutput_expected _ (Settings.outputPath_clean admits .assets)
        · rw [bind_of_ok (say_of_shown (Settings.fault?_generatedAssets _ _) written)]
          exact trivial

theorem generate_routes_expected (ends : EndsExpectedly (generateRoutes session)) :
    EndsExpectedly (generate .routes session) :=
  ends.bind fun _ _ _ => trivial

theorem generate_assets_expected (ends : EndsExpectedly (generateAssets session)) :
    EndsExpectedly (generate .assets session) :=
  ends.bind fun _ _ _ => trivial

/-- The stages that a request can name are disturbed only by a text without an encoding, if the
project is orderly. -/
theorem generateEach_expected {settings : Settings} {workspace : Workspace} {stages : List Stage}
    (orderly : IsOrderly workspace.disk settings)
    (chosen : stages ∈ CommandLine.Request.choices.map Prod.snd) :
    EndsExpectedly (generateEach stages ⟨.ofSettings settings, workspace⟩) := by
  obtain ⟨options, loads⟩ := orderly.loads
  have opens : Opens ⟨.ofSettings settings, workspace⟩ options := loads.exists_ok rfl
  have routes : EndsExpectedly (generateRoutes ⟨.ofSettings settings, workspace⟩) :=
    generateRoutes_expected orderly opens
  have assets : EndsExpectedly (generateAssets ⟨.ofSettings settings, workspace⟩) :=
    generateAssets_expected opens orderly.assets
  have shape : stages = [.routes] ∨ stages = [.assets] ∨ stages = [.routes, .assets] := by
    simpa [CommandLine.Request.choices, Stage.all] using chosen
  rcases shape with rfl | rfl | rfl
  · exact (generate_routes_expected routes).bind fun _ _ _ => trivial
  · exact (generate_assets_expected assets).bind fun _ _ _ => trivial
  · have leaves : Meets (fun _ later => (∃ options, Opens later options) ∧
        later.pipeline.settings = settings) (fun failure _ => IsExpected failure)
        (generate .routes ⟨.ofSettings settings, workspace⟩) := by
      refine Meets.bind ?_ fun _ _ left => left
      cases run : generateRoutes ⟨.ofSettings settings, workspace⟩ with
      | ok result later => exact generateRoutes_opens run opens
      | error failure later =>
          rw [run] at routes
          exact routes
    refine leaves.bind fun _ middle left => ?_
    obtain ⟨⟨_, stillOpens⟩, sameSettings⟩ := left
    refine (generate_assets_expected ?_).bind fun _ _ _ => trivial
    exact generateAssets_expected stillOpens (sameSettings ▸ orderly.assets)

end Work

end DartRoutes
