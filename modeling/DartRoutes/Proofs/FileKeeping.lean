import DartRoutes.Proofs.ProjectInput
import DartRoutes.Proofs.RoutesStage
import Mathlib.Data.List.Chain

/-!
# Files that runs keep

Runs of any stages change the disk of a project move by move: a stage writes its output, or the
scaffolding looks at a file of a page and creates it if the disk denies its path. A file other than
the outputs is lost only where the scaffolding looks at a path that the disk denies although there is
a file at its place.
-/

namespace DartRoutes

open Effect

/-- What a run does, as far as the disk is concerned. -/
inductive Move where
  /-- The run starts. -/
  | start
  /-- A stage writes a text to its output. -/
  | output (stage : Stage) (text : Text)
  /-- The file of a layer of a route's page is looked at. -/
  | visit (packageName : Text) (route : Route) (layer : Layer)

/-- A moment of a run: the settings of the run, the disk, and the move that is made. -/
structure Moment where
  settings : Settings
  before : Disk
  move : Move

/-- A run of some stages: the pipeline can have run before. -/
structure StageRun where
  pipeline : Pipeline
  names : List Text
  clock : List Seconds
  log : List LogEntry

/-- The places of the files that the stages write in any case. -/
def Settings.outputPlaces (settings : Settings) (disk : Disk) : List Place :=
  settings.outputPaths.map disk.placeOf

/-- Every file of the first disk but the outputs is a file of the second one with the same
content. -/
structure KeptBeside (project : Settings) (before after : Disk) : Prop where
  directory : after.directory = before.directory
  kept : ∀ place, place ∉ project.outputPlaces before → ∀ content,
    before.tree.contentAt? place = some content → after.tree.contentAt? place = some content

theorem Settings.outputPlaces_of_directory_eq {before after : Disk}
    (same : after.directory = before.directory) (project : Settings) :
    project.outputPlaces after = project.outputPlaces before :=
  List.map_congr_left fun path _ => Disk.placeOf_of_directory_eq same path

theorem Settings.outputPaths_of_root_eq {settings project : Settings}
    (same : settings.projectRoot = project.projectRoot) :
    settings.outputPaths = project.outputPaths := by
  rw [outputPaths, routerOutputPath, manifestOutputPath, libDir, same]
  rfl

instance (project : Settings) : IsTrans Disk (KeptBeside project) where
  trans before middle after first second := by
    refine ⟨second.directory.trans first.directory, fun place apart content wasFile => ?_⟩
    refine second.kept place ?_ content (first.kept place apart content wasFile)
    rw [project.outputPlaces_of_directory_eq first.directory]
    exact apart

theorem KeptBeside.of_sameFiles {before after : Disk} (same : Disk.SameFiles before after)
    (project : Settings) : KeptBeside project before after :=
  ⟨same.directory, fun place _ _ wasFile => (same.content place).trans wasFile⟩

/-- A file that is written over is the only one that can be lost. -/
theorem keptBeside_iff_of_rewritten {project : Settings} {before after : Disk} {place : Place}
    {content : Bytes} (rewritten : Disk.Rewritten place content before after) :
    KeptBeside project before after ↔
      ((before.tree.contentAt? place).isSome → place ∉ project.outputPlaces before →
        after.tree.contentAt? place = before.tree.contentAt? place) := by
  constructor
  · intro kept isFile apart
    obtain ⟨old, wasFile⟩ := Option.isSome_iff_exists.mp isFile
    rw [wasFile, kept.kept place apart old wasFile]
  · intro spared
    refine ⟨rewritten.directory, fun other apart old wasFile => ?_⟩
    by_cases here : other = place
    · subst here
      rw [spared (by rw [wasFile]; rfl) apart, wasFile]
    · rw [rewritten.elsewhere other here, wasFile]

section Runs

variable [Console]

theorem Scaffold.ensure_disk (scaffold : Scaffold) (route : Route) (layer : Layer)
    (workspace : Workspace) :
    (after (scaffold.ensure route layer) workspace).disk =
      match workspace.disk.pathExists (scaffold.path route layer),
          Console.fault? (scaffold.missingText route layer) with
      | .ok false, none =>
          (after (Action.writeText (scaffold.path route layer) (scaffold.source route layer))
            workspace).disk
      | _, _ => workspace.disk := by
  obtain ⟨log, run⟩ := ensure_run scaffold route layer workspace
  rw [after, run]
  cases workspace.disk.pathExists (scaffold.path route layer) with
  | error fault => rfl
  | ok isThere =>
      cases isThere with
      | true => rfl
      | false =>
          cases Console.fault? (scaffold.missingText route layer) with
          | some reason => rfl
          | none =>
              dsimp only
              cases wrote : Action.writeText (scaffold.path route layer)
                (scaffold.source route layer) workspace with
              | ok answer later =>
                  rw [after_of_ok wrote]
                  cases Console.fault? (scaffold.createdText route layer) <;> rfl
              | error failure later =>
                  rw [after_of_error wrote]
                  dsimp only
                  cases failure.isFromDisk <;> rfl

namespace Moment

/-- The disk behind a moment is what the action of the move makes of the disk before it. -/
def after (moment : Moment) : Disk :=
  match moment.move with
  | .start => moment.before
  | .output stage text =>
      (Effect.after (Action.writeText (moment.settings.outputPath stage) text)
        ⟨moment.before, [], []⟩).disk
  | .visit packageName route layer =>
      (Effect.after (Scaffold.ensure ⟨moment.settings.featuresDir, packageName⟩ route layer)
        ⟨moment.before, [], []⟩).disk

/-- Files are looked at for the feature pages of the route table that is there. -/
def IsDue (moment : Moment) : Prop :=
  match moment.move with
  | .visit _ route _ =>
      moment.settings.scaffold = true ∧ route.isFeature = true ∧
        ∃ table, TableLoaded moment.before moment.settings table ∧ route ∈ table.routes
  | _ => True

/-- If a path is looked at that the disk denies although there is a file at its place, then this
file keeps its content. -/
def Spares (moment : Moment) : Prop :=
  match moment.move with
  | .visit _ route layer =>
      let path := layer.path moment.settings.featuresDir route
      moment.before.Misleads path →
        moment.before.placeOf path ∉ moment.settings.outputPlaces moment.before →
          moment.after.tree.contentAt? (moment.before.placeOf path) =
            moment.before.tree.contentAt? (moment.before.placeOf path)
  | _ => True

/-- If a path is looked at, then it does not go up. -/
def Descends (moment : Moment) : Prop :=
  match moment.move with
  | .visit _ route layer =>
      Disk.parentName ∉ (layer.path moment.settings.featuresDir route).parts
  | _ => True

end Moment

/-- The moments that lead from one disk to another, in runs whose settings are admitted. -/
inductive Moments (admitted : Settings → Prop) : Disk → List Moment → Disk → Prop where
  | nil (disk : Disk) : Moments admitted disk [] disk
  | cons {moment : Moment} {later : Disk} {moments : List Moment} :
      admitted moment.settings →
      moment.IsDue →
      Moments admitted moment.after moments later →
      Moments admitted moment.before (moment :: moments) later

/-- A visit changes no file, or writes the one at its path, which the disk denies. -/
theorem Scaffold.ensure_after (scaffold : Scaffold) (route : Route) (layer : Layer)
    (workspace : Workspace) :
    Disk.SameFiles workspace.disk (after (scaffold.ensure route layer) workspace).disk ∨
      workspace.disk.pathExists (scaffold.path route layer) = .ok false ∧
        Disk.checkPath (scaffold.path route layer) = .ok () ∧
          ∃ content, Disk.Rewritten (workspace.disk.placeOf (scaffold.path route layer)) content
            workspace.disk (after (scaffold.ensure route layer) workspace).disk := by
  have ensured := ensure_disk scaffold route layer workspace
  split at ensured
  · rename_i denied _
    rw [ensured]
    exact (Action.writeText_after _ _ workspace).imp_right fun rewritten => ⟨denied, rewritten⟩
  · rw [ensured]
    exact .inl (Std.Refl.refl workspace.disk)

namespace Moment

/-- All files but the outputs are kept exactly if the file is spared at a path that misleads. -/
theorem keptBeside_iff {project : Settings} (moment : Moment)
    (rooted : moment.settings.projectRoot = project.projectRoot) :
    KeptBeside project moment.before moment.after ↔ moment.Spares := by
  obtain ⟨settings, before, move⟩ := moment
  have samePlaces : settings.outputPlaces before = project.outputPlaces before := by
    rw [Settings.outputPlaces, Settings.outputPlaces, Settings.outputPaths_of_root_eq rooted]
  cases move with
  | start => exact iff_of_true (.of_sameFiles (Std.Refl.refl before) project) trivial
  | output stage text =>
      refine iff_of_true ?_ trivial
      rcases Action.writeText_after (settings.outputPath stage) text ⟨before, [], []⟩ with
        same | ⟨_, content, rewritten⟩
      · exact .of_sameFiles same project
      · refine (keptBeside_iff_of_rewritten rewritten).mpr fun _ apart => absurd ?_ apart
        rw [← samePlaces]
        exact List.mem_map_of_mem (settings.outputPath_mem stage)
  | visit packageName route layer =>
      rw [Spares]
      dsimp only
      rw [samePlaces]
      rcases Scaffold.ensure_after ⟨settings.featuresDir, packageName⟩ route layer
        ⟨before, [], []⟩ with same | ⟨denied, _, content, rewritten⟩
      · exact iff_of_true (.of_sameFiles same project) fun _ _ => same.content _
      · refine (keptBeside_iff_of_rewritten rewritten).trans ?_
        exact ⟨fun spared misled => spared misled.2, fun spared isFile => spared ⟨denied, isFile⟩⟩

/-- Only paths that go up mislead. -/
theorem Descends.spares {moment : Moment} (descends : moment.Descends) : moment.Spares := by
  obtain ⟨settings, before, move⟩ := moment
  cases move with
  | start => trivial
  | output stage text => trivial
  | visit packageName route layer =>
      intro misled _
      rcases Scaffold.ensure_after ⟨settings.featuresDir, packageName⟩ route layer
        ⟨before, [], []⟩ with same | ⟨_, checked, _⟩
      · exact same.content _
      · exact absurd misled (Disk.not_misleads_of_not_mem descends checked)

theorem generates (moment : Moment) :
    Generates moment.settings moment.before moment.after := by
  obtain ⟨settings, before, move⟩ := moment
  cases move with
  | start => exact Std.Refl.refl before
  | output stage text =>
      have generated : settings.Generated (settings.outputPath stage) := by
        cases stage with
        | routes => exact .router
        | assets => exact .manifest
      exact generates_of_writeText generated text ⟨before, [], []⟩
  | visit packageName route layer =>
      exact Scaffold.ensure_generates route layer ⟨before, [], []⟩

end Moment

namespace Moments

variable {admitted : Settings → Prop} {disk later : Disk} {moments : List Moment}

theorem mono {wider : Settings → Prop} (passed : Moments admitted disk moments later)
    (weaker : ∀ settings, admitted settings → wider settings) :
    Moments wider disk moments later := by
  induction passed with
  | nil disk => exact .nil disk
  | cons isAdmitted isDue _ induction => exact .cons (weaker _ isAdmitted) isDue induction

theorem append {middle : Disk} {others : List Moment} (passed : Moments admitted disk moments middle)
    (further : Moments admitted middle others later) :
    Moments admitted disk (moments ++ others) later := by
  induction passed with
  | nil _ => exact further
  | cons isAdmitted isDue _ induction => exact .cons isAdmitted isDue (induction further)

theorem exists_disks (passed : Moments admitted disk moments later) :
    ∃ others, moments.map Moment.before ++ [later] = disk :: others := by
  cases passed with
  | nil _ => exact ⟨[], rfl⟩
  | cons _ _ _ => exact ⟨_, rfl⟩

/-- A relation holds from disk to disk if it holds at every moment. -/
theorem isChain_iff {relation : Disk → Disk → Prop} (passed : Moments admitted disk moments later) :
    (moments.map Moment.before ++ [later]).IsChain relation ↔
      ∀ moment ∈ moments, relation moment.before moment.after := by
  induction passed with
  | nil disk => exact iff_of_true (.singleton disk) (List.forall_mem_nil _)
  | @cons moment later moments _ _ passed induction =>
      obtain ⟨others, disks⟩ := passed.exists_disks
      rw [disks] at induction
      rw [List.map_cons, List.cons_append, disks, List.isChain_cons_cons, induction,
        List.forall_mem_cons]

theorem of_mem {moment : Moment} (passed : Moments admitted disk moments later)
    (member : moment ∈ moments) : admitted moment.settings ∧ moment.IsDue := by
  induction passed with
  | nil _ => cases member
  | cons isAdmitted isDue _ induction =>
      rcases List.mem_cons.mp member with rfl | rest
      · exact ⟨isAdmitted, isDue⟩
      · exact induction rest

/-- Up to each moment, and behind all of them, a project has only been brought what its runs
generate. -/
theorem generates {settings : Settings} (passed : Moments (· = settings) disk moments later) :
    Generates settings disk later ∧ ∀ moment ∈ moments, Generates settings disk moment.before := by
  induction passed with
  | nil disk => exact ⟨Std.Refl.refl disk, List.forall_mem_nil _⟩
  | @cons moment _ _ isOwn _ _ induction =>
      subst isOwn
      have brings := moment.generates
      refine ⟨IsTrans.trans _ _ _ brings induction.1, List.forall_mem_cons.mpr ?_⟩
      exact ⟨Std.Refl.refl _, fun other member =>
        IsTrans.trans _ _ _ brings (induction.2 other member)⟩

end Moments

/-- One disk comes from another by what a run with some settings does. -/
def Develops (settings : Settings) (before after : Disk) : Prop :=
  ∃ moments, Moments (· = settings) before moments after

instance (settings : Settings) : Std.Refl (Develops settings) where
  refl disk := ⟨[], .nil disk⟩

instance (settings : Settings) : IsTrans Disk (Develops settings) where
  trans _ _ _ first second := by
    obtain ⟨moments, passed⟩ := first
    obtain ⟨others, further⟩ := second
    exact ⟨moments ++ others, passed.append further⟩

theorem Develops.single {moment : Moment} (isDue : moment.IsDue) :
    Develops moment.settings moment.before moment.after :=
  ⟨[moment], .cons rfl isDue (.nil _)⟩

/-- A route table stays where it is while the disk develops. -/
def DevelopsBeside (settings : Settings) (table : RouteTable) (before after : Workspace) : Prop :=
  TableLoaded before.disk settings table →
    TableLoaded after.disk settings table ∧ Develops settings before.disk after.disk

instance (settings : Settings) (table : RouteTable) : Std.Refl (DevelopsBeside settings table) where
  refl workspace loaded := ⟨loaded, Std.Refl.refl workspace.disk⟩

instance (settings : Settings) (table : RouteTable) :
    IsTrans Workspace (DevelopsBeside settings table) where
  trans _ _ _ first second loaded := by
    obtain ⟨loadedMiddle, developsFirst⟩ := first loaded
    obtain ⟨loadedLater, developsSecond⟩ := second loadedMiddle
    exact ⟨loadedLater, IsTrans.trans _ _ _ developsFirst developsSecond⟩

theorem Scaffold.ensure_develops {settings : Settings} (wanted : settings.scaffold = true)
    {packageName : Text} {table : RouteTable} {route : Route} (member : route ∈ table.routes)
    (isFeature : route.isFeature = true) (layer : Layer) :
    Keeps (DevelopsBeside settings table)
      (Scaffold.ensure ⟨settings.featuresDir, packageName⟩ route layer) := by
  intro workspace loaded
  refine ⟨loaded.of_generates (ensure_generates route layer workspace), ?_⟩
  let moment : Moment := ⟨settings, workspace.disk, .visit packageName route layer⟩
  have reached : moment.after =
      (after (Scaffold.ensure ⟨settings.featuresDir, packageName⟩ route layer) workspace).disk := by
    change (after (Scaffold.ensure _ route layer) _).disk = _
    rw [ensure_disk, ensure_disk _ _ _ workspace, Action.writeText_disk, Action.writeText_disk]
  have isDue : moment.IsDue := ⟨wanted, isFeature, table, loaded, member⟩
  rw [← reached]
  exact .single isDue

namespace Work

/-- A session develops the disk, and keeps its settings. -/
def Leaves (settings : Settings) (before after : Session) : Prop :=
  before.pipeline.settings = settings →
    after.pipeline.settings = settings ∧
      Develops settings before.workspace.disk after.workspace.disk

instance (settings : Settings) : Std.Refl (Leaves settings) where
  refl session same := ⟨same, Std.Refl.refl session.workspace.disk⟩

instance (settings : Settings) : IsTrans Session (Leaves settings) where
  trans _ _ _ first second same := by
    obtain ⟨sameMiddle, developsFirst⟩ := first same
    obtain ⟨sameLater, developsSecond⟩ := second sameMiddle
    exact ⟨sameLater, IsTrans.trans _ _ _ developsFirst developsSecond⟩

theorem act_leaves {α : Type} {settings : Settings} {action : Action α} {session : Session}
    (develops : Develops settings session.workspace.disk
      (after action session.workspace).disk) :
    Leaves settings session (after (act action) session) := by
  intro same
  rw [act_after]
  exact ⟨same, develops⟩

theorem leaves_keptByParts (own : Settings) :
    KeptByParts (fun _ => True) (· = own) (Leaves own) where
  guarded related same := related same same
  reads {α action} reading session := by
    apply act_leaves
    have same : (after action session.workspace).disk = session.workspace.disk :=
      reading.keeps session.workspace
    rw [same]
    exact Std.Refl.refl _
  opens _ session same := ⟨same, Std.Refl.refl session.workspace.disk⟩
  scaffolds := by
    intro _ settings isOwn wanted packageName table session loaded
    subst isOwn
    have develops : Keeps (DevelopsBeside settings table)
        (Scaffold.run ⟨settings.featuresDir, packageName⟩ table.routes) :=
      Scaffold.run_keeps table.routes fun route member isFeature layer =>
        Scaffold.ensure_develops wanted member isFeature layer
    exact act_leaves (develops session.workspace loaded).2
  writes := by
    intro stage _ settings isOwn text session
    subst isOwn
    apply act_leaves
    let moment : Moment := ⟨settings, session.workspace.disk, .output stage text⟩
    have reached : moment.after =
        (after (Action.writeText (settings.outputPath stage) text) session.workspace).disk := by
      change (after (Action.writeText _ text) _).disk = _
      rw [Action.writeText_disk, Action.writeText_disk]
    have isDue : moment.IsDue := trivial
    rw [Action.attempt_after, ← reached]
    exact .single isDue

end Work

variable [DocumentLoader]

/-- What is left of a disk by a run, whether it fails or not. -/
def StageRun.take (run : StageRun) (disk : Disk) : Disk :=
  (after (Work.run run.names) ⟨run.pipeline, ⟨disk, run.clock, run.log⟩⟩).workspace.disk

theorem StageRun.take_of_ok {run : StageRun} {disk : Disk} {answer : Unit} {later : Session}
    (ran : Work.run run.names ⟨run.pipeline, ⟨disk, run.clock, run.log⟩⟩ = .ok answer later) :
    run.take disk = later.workspace.disk := by
  rw [take, after_of_ok ran]

/-- The disks before, between and behind runs. -/
def StageRun.disks (runs : List StageRun) (disk : Disk) : List Disk :=
  runs.scanl (fun disk run => run.take disk) disk

theorem StageRun.develops (run : StageRun) (disk : Disk) :
    Develops run.pipeline.settings disk (run.take disk) := by
  have notes : ∀ change, Keeps (Work.Leaves run.pipeline.settings) (Work.note change) :=
    fun _ session same => ⟨same, Std.Refl.refl session.workspace.disk⟩
  have leaves : Keeps (Work.Leaves run.pipeline.settings) (Work.run run.names) :=
    (Work.leaves_keptByParts run.pipeline.settings).run notes fun _ _ => trivial
  exact (leaves ⟨run.pipeline, ⟨disk, run.clock, run.log⟩⟩ rfl).2

theorem StageRun.generates (run : StageRun) (disk : Disk) :
    Generates run.pipeline.settings disk (run.take disk) := by
  obtain ⟨moments, passed⟩ := run.develops disk
  exact passed.generates.1

/-- Runs lead from disk to disk by their moves, the first of which is that a run starts. -/
theorem exists_moments (runs : List StageRun) (disk : Disk) :
    ∃ moments later,
      Moments (fun settings => ∃ run ∈ runs, run.pipeline.settings = settings) disk moments later ∧
      (StageRun.disks runs disk).Sublist (moments.map Moment.before ++ [later]) ∧
      (StageRun.disks runs disk).getLast? = some later := by
  induction runs generalizing disk with
  | nil => exact ⟨[], disk, .nil disk, .refl _, rfl⟩
  | cons run runs induction =>
      obtain ⟨others, later, rest, within, last⟩ := induction (run.take disk)
      obtain ⟨own, first⟩ := run.develops disk
      let start : Moment := ⟨run.pipeline.settings, disk, .start⟩
      have passed : Moments (∃ other ∈ run :: runs, other.pipeline.settings = ·) disk
          (start :: own ++ others) later := by
        have isDue : start.IsDue := trivial
        refine .cons ⟨run, List.mem_cons_self, rfl⟩ isDue ?_
        refine (first.mono ?_).append (rest.mono ?_)
        · rintro _ rfl
          exact ⟨run, List.mem_cons_self, rfl⟩
        · rintro _ ⟨other, member, rfl⟩
          exact ⟨other, List.mem_cons_of_mem run member, rfl⟩
      refine ⟨start :: own ++ others, later, passed, ?_, ?_⟩
      · rw [StageRun.disks, List.scanl_cons, List.map_append, List.map_cons, List.cons_append,
          List.cons_append, List.append_assoc]
        exact (within.trans (List.sublist_append_right _ _)).cons_cons disk
      · rw [StageRun.disks] at last
        rw [StageRun.disks, List.scanl_cons, List.getLast?_cons, last, Option.getD_some]

/--
Runs lead from disk to disk by their moves: a run starts, a stage writes its output, or the file of a
feature page is looked at. At every moment all files but the outputs are still there with the content
that they have had at every moment before, exactly if no file is changed at whose place a path has
misled that is looked at; paths that never go up do not mislead.
-/
theorem pairwise_keptBeside_iff {project : Settings} {runs : List StageRun}
    (rooted : ∀ run ∈ runs, run.pipeline.settings.projectRoot = project.projectRoot)
    (disk : Disk) :
    ∃ moments later,
      Moments (fun settings => ∃ run ∈ runs, run.pipeline.settings = settings) disk moments later ∧
      let disks := moments.map Moment.before ++ [later]
      (StageRun.disks runs disk).Sublist disks ∧
      (StageRun.disks runs disk).getLast? = some later ∧
      (disks.Pairwise (KeptBeside project) ↔ ∀ moment ∈ moments, moment.Spares) ∧
      ((∀ moment ∈ moments, moment.Descends) → disks.Pairwise (KeptBeside project)) := by
  obtain ⟨moments, later, passed, within, last⟩ := exists_moments runs disk
  have kept_iff : (moments.map Moment.before ++ [later]).Pairwise (KeptBeside project) ↔
      ∀ moment ∈ moments, moment.Spares := by
    rw [← List.isChain_iff_pairwise, passed.isChain_iff]
    refine forall₂_congr fun moment member => ?_
    obtain ⟨⟨run, isRun, same⟩, _⟩ := passed.of_mem member
    exact moment.keptBeside_iff (same ▸ rooted run isRun)
  exact ⟨moments, later, passed, within, last, kept_iff,
    fun descends => kept_iff.mpr fun moment member => (descends moment member).spares⟩

end Runs

/-- The project of a page of its own whose route table is the given one. -/
def ownWorkspace (table : Text) : Workspace :=
  ⟨Scaffold.ownDisk [("route_config.dart", .file (Utf8.encode table))], [], []⟩

/-- A run of all stages on a pipeline that has not run. -/
def wholeRun : StageRun :=
  ⟨.ofSettings .default, Stage.all.map Stage.name, [], []⟩

/-- Two runs of all stages for a shop keep all files but the outputs. -/
theorem pairwise_keptBeside_iff_shop :
    (∀ run ∈ [wholeRun, wholeRun],
      run.pipeline.settings.projectRoot = Settings.default.projectRoot) ∧
    (StageRun.disks [wholeRun, wholeRun] (ownWorkspace shopTable).disk).Pairwise
      (KeptBeside .default) := by
  have rooted : ∀ run ∈ [wholeRun, wholeRun],
      run.pipeline.settings.projectRoot = Settings.default.projectRoot :=
    List.forall_mem_cons.mpr ⟨rfl, List.forall_mem_singleton.mpr rfl⟩
  obtain ⟨moments, later, passed, within, _, _, kept⟩ :=
    pairwise_keptBeside_iff rooted (ownWorkspace shopTable).disk
  refine ⟨rooted, (kept fun moment member => ?_).sublist within⟩
  have ownPassed : Moments (· = .default) (ownWorkspace shopTable).disk moments later := by
    refine passed.mono fun settings => ?_
    rintro ⟨run, isRun, rfl⟩
    rcases List.mem_pair.mp isRun with rfl | rfl <;> rfl
  obtain ⟨isOwn, isDue⟩ := ownPassed.of_mem member
  have generates := ownPassed.generates.2 _ member
  have start : TableLoaded (ownWorkspace shopTable).disk .default ⟨[Scaffold.shopRoute], true, []⟩ :=
    tableLoaded_ownDisk [] (by decide +kernel) (by decide +kernel)
  obtain ⟨_, before, move⟩ := moment
  cases isOwn
  cases move with
  | start => trivial
  | output stage text => trivial
  | visit packageName route layer =>
      obtain ⟨_, _, table, loaded, isRow⟩ := isDue
      obtain rfl := (start.of_generates generates).unique loaded
      obtain rfl := List.mem_singleton.mp isRow
      change _ ∉ (layer.path Settings.default.featuresDir Scaffold.shopRoute).parts
      rw [featuresDir_default]
      exact Scaffold.shopRoute_descends layer

/-- The files of one disk that are not there on another one. -/
def Disk.newFiles (before after : Disk) : List Place :=
  (after.tree.files.map Prod.fst).filter fun place => (before.tree.contentAt? place).isNone

/-- A run of the stage of the routes on a pipeline that has not run. -/
def routesRun : StageRun :=
  ⟨.ofSettings .default, [Stage.routes.name], [], []⟩

/-- The stage of the routes is completed where the group of a page leads through a directory that is
not there. The page that is there is written over, and reported beside three new files. -/
theorem run_ghost : passes (Work.run [Stage.routes.name])
    ⟨.ofSettings .default, ownWorkspace ghostTable⟩ (fun _ later =>
      later.workspace.disk.tree.contentAt? ["lib", "features", "cart_page.dart"] !=
          some (Utf8.encode "// my own page\n") &&
        later.pipeline.record.success &&
        (later.pipeline.record.routes?.map fun result => result.scaffolded.length) == some 4 &&
        (((ownWorkspace ghostTable).disk.newFiles later.workspace.disk).filter
          (· != (["lib", "router.g.dart"] : Place))).length == 3) = true := by
  decide +kernel

/-- A page of the developer is lost if its path leads through a directory that is missing and
back. -/
theorem not_pairwise_keptBeside :
    ¬ ∀ (project : Settings) (runs : List StageRun) (disk : Disk),
      (∀ run ∈ runs, run.pipeline.settings.projectRoot = project.projectRoot) →
        (StageRun.disks runs disk).Pairwise (KeptBeside project) := by
  intro claim
  obtain ⟨_, later, ran, checked⟩ := exists_ok_of_passes run_ghost
  simp only [Bool.and_eq_true, bne_iff_ne] at checked
  have reached : routesRun.take (ownWorkspace ghostTable).disk = later.workspace.disk :=
    StageRun.take_of_ok ran
  have kept := claim .default [routesRun] (ownWorkspace ghostTable).disk
    (List.forall_mem_singleton.mpr rfl)
  rw [StageRun.disks, List.scanl_cons, List.scanl_nil, reached, List.pairwise_pair] at kept
  have apart : (["lib", "features", "cart_page.dart"] : Place) ∉
      Settings.default.outputPlaces (ownWorkspace ghostTable).disk := by
    decide
  have wasFile : (ownWorkspace ghostTable).disk.tree.contentAt?
      ["lib", "features", "cart_page.dart"] = some (Utf8.encode "// my own page\n") := by
    decide
  exact checked.1.1.1 (kept.kept _ apart _ wasFile)

end DartRoutes
