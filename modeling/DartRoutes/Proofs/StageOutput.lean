import DartRoutes.Proofs.FileKeeping
import DartRoutes.Proofs.RunHistory

/-!
# What a completed stage leaves

The stage of the routes leaves the router of what the project held before the stage, and the stage
of the assets the constants of the files that it has found. The new feature files are those that the
stage reports, unless a visit was misled.
-/

namespace DartRoutes

open Effect

namespace Scaffold

variable {scaffold : Scaffold}

/-- The created files are distinct, and they are the files that one disk has more than another. -/
structure ListsNew (before after : Disk) (outcomes : List Outcome) : Prop where
  distinct : (createdPlaces before outcomes).Nodup
  mem_iff : ∀ place, place ∈ createdPlaces before outcomes ↔
    before.tree.contentAt? place = none ∧ (after.tree.contentAt? place).isSome

variable [Console]

/-- Files that are created at distinct places hold what the visits have made of them. -/
theorem Visits.holds_of_distinct {before later : Workspace} {visits : List Visit}
    (visited : Visits scaffold before visits later)
    (distinct : (createdPlaces before.disk (visits.map Visit.outcome)).Nodup) :
    ∀ visit ∈ visits, visit.outcome.isCreated →
      ∃ content, Utf8.encode? (scaffold.source visit.route visit.layer) = .ok content ∧
        later.disk.tree.contentAt? (before.disk.placeOf visit.outcome.path) = some content := by
  induction visited with
  | nil workspace => exact List.forall_mem_nil _
  | @cons before middle later route layer outcome visits ensured visited induction =>
      have sameDirectory := ensure_keeps_directory ensured
      have rest : (createdPlaces before.disk (visits.map Visit.outcome)).Nodup →
          ∀ visit ∈ visits, visit.outcome.isCreated →
            ∃ content, Utf8.encode? (scaffold.source visit.route visit.layer) = .ok content ∧
              later.disk.tree.contentAt? (before.disk.placeOf visit.outcome.path) =
                some content := by
        intro distinctRest visit member isCreated
        rw [← Disk.placeOf_of_directory_eq sameDirectory]
        rw [← createdPlaces_of_directory_eq sameDirectory] at distinctRest
        exact induction distinctRest visit member isCreated
      rw [List.map_cons] at distinct
      rcases ensure_created_or_same ensured with
        ⟨isCreated, _, _, content, encoded, rewritten⟩ | ⟨isOld, _⟩
      · rw [createdPlaces_cons_of_created isCreated] at distinct
        obtain ⟨apart, distinctRest⟩ := List.nodup_cons.mp distinct
        refine List.forall_mem_cons.mpr ⟨fun _ => ⟨content, encoded, ?_⟩, rest distinctRest⟩
        rw [← createdPlaces_of_directory_eq sameDirectory] at apart
        rw [visited.contentAt?_of_not_mem apart, rewritten.written]
      · rw [createdPlaces_cons_of_not_created isOld] at distinct
        refine List.forall_mem_cons.mpr ⟨fun isCreated => ?_, rest distinct⟩
        rw [isOld] at isCreated
        cases isCreated

/-- The created files are the new ones exactly if no visit that created its file was misled. -/
theorem Visits.listsNew_iff {before later : Workspace} {visits : List Visit}
    (visited : Visits scaffold before visits later) :
    ListsNew before.disk later.disk (visits.map Visit.outcome) ↔ NeverMisled visits := by
  rw [← visited.accurate_iff]
  constructor
  · intro lists
    refine ⟨lists.distinct, fun place member => ((lists.mem_iff place).mp member).1, ?_⟩
    exact visited.holds_of_distinct lists.distinct
  · intro accurate
    refine ⟨accurate.distinct, fun place => ⟨fun member => ?_, fun isNew => ?_⟩⟩
    · obtain ⟨outcome, reported, rfl⟩ := List.mem_map.mp member
      obtain ⟨found, isCreated⟩ := List.mem_filter.mp reported
      obtain ⟨visit, visitMember, rfl⟩ := List.mem_map.mp found
      obtain ⟨content, _, written⟩ := accurate.holds visit visitMember isCreated
      exact ⟨accurate.fresh _ member, by rw [written]; rfl⟩
    · refine Decidable.byContradiction fun apart => ?_
      have same := visited.contentAt?_of_not_mem apart
      rw [same, isNew.1] at isNew
      cases isNew.2

end Scaffold

open Scaffold

theorem Work.Puts.rewritten {path : Path} {text : Text} {before after : Session}
    (puts : Work.Puts path text before after true) :
    ∃ content, Utf8.encode? text = .ok content ∧
      Disk.Rewritten (before.workspace.disk.placeOf path) content before.workspace.disk
        after.workspace.disk := by
  cases puts with
  | written wrote sameDisk _ =>
      obtain ⟨content, encoded, _, rewritten⟩ := Action.writeText_of_ok wrote
      rw [sameDisk]
      exact ⟨content, encoded, rewritten⟩

section Runs

variable [Console]

theorem Scaffold.Leads.listsNew_iff {scaffold : Scaffold} {routes : List Route}
    {before after : Disk} {blocks : List (List Visit)}
    (leads : Leads scaffold routes before after blocks) :
    ListsNew before after (blocks.flatten.map Visit.outcome) ↔ NeverMisled blocks.flatten := by
  obtain ⟨⟨first, last, rfl, visited, same⟩, _⟩ := leads
  rw [← visited.listsNew_iff]
  constructor
  · intro lists
    refine ⟨lists.distinct, fun place => ?_⟩
    rw [lists.mem_iff, same.content]
  · intro lists
    refine ⟨lists.distinct, fun place => ?_⟩
    rw [lists.mem_iff, same.content]

variable [DocumentLoader]

/-- A disk has the router of a project: it is made from the table, and from the options and the
package name that were read before the visits to the feature files. -/
structure LeavesRouter (before later : Session) (table : RouteTable) (options : BuilderOptions)
    (packageName : Text) (blocks : List (List Visit)) (scaffolded : Disk) : Prop where
  opens : ∃ last, Action.loadOptions before.pipeline.settings.builderConfigPath
    before.workspace = .ok options last
  names : ∃ last, Action.packageName before.pipeline.settings before.workspace =
    .ok packageName last
  leads : Leads ⟨before.pipeline.settings.featuresDir, packageName⟩
    (if before.pipeline.settings.scaffold then table.routes else [])
    before.workspace.disk scaffolded blocks
  router : ∃ content,
    Utf8.encode? (navigationSource table.routes options packageName) = .ok content ∧
    Disk.Rewritten (before.workspace.disk.placeOf before.pipeline.settings.routerOutputPath)
      content scaffolded later.workspace.disk

/-- A disk has the resource constants of the files that were found. -/
structure LeavesManifest (before later : Session) (options : BuilderOptions) (files : List Text) :
    Prop where
  opens : ∃ last, Action.loadOptions before.pipeline.settings.builderConfigPath
    before.workspace = .ok options last
  listed : before.workspace.disk.list before.pipeline.settings.assetsDir = .ok files
  manifest : ∃ content,
    Utf8.encode? (manifestSource (AssetEntry.collect options.ignoreDirs files)) = .ok content ∧
    Disk.Rewritten (before.workspace.disk.placeOf before.pipeline.settings.manifestOutputPath)
      content before.workspace.disk later.workspace.disk

theorem Opens.loads {session : Session} {options : BuilderOptions} (opens : Opens session options)
    (fresh : session.pipeline.options? = none) :
    ∃ last, Action.loadOptions session.pipeline.settings.builderConfigPath session.workspace =
      .ok options last := by
  rw [Opens, fresh] at opens
  exact opens

/--
A stage of the routes that is completed with an empty table has changed nothing. With any other
table it leaves the router that the table, the options and the package name of the disk before it
make. The feature files that it reports are the new ones exactly if no visit was misled; paths that
never go up mislead no visit. A stage of the assets that is completed leaves the constants of the
files that it has found, and without its directory it has changed nothing.
-/
theorem stages_leave_outputs {session : Session} (fresh : session.pipeline.options? = none) :
    (∀ result later, Work.generateRoutes session = .ok result later →
      ∃ table, TableLoaded session.workspace.disk session.pipeline.settings table ∧
        (table.routes = [] →
          result = ⟨0, none, []⟩ ∧ later.workspace.disk = session.workspace.disk) ∧
        (table.routes ≠ [] → ∃ options packageName blocks scaffolded,
          LeavesRouter session later table options packageName blocks scaffolded ∧
          result = ⟨table.routes.length, some session.pipeline.settings.routerOutputPath,
            ((blocks.flatten.map Visit.outcome).filter Outcome.isCreated).map fun outcome =>
              session.pipeline.settings.shown outcome.path⟩ ∧
          (ListsNew session.workspace.disk scaffolded (blocks.flatten.map Visit.outcome) ↔
            NeverMisled blocks.flatten) ∧
          ((∀ route ∈ table.routes, route.isFeature →
              Descends ⟨session.pipeline.settings.featuresDir, packageName⟩ route) →
            NeverMisled blocks.flatten))) ∧
    ∀ result later, Work.generateAssets session = .ok result later →
      (session.workspace.disk.isDirectory session.pipeline.settings.assetsDir = .ok false ∧
        result = ⟨0, none⟩ ∧ later.workspace.disk = session.workspace.disk) ∨
      (session.workspace.disk.isDirectory session.pipeline.settings.assetsDir = .ok true ∧
        ∃ options files, LeavesManifest session later options files ∧
          result = ⟨(AssetEntry.collect options.ignoreDirs files).length,
            some session.pipeline.settings.manifestOutputPath⟩) := by
  constructor
  · intro result later run
    rcases Work.generateRoutes_eq_ok run with
      ⟨table, loaded, empty, rfl, log, rfl⟩ |
      ⟨table, options, packageName, start, created, middle, read, scaffolded, puts, rfl⟩
    · exact ⟨table, loaded, fun _ => ⟨rfl, rfl⟩, fun nonempty => absurd empty nonempty⟩
    · refine ⟨table, read.loaded, fun empty => absurd empty read.nonempty, fun _ => ?_⟩
      obtain ⟨blocks, last, visited, shapes, rfl, sameDisk, _⟩ := Work.scaffold_eq_ok scaffolded
      have leads : Leads ⟨session.pipeline.settings.featuresDir, packageName⟩
          (if session.pipeline.settings.scaffold then table.routes else [])
          session.workspace.disk middle.workspace.disk blocks := by
        rw [read.opened.pipeline] at visited shapes
        refine ⟨⟨_, last, read.opened.disk, visited, ?_⟩, shapes⟩
        rw [sameDisk]
        exact Std.Refl.refl _
      obtain ⟨content, encoded, rewritten⟩ := puts.rewritten
      have samePlace : middle.workspace.disk.placeOf session.pipeline.settings.routerOutputPath =
          session.workspace.disk.placeOf session.pipeline.settings.routerOutputPath := by
        obtain ⟨first, last, start, visited, same⟩ := leads.visits
        rw [Disk.placeOf_of_directory_eq (same.directory.trans visited.keeps_directory), start]
      rw [samePlace] at rewritten
      refine ⟨options, packageName, blocks, middle.workspace.disk,
        ⟨read.opens.loads fresh, read.names, leads, content, encoded, rewritten⟩, ?_,
        leads.listsNew_iff, fun descends => ?_⟩
      · rw [read.opened.pipeline]
      · obtain ⟨first, last, _, visited, _⟩ := leads.visits
        refine neverMisled_of_descends visited leads.covers fun route member => ?_
        split at member
        · exact descends route member
        · cases member
  · intro result later run
    rcases Work.generateAssets_eq_ok run with
      ⟨absent, rfl, log, rfl⟩ | ⟨options, start, files, read, listed, puts, rfl⟩
    · exact .inl ⟨absent, rfl, rfl⟩
    · obtain ⟨content, encoded, rewritten⟩ := puts.rewritten
      rw [read.opened.disk] at listed rewritten
      exact .inr ⟨read.isThere, options, files,
        ⟨read.opens.loads fresh, listed, content, encoded, rewritten⟩, rfl⟩

/-- A run of one stage that is a success has executed this stage. -/
theorem RunTrace.Describes.executed {trace : RunTrace} {stage : Stage} {before later : Session}
    (describes : trace.Describes [stage.name] before later) (success : trace.failing? = none) :
    ∃ execution, execution.stage = stage ∧ execution.isCompleted = true ∧
      Performed before [execution] later ∧
      before.pipeline.record.Grows later.pipeline.record [execution] := by
  have known := describes.known
  have completed : trace.executions = trace.completed := by
    rw [executions, success, Option.toList_none, List.append_nil]
  have named : [stage.name].filterMap Stage.ofName? = [stage] := by cases stage <;> decide
  rw [named, describes.unreached success, List.append_nil, completed] at known
  obtain ⟨execution, alone, ofStage⟩ := List.map_eq_singleton_iff.mp known.symm
  have performed := describes.performed
  have grows := describes.grows
  rw [completed, alone] at performed grows
  exact ⟨execution, ofStage, describes.completed execution (alone ▸ List.mem_singleton_self _),
    performed, grows⟩

end Runs

/-- The stage of the routes of a project with a missing directory reports four new files, one of
which is not new. -/
theorem exists_generateRoutes_ghost :
    ∃ session result later, Work.generateRoutes session = .ok result later ∧
      session.pipeline.options? = none ∧ session.pipeline.settings = .default ∧
      session.workspace.disk = (ownWorkspace ghostTable).disk ∧ result.scaffolded.length = 4 ∧
      ((session.workspace.disk.newFiles later.workspace.disk).filter
        (· != (["lib", "router.g.dart"] : Place))).length = 3 := by
  obtain ⟨_, later, ran, checked⟩ := exists_ok_of_passes run_ghost
  simp only [Bool.and_eq_true, beq_iff_eq, Option.map_eq_some_iff] at checked
  obtain ⟨⟨⟨_, success⟩, recorded, isRecorded, four⟩, three⟩ := checked
  obtain ⟨trace, describes, succeeded⟩ := Work.run_eq_ok ran
  rw [success] at succeeded
  obtain ⟨execution, ofStage, isCompleted, performed, grows⟩ :=
    describes.executed (Option.isNone_iff_eq_none.mp succeeded.symm)
  cases performed with
  | next start executed rest =>
      cases rest with
      | done finish =>
          cases executed with
          | assets _ => cases ofStage
          | routes attempted =>
              rcases Work.attemptStage_eq_ok attempted with
                ⟨result, rfl, generated⟩ | ⟨_, _, rfl, _⟩
              · have same : recorded = result := by
                  have latest := grows.result .routes
                  rw [RunRecord.result?, isRecorded] at latest
                  cases latest
                  rfl
                refine ⟨_, result, _, generated, start.options, start.settings, start.disk,
                  same ▸ four, ?_⟩
                rw [start.disk, ← finish.disk]
                exact three
              · cases isCompleted

/-- A pipeline of a project with a resource file. -/
def logoSession : Session :=
  ⟨.ofSettings .default, ⟨⟨.directory [("assets", .directory [("logo.png", .file [])])], []⟩, [], []⟩⟩

theorem generateAssets_logo :
    passes Work.generateAssets logoSession (fun result _ => result.count == 1) = true := by
  decide +kernel

/-- A stage of the routes that finds a page written over, and a stage of the assets that finds a
resource file. -/
theorem stages_leave_outputs_ghost :
    (∃ session : Session, session.pipeline.options? = none ∧
      ∃ result later table options packageName blocks scaffolded,
        Work.generateRoutes session = .ok result later ∧
        LeavesRouter session later table options packageName blocks scaffolded) ∧
    logoSession.pipeline.options? = none ∧
      ∃ result later options files, Work.generateAssets logoSession = .ok result later ∧
        result.count = 1 ∧ LeavesManifest logoSession later options files := by
  constructor
  · obtain ⟨session, result, later, generated, fresh, _, _, four, _⟩ := exists_generateRoutes_ghost
    obtain ⟨table, _, empty, routes⟩ := (stages_leave_outputs fresh).1 result later generated
    by_cases isEmpty : table.routes = []
    · rw [(empty isEmpty).1] at four
      cases four
    · obtain ⟨options, packageName, blocks, scaffolded, leaves, _⟩ := routes isEmpty
      exact ⟨session, fresh, result, later, table, options, packageName, blocks, scaffolded,
        generated, leaves⟩
  · have fresh : logoSession.pipeline.options? = none := rfl
    obtain ⟨result, later, generated, counted⟩ := exists_ok_of_passes generateAssets_logo
    rw [beq_iff_eq] at counted
    rcases (stages_leave_outputs fresh).2 result later generated with
      ⟨_, rfl, _⟩ | ⟨_, options, files, leaves, _⟩
    · cases counted
    · exact ⟨fresh, result, later, options, files, generated, counted, leaves⟩

/-- The stage of the routes can report more new files than there are. -/
theorem not_forall_scaffolded_is_new :
    ¬ ∀ (session : Session) (result : RoutesResult) (later : Session),
      session.pipeline.options? = none → Work.generateRoutes session = .ok result later →
      ((session.workspace.disk.newFiles later.workspace.disk).filter
        (· != session.workspace.disk.placeOf session.pipeline.settings.routerOutputPath)).length =
          result.scaffolded.length := by
  intro claim
  obtain ⟨session, result, later, generated, fresh, settings, disk, four, three⟩ :=
    exists_generateRoutes_ghost
  have counted := claim session result later fresh generated
  have output : session.workspace.disk.placeOf session.pipeline.settings.routerOutputPath =
      (["lib", "router.g.dart"] : Place) := by
    rw [settings, disk]
    decide
  rw [output, three, four] at counted
  cases counted

end DartRoutes
