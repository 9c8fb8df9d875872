import DartRoutes.Proofs.StageFlow

/-!
# What the parts of a stage keep

A stage reads, loads the options, scaffolds the routes of its table and writes its output. A relation
that all of this keeps is kept by the stages, and by the runs if it also bears that a run is
recorded.
-/

namespace DartRoutes

open Effect

/-- The files that the stages write in any case. -/
def Settings.outputPaths (settings : Settings) : List Path :=
  [settings.routerOutputPath, settings.manifestOutputPath]

/-- The file that a stage writes in any case. -/
def Settings.outputPath (settings : Settings) : Stage → Path
  | .routes => settings.routerOutputPath
  | .assets => settings.manifestOutputPath

theorem Settings.outputPath_mem (settings : Settings) (stage : Stage) :
    settings.outputPath stage ∈ settings.outputPaths := by
  cases stage with
  | routes => exact List.mem_cons_self
  | assets => exact List.mem_cons_of_mem _ List.mem_cons_self

namespace Work

variable [Console]

/--
Everything of which some stages consist keeps the relation. The settings of a pipeline never change,
so that only those have to be looked at that are admitted at the start. What is scaffolded are the
routes of a table that is there.
-/
structure KeptByParts (isRun : Stage → Prop) (admitted : Settings → Prop)
    (relation : Session → Session → Prop) : Prop where
  guarded : ∀ {before after : Session},
    (admitted before.pipeline.settings → relation before after) → relation before after
  reads : ∀ {α : Type} {action : Action α}, action.Reads → Keeps relation (act action)
  opens : ∀ (options : BuilderOptions) (session : Session), relation session { session with
    pipeline := { session.pipeline with options? := some options } }
  scaffolds : isRun .routes → ∀ settings, admitted settings → settings.scaffold = true →
    ∀ packageName table session, TableLoaded session.workspace.disk settings table →
      relation session
        (after (act (Scaffold.run ⟨settings.featuresDir, packageName⟩ table.routes)) session)
  writes : ∀ stage, isRun stage → ∀ settings, admitted settings → ∀ text,
    Keeps relation (act (.attempt Failure.isFromDisk
      (.writeText (settings.outputPath stage) text)))

namespace KeptByParts

variable {isRun : Stage → Prop} {admitted : Settings → Prop}
  {relation : Session → Session → Prop}

theorem shows (parts : KeptByParts isRun admitted relation) (entries : List LogEntry) :
    Keeps relation (act (.showAll entries)) :=
  parts.reads (Action.showAll_reads entries)

theorem saying (parts : KeptByParts isRun admitted relation) (text : Text) :
    Keeps relation (say text) :=
  parts.reads (Action.say_reads text)

theorem reports (parts : KeptByParts isRun admitted relation) (tone : Tone) (message : Text) :
    Keeps relation (report tone message) :=
  parts.reads (Action.report_reads tone message)

variable [Std.Refl relation] [IsTrans Session relation]

theorem settings_bind {α : Type} {second : Settings → Work α}
    (parts : KeptByParts isRun admitted relation)
    (keeps : ∀ settings, admitted settings → Keeps relation (second settings)) :
    Keeps relation (settings >>= second) := by
  intro session
  refine after_bind (Std.Refl.refl session) fun settings middle answered => ?_
  cases answered
  exact parts.guarded fun isAdmitted => keeps _ isAdmitted session

theorem writeOutput (parts : KeptByParts isRun admitted relation) {settings : Settings}
    (isAdmitted : admitted settings) {stage : Stage} (runs : isRun stage) (text : Text) :
    Keeps relation (writeOutput stage (settings.outputPath stage) text) := by
  refine (parts.writes stage runs settings isAdmitted text).bind fun result => ?_
  split
  · exact .pure _
  · refine Keeps.bind (fun session => Std.Refl.refl session) fun _ => ?_
    exact (parts.reports _ _).bind fun _ => .throw _

theorem scaffold (parts : KeptByParts isRun admitted relation) (runs : isRun .routes)
    {table : RouteTable} {session : Session}
    (loaded : TableLoaded session.workspace.disk session.pipeline.settings table)
    (packageName : Text) : relation session (after (scaffold table.routes packageName) session) := by
  refine after_bind (Std.Refl.refl session) fun settings middle answered => ?_
  cases answered
  refine parts.guarded fun isAdmitted => ?_
  dsimp only
  split
  · rename_i wanted
    refine after_bind (parts.scaffolds runs _ isAdmitted wanted packageName table session loaded)
      fun outcomes middle _ => ?_
    split
    · exact Std.Refl.refl middle
    · exact ((parts.reports _ _).bind fun _ => .pure _) middle
  · exact Std.Refl.refl session

theorem routeTable (parts : KeptByParts isRun admitted relation) : Keeps relation routeTable := by
  refine parts.settings_bind fun settings _ => ?_
  refine (parts.reads (Action.attempt_reads (Action.loadRouteTable_reads _ _))).bind
    fun result => ?_
  split
  · exact .pure _
  · exact .throw _

theorem durationSince (parts : KeptByParts isRun admitted relation) (start : Seconds) :
    Keeps relation (durationSince start) := by
  refine (parts.reads Action.now_reads).bind fun time => ?_
  split
  · exact .pure _
  · exact .throw _

omit [Console] [Std.Refl relation] in
/-- An effect that reads is followed by others on the same disk. -/
theorem after_reads_bind {α β : Type} {first : Work α} {second : α → Work β} {session : Session}
    (reads : Reads first) (keeps : Keeps relation first)
    (next : ∀ answer middle, SameProject session middle →
      relation middle (after (second answer) middle)) :
    relation session (after (first >>= second) session) :=
  after_bind (keeps session) fun answer middle answered =>
    next answer middle (reads.keeps.of_ok answered)

variable [DocumentLoader]

theorem options (parts : KeptByParts isRun admitted relation) : Keeps relation Work.options := by
  refine Keeps.get.bind fun session => ?_
  split
  · exact .pure _
  · refine parts.settings_bind fun settings _ => ?_
    refine (parts.reads (Action.loadOptions_reads _)).bind fun options => ?_
    exact Keeps.bind (parts.opens options) fun _ => .pure _

theorem generateRoutes (parts : KeptByParts isRun admitted relation) (runs : isRun .routes) :
    Keeps relation generateRoutes := by
  refine parts.settings_bind fun settings isAdmitted => ?_
  refine (parts.saying _).bind fun _ session => ?_
  refine after_bind (parts.routeTable session) fun table read answered => ?_
  obtain ⟨loaded, rfl⟩ := routeTable_eq_ok answered
  rw [forM_report]
  refine after_reads_bind (act_reads (Action.showAll_reads _)) (parts.shows _) fun _ noted same => ?_
  replace loaded := loaded.of_sameProject same
  split
  · exact ((parts.reports _ _).bind fun _ => .pure _) noted
  · refine after_reads_bind (say_reads _) (parts.saying _) fun _ parsed same => ?_
    replace loaded := loaded.of_sameProject same
    refine after_reads_bind options_reads parts.options fun options opened same => ?_
    replace loaded := loaded.of_sameProject same
    have names := Action.packageName_reads settings
    refine after_reads_bind (act_reads names) (parts.reads names) fun packageName named same => ?_
    replace loaded := loaded.of_sameProject same
    refine after_bind (parts.scaffold runs loaded packageName) fun scaffolded behind _ => ?_
    refine Keeps.bind (parts.writeOutput isAdmitted runs _) (fun _ => ?_) behind
    exact (parts.saying _).bind fun _ => .pure _

theorem generateAssets (parts : KeptByParts isRun admitted relation) (runs : isRun .assets) :
    Keeps relation generateAssets := by
  refine parts.settings_bind fun settings isAdmitted => ?_
  refine (parts.reads (Action.ask_reads _)).bind fun isThere => ?_
  split
  · refine parts.options.bind fun options => ?_
    refine (parts.reads (Action.collectAssets_reads _ _)).bind fun entries => ?_
    refine Keeps.bind (parts.writeOutput isAdmitted runs _) fun _ => ?_
    exact (parts.saying _).bind fun _ => .pure _
  · exact (parts.reports _ _).bind fun _ => .pure _

theorem generate (parts : KeptByParts isRun admitted relation) {stage : Stage}
    (runs : isRun stage) : Keeps relation (generate stage) := by
  cases stage with
  | routes => exact (parts.generateRoutes runs).bind fun _ => .pure _
  | assets => exact (parts.generateAssets runs).bind fun _ => .pure _

theorem attemptStage (parts : KeptByParts isRun admitted relation) {stage : Stage}
    (runs : isRun stage) : Keeps relation (attemptStage (Work.generate stage)) := by
  refine ((parts.generate runs).map _).tryCatch fun failure => ?_
  split
  · exact .pure _
  · exact .throw _

theorem runStage (parts : KeptByParts isRun admitted relation)
    (notes : ∀ change, Keeps relation (note change)) {stage : Stage} (runs : isRun stage) :
    Keeps relation (runStage stage) := by
  refine (parts.reads (Action.header_reads _ _)).bind fun _ => ?_
  refine (parts.reads Action.now_reads).bind fun start => ?_
  refine (parts.attemptStage runs).bind fun result => ?_
  split
  · refine (notes _).bind fun _ => (parts.durationSince start).bind fun duration => ?_
    exact (parts.reports _ _).bind fun _ => .pure _
  · refine (notes _).bind fun _ => (parts.durationSince start).bind fun duration => ?_
    exact (parts.reports _ _).bind fun _ => .pure _

theorem runStages (parts : KeptByParts isRun admitted relation)
    (notes : ∀ change, Keeps relation (note change)) {names : List Text}
    (runs : ∀ stage ∈ names.filterMap Stage.ofName?, isRun stage) :
    Keeps relation (runStages names) := by
  induction names with
  | nil => exact .pure _
  | cons name names induction =>
      rw [Work.runStages]
      split
      · rename_i unknown
        rw [List.filterMap_cons_none unknown] at runs
        exact (parts.reports _ _).bind fun _ => induction runs
      · rename_i stage known
        rw [List.filterMap_cons_some known] at runs
        obtain ⟨first, others⟩ := List.forall_mem_cons.mp runs
        refine (parts.runStage notes first).bind fun completed => ?_
        split
        · exact induction others
        · exact .pure _

theorem run (parts : KeptByParts isRun admitted relation)
    (notes : ∀ change, Keeps relation (note change)) {names : List Text}
    (runs : ∀ stage ∈ names.filterMap Stage.ofName?, isRun stage) :
    Keeps relation (run names) := by
  refine (parts.reads Action.now_reads).bind fun start => ?_
  refine parts.settings_bind fun settings _ => ?_
  dsimp only
  refine (parts.reads (Action.ask_reads _)).bind fun root => ?_
  refine (parts.reads (Action.display_reads _ _)).bind fun _ => ?_
  refine (parts.runStages notes runs).bind fun success => (notes _).bind fun _ => ?_
  exact (parts.durationSince start).bind fun duration => notes _

end KeptByParts

end Work

end DartRoutes
