import DartRoutes.Proofs.RunHistory

/-!
# Stages in sequence

What the stages of a run do depends neither on the clock nor on what was shown or recorded. A run
whose clock shows proper times does what its stages do one after the other, and it ends with success
exactly if all of them are completed.
-/

namespace DartRoutes

open Effect

namespace Action

/-- The workspaces have the same disk, and their clocks show the given times from now on. -/
structure InTime (here there : List Seconds) (first second : Workspace) : Prop where
  disk : second.disk = first.disk
  here : first.clock = here
  there : second.clock = there

/-- The action neither looks at the clock nor at what has been shown. -/
def IsTimeless {α : Type} (action : Action α) : Prop :=
  ∀ here there, Parallel (InTime here there) action

theorem showAll_timeless (entries : List LogEntry) : IsTimeless (showAll entries) :=
  fun _ _ _ _ inTime => .ok ⟨inTime.disk, inTime.here, inTime.there⟩

theorem ask_timeless {α : Type} (question : Disk → Except FileFault α) :
    IsTimeless (ask question) := by
  intro here there first second inTime
  rw [ask_run, ask_run, inTime.disk]
  cases question first.disk with
  | ok answer => exact .ok inTime
  | error fault => exact .error inTime

theorem change_timeless {α : Type} (change : Disk.Change α) :
    IsTimeless (Action.change change) := by
  intro here there first second inTime
  rw [change_run, change_run, inTime.disk]
  cases change first.disk with
  | ok answer disk => exact .ok ⟨rfl, inTime.here, inTime.there⟩
  | error fault disk => exact .error ⟨rfl, inTime.here, inTime.there⟩

theorem sharesFile_inTime (path : Path) (here there : List Seconds) :
    SharesFile path (InTime here there) where
  shows entries := showAll_timeless entries here there
  isThere := ask_timeless _ here there
  content := ask_timeless _ here there

theorem writeText_timeless (path : Path) (text : Text) : IsTimeless (writeText path text) := by
  intro here there
  rw [writeText]
  cases Utf8.encode? text with
  | ok content => exact change_timeless _ here there
  | error fault => exact (change_timeless _ here there).bind fun _ => .throw _

variable [Console]

theorem display_timeless (texts : List Text) (entries : List LogEntry) :
    IsTimeless (display texts entries) := by
  intro here there
  rw [display]
  split
  · exact .throw _
  · exact showAll_timeless _ here there

theorem say_timeless (text : Text) : IsTimeless (say text) :=
  display_timeless _ _

theorem report_timeless (tone : Tone) (message : Text) : IsTimeless (report tone message) :=
  say_timeless _

theorem packageName_timeless [DocumentLoader] (settings : Settings) :
    IsTimeless (packageName settings) := by
  intro here there
  rw [packageName]
  split
  · exact (sharesFile_inTime _ here there).loadPackageName
  · exact .pure _

end Action

namespace Scaffold

variable [Console] (scaffold : Scaffold) (route : Route)

theorem ensure_timeless (layer : Layer) : (scaffold.ensure route layer).IsTimeless := by
  intro here there
  refine (Action.ask_timeless _ here there).bind fun isThere => ?_
  split
  · exact .pure _
  · refine (Action.say_timeless _ here there).bind fun _ => ?_
    refine (Action.attempt_parallel _ (Action.writeText_timeless _ _ here there)).bind
      fun result => ?_
    cases result with
    | ok _ => exact (Action.say_timeless _ here there).bind fun _ => .pure _
    | error failure => exact (Action.report_timeless _ _ here there).bind fun _ => .pure _

theorem ofRoute_timeless : (scaffold.ofRoute route).IsTimeless := by
  intro here there
  rw [ofRoute]
  split
  · refine (Parallel.mapM fun layer _ => ?_).bind fun _ => .pure _
    refine (scaffold.ensure_timeless route layer here there).bind fun outcome => ?_
    dsimp only
    split
    · refine (Parallel.mapM fun companion _ => ?_).bind fun _ => .pure _
      exact scaffold.ensure_timeless route companion here there
    · exact (Parallel.pure []).bind fun _ => .pure _
  · exact .pure []

theorem run_timeless (routes : List Route) : (scaffold.run routes).IsTimeless :=
  fun here there => (Parallel.mapM fun route _ => scaffold.ofRoute_timeless route here there).bind
    fun _ => .pure _

end Scaffold

/-- The projects are alike but for what was recorded and shown, and their clocks show the given
times from now on. -/
structure Aligned (here there : List Seconds) (first second : Session) : Prop
    extends Idle first second where
  here : first.workspace.clock = here
  there : second.workspace.clock = there

namespace Work

variable {here there : List Seconds}

theorem act_parallel {α : Type} {action : Action α} (timeless : action.IsTimeless) :
    Parallel (Aligned here there) (act action) := by
  intro first second aligned
  rw [act_run, act_run]
  rcases (timeless here there _ _ ⟨aligned.disk, aligned.here, aligned.there⟩).ok_or_error with
    ⟨answer, _, _, runFirst, runSecond, inTime⟩ | ⟨failure, _, _, runFirst, runSecond, inTime⟩
  · rw [runFirst, runSecond]
    exact .ok ⟨⟨⟨inTime.disk, aligned.settings⟩, aligned.options⟩, inTime.here, inTime.there⟩
  · rw [runFirst, runSecond]
    exact .error ⟨⟨⟨inTime.disk, aligned.settings⟩, aligned.options⟩, inTime.here, inTime.there⟩

theorem settings_parallel : Parallel (Aligned here there) settings := by
  intro first second aligned
  rw [settings_run, settings_run, aligned.settings]
  exact .ok aligned

theorem routeTable_parallel : Parallel (Aligned here there) routeTable := by
  refine settings_parallel.bind fun settings => ?_
  refine .bind (act_parallel fun here there => ?_) fun result => ?_
  · exact Action.attempt_parallel _ ((Action.sharesFile_inTime _ here there).loadRouteTable _)
  · cases result with
    | ok table => exact .pure _
    | error failure => exact .throw _

variable [Console]

theorem say_parallel (text : Text) : Parallel (Aligned here there) (say text) :=
  act_parallel (Action.say_timeless text)

theorem report_parallel (tone : Tone) (message : Text) :
    Parallel (Aligned here there) (report tone message) :=
  act_parallel (Action.report_timeless tone message)

theorem writeOutput_parallel (stage : Stage) (path : Path) (text : Text) :
    Parallel (Aligned here there) (writeOutput stage path text) := by
  refine .bind (act_parallel fun here there => ?_) fun result => ?_
  · exact Action.attempt_parallel _ (Action.writeText_timeless _ _ here there)
  · cases result with
    | ok _ => exact .pure _
    | error failure =>
        refine .bind (settings_parallel.bind fun _ => .pure _) fun _ => ?_
        exact (report_parallel _ _).bind fun _ => .throw _

theorem scaffold_parallel (routes : List Route) (packageName : Text) :
    Parallel (Aligned here there) (scaffold routes packageName) := by
  refine settings_parallel.bind fun settings => ?_
  dsimp only
  split
  · refine (act_parallel (Scaffold.run_timeless _ routes)).bind fun outcomes => ?_
    split
    · exact .pure _
    · exact (report_parallel _ _).bind fun _ => .pure _
  · exact .pure _

variable [DocumentLoader]

/-- The options that are loaded become those of the pipeline. -/
def openOptions : Work BuilderOptions := do
  let options ← act (.loadOptions (← settings).builderConfigPath)
  modify fun session => { session with
    pipeline := { session.pipeline with options? := some options } }
  return options

theorem openOptions_parallel : Parallel (Aligned here there) openOptions := by
  refine settings_parallel.bind fun settings => ?_
  refine .bind (act_parallel fun here there => ?_) fun options => ?_
  · exact (Action.sharesFile_inTime _ here there).loadOptions
  · refine .bind (fun first second aligned => ?_) fun _ => .pure options
    exact .ok ⟨⟨⟨aligned.disk, aligned.settings⟩, rfl⟩, aligned.here, aligned.there⟩

theorem options_run (session : Session) :
    options session =
      match session.pipeline.options? with
      | some known => .ok known session
      | none => openOptions session := by
  rw [options, bind_of_ok (get_run session)]
  cases session.pipeline.options? <;> rfl

theorem options_parallel : Parallel (Aligned here there) options := by
  intro first second aligned
  rw [options_run, options_run, aligned.options]
  cases first.pipeline.options? with
  | some known => exact .ok aligned
  | none => exact openOptions_parallel first second aligned

theorem generateRoutes_parallel : Parallel (Aligned here there) generateRoutes := by
  refine settings_parallel.bind fun settings => ?_
  refine (say_parallel _).bind fun _ => routeTable_parallel.bind fun table => ?_
  rw [forM_report]
  refine (act_parallel (Action.showAll_timeless _)).bind fun _ => ?_
  split
  · exact (report_parallel _ _).bind fun _ => .pure _
  · refine (say_parallel _).bind fun _ => options_parallel.bind fun options => ?_
    refine (act_parallel (Action.packageName_timeless settings)).bind fun packageName => ?_
    refine (scaffold_parallel _ _).bind fun scaffolded => ?_
    refine (writeOutput_parallel _ _ _).bind fun _ => ?_
    exact (say_parallel _).bind fun _ => .pure _

theorem generateAssets_parallel : Parallel (Aligned here there) generateAssets := by
  refine settings_parallel.bind fun settings => ?_
  refine (act_parallel (Action.ask_timeless _)).bind fun isThere => ?_
  split
  · refine options_parallel.bind fun options => ?_
    refine .bind (act_parallel fun here there => ?_) fun entries => ?_
    · exact (Action.ask_timeless _ here there).bind fun _ => .pure _
    · refine (writeOutput_parallel _ _ _).bind fun _ => ?_
      exact (say_parallel _).bind fun _ => .pure _
  · exact (report_parallel _ _).bind fun _ => .pure _

theorem generate_parallel (stage : Stage) : Parallel (Aligned here there) (generate stage) := by
  cases stage with
  | routes => exact generateRoutes_parallel.bind fun _ => .pure _
  | assets => exact generateAssets_parallel.bind fun _ => .pure _

/-- Executes stages one after the other, up to the first one that is not completed. -/
def generateEach : List Stage → Work Unit
  | [] => return
  | stage :: stages => do
      let _ ← generate stage
      generateEach stages

end Work

/-- The time from any of the times to any other one can be shown, and so can the time from or to the
start of a clock without times. -/
def Seconds.AreComparable (times : List Seconds) : Prop :=
  ∀ start ∈ whole 0 :: times, ∀ finish ∈ whole 0 :: times,
    ∃ duration, Duration.between start finish = .ok duration

section Tracks

variable [Console]

/-- A project is where a plain one is and has the given settings, its clock shows none but the given
times, and the console shows the outputs that its record names. -/
structure Tracks (project : Settings) (times : List Seconds) (plain recorded : Session) : Prop
    extends Idle plain recorded where
  isProject : plain.pipeline.settings = project
  clock : recorded.workspace.clock ⊆ times
  shown : recorded.pipeline.record.IsShown

/-- A recorded execution ends as a plain one does: it answers whether the plain one has come to its
answer or to the failure of a stage, and it is stopped where the plain one is stopped. -/
inductive Follows {α : Type} (project : Settings) (times : List Seconds) :
    EStateM.Result Failure Session α → EStateM.Result Failure Session Bool → Prop where
  | completed {answer : α} {last later : Session} :
      Tracks project times last later →
      Follows project times (.ok answer last) (.ok true later)
  | failed {stage : Stage} {reason : Text} {last later : Session} :
      Tracks project times last later →
      Follows project times (.error (.stage stage reason) last) (.ok false later)
  | stopped {failure : Failure} {last later : Session} :
      IsNoStage failure →
      Tracks project times last later →
      Follows project times (.error failure last) (.error failure later)

namespace Tracks

variable {project : Settings} {times : List Seconds} {plain recorded : Session}

theorem trans_quiet {later : Session} (tracks : Tracks project times plain recorded)
    (quiet : Quiet recorded later) (shorter : later.workspace.clock ⊆ recorded.workspace.clock) :
    Tracks project times plain later where
  toIdle := IsTrans.trans _ _ _ tracks.toIdle quiet.toIdle
  isProject := tracks.isProject
  clock _ member := tracks.clock (shorter member)
  shown := quiet.record ▸ tracks.shown

theorem showing (tracks : Tracks project times plain recorded) (log : List LogEntry) :
    Tracks project times plain (recorded.showing log) :=
  tracks.trans_quiet ⟨⟨⟨rfl, rfl⟩, rfl⟩, rfl⟩ (List.Subset.refl _)

theorem showAll (tracks : Tracks project times plain recorded) (entries : List LogEntry) :
    ∃ later, Work.act (.showAll entries) recorded = .ok () later ∧
      Tracks project times plain later :=
  ⟨_, rfl, tracks.showing _⟩

theorem report (tracks : Tracks project times plain recorded) (tone : Tone) (message : Text) :
    ∃ later, Work.report tone message recorded = .ok () later ∧
      Tracks project times plain later := by
  rw [Work.report_run]
  exact ⟨_, rfl, tracks.showing _⟩

theorem summary (tracks : Tracks project times plain recorded)
    (measured : ∀ duration ∈ recorded.pipeline.record.duration?, IsUnmarked duration) :
    ∃ later, Work.showSummary recorded = .ok () later ∧
      later.pipeline.record = recorded.pipeline.record ∧ Tracks project times plain later := by
  obtain ⟨log, summed⟩ := Work.showSummary_of_shown tracks.shown measured
  exact ⟨_, summed, rfl, tracks.showing log⟩

theorem note (tracks : Tracks project times plain recorded) (change : RunRecord → RunRecord)
    (shown : (change recorded.pipeline.record).IsShown) :
    Tracks project times plain { recorded with
      pipeline := { recorded.pipeline with record := change recorded.pipeline.record } } :=
  ⟨⟨⟨tracks.disk, tracks.settings⟩, tracks.options⟩, tracks.isProject, tracks.clock, shown⟩

theorem now (tracks : Tracks project times plain recorded) :
    ∃ time later, Work.act .now recorded = .ok time later ∧ time ∈ Seconds.whole 0 :: times ∧
      Tracks project times plain later := by
  obtain ⟨pipeline, ⟨disk, clock, log⟩⟩ := recorded
  rcases clock with _ | ⟨time, _ | ⟨next, clock⟩⟩
  · exact ⟨_, _, rfl, List.mem_cons_self, tracks⟩
  · exact ⟨_, _, rfl, List.mem_cons_of_mem _ (tracks.clock List.mem_cons_self), tracks⟩
  · refine ⟨_, _, rfl, List.mem_cons_of_mem _ (tracks.clock List.mem_cons_self), ?_⟩
    exact tracks.trans_quiet ⟨⟨⟨rfl, rfl⟩, rfl⟩, rfl⟩ fun _ member => List.mem_cons_of_mem _ member

theorem durationSince {start : Seconds} (tracks : Tracks project times plain recorded)
    (comparable : Seconds.AreComparable times) (isTime : start ∈ Seconds.whole 0 :: times) :
    ∃ duration later, Work.durationSince start recorded = .ok duration later ∧
      IsUnmarked duration ∧ Tracks project times plain later := by
  obtain ⟨finish, later, clocked, isFinish, tracks⟩ := tracks.now
  obtain ⟨duration, between⟩ := comparable start isTime finish isFinish
  rw [Work.durationSince, bind_of_ok clocked, between]
  exact ⟨duration.text, later, rfl, duration.isUnmarked_text, tracks⟩

end Tracks

end Tracks

namespace Work

theorem stage_or_isNoStage (failure : Failure) :
    (∃ stage reason, failure = .stage stage reason) ∨ IsNoStage failure := by
  by_cases isStage : ∃ stage reason, failure = .stage stage reason
  · exact .inl isStage
  · exact .inr fun stage reason same => isStage ⟨stage, reason, same⟩

theorem attemptStage_of_isNoStage {α : Type} {work : Work α} {session later : Session}
    {failure : Failure} (failed : work session = .error failure later)
    (noStage : IsNoStage failure) : attemptStage work session = .error failure later := by
  rw [attemptStage_run, failed]
  cases failure with
  | stage stage reason => exact absurd rfl (noStage stage reason)
  | _ => rfl

theorem ofName?_name (stage : Stage) : Stage.ofName? stage.name = some stage := by
  cases stage <;> decide

/-- The sessions have the same settings. -/
def SameSettings (before after : Session) : Prop :=
  after.pipeline.settings = before.pipeline.settings

instance : Std.Refl SameSettings where
  refl _ := rfl

instance : IsTrans Session SameSettings where
  trans _ _ _ first second := Eq.trans second first

variable [Console]

theorem sameSettings_keptByParts : KeptByParts (fun _ => True) (fun _ => True) SameSettings where
  guarded related := related trivial
  reads _ := act_keeps fun _ => rfl
  opens _ _ := rfl
  scaffolds _ _ _ _ _ _ _ _ := (act_after _ _).symm ▸ rfl
  writes _ _ _ _ _ := act_keeps fun _ => rfl

variable {project : Settings} {times : List Seconds} {plain recorded : Session}

theorem report_duration_tracks {start : Seconds} {tone : Tone} {text : Text → Text} {answer : Bool}
    (tracks : Tracks project times plain recorded) (comparable : Seconds.AreComparable times)
    (isTime : start ∈ Seconds.whole 0 :: times) :
    ∃ later, (do
      report tone (text (← Work.durationSince start))
      return answer : Work Bool) recorded = .ok answer later ∧
        Tracks project times plain later := by
  obtain ⟨duration, timed, measured, -, tracks⟩ := tracks.durationSince comparable isTime
  obtain ⟨later, reported, tracks⟩ := tracks.report tone (text duration)
  refine ⟨later, ?_, tracks⟩
  rw [bind_of_ok measured]
  exact bind_of_ok reported

/-- What a run does when its stages have come to an end, and whether it was a success. -/
def endAndTell (start : Seconds) (success : Bool) : Work Bool := do
  note fun record => { record with success }
  let duration ← Work.durationSince start
  note fun record => { record with duration? := some duration }
  showSummary
  return (← get).pipeline.record.success

theorem endAndTell_tracks {start : Seconds} (tracks : Tracks project times plain recorded)
    (success : Bool) (comparable : Seconds.AreComparable times)
    (isTime : start ∈ Seconds.whole 0 :: times) :
    ∃ later, endAndTell start success recorded = .ok success later ∧
      Tracks project times plain later := by
  have noted := tracks.note (fun record => { record with success }) tracks.shown
  obtain ⟨duration, timed, measured, isDuration, tracks⟩ := noted.durationSince comparable isTime
  have sameRecord := ((durationSince_quiet start).of_ok measured).record
  have closed := tracks.note (fun record => { record with duration? := some duration }) tracks.shown
  obtain ⟨later, summed, stillRecord, tracks⟩ := closed.summary fun known isKnown => by
    cases isKnown
    exact isDuration
  have succeeded : later.pipeline.record.success = success :=
    congrArg RunRecord.success (stillRecord.trans (congrArg (fun record : RunRecord =>
      { record with duration? := some duration }) sameRecord))
  refine ⟨later, ?_, tracks⟩
  rw [endAndTell, bind_of_ok (note_run _ _), bind_of_ok measured, bind_of_ok (note_run _ _),
    bind_of_ok summed, bind_of_ok (get_run later), succeeded]
  rfl

variable [DocumentLoader]

/-- What a stage gives is recorded with the output of the stage, if there is one. -/
theorem generate_isShown {stage : Stage} {change : RunRecord → RunRecord} {before later : Session}
    (run : generate stage before = .ok change later)
    (output : Console.fault? (before.pipeline.settings.outputPath stage).text = none)
    {record : RunRecord} (shown : record.IsShown) : (change record).IsShown := by
  obtain ⟨shownRoutes, shownAssets⟩ := List.forall_mem_append.mp shown
  cases stage with
  | routes =>
      obtain ⟨result, middle, generated, ended⟩ := bind_eq_ok_iff.mp run
      cases ended
      refine List.forall_mem_append.mpr ⟨?_, shownAssets⟩
      rcases generateRoutes_eq_ok generated with
        ⟨_, _, _, rfl, _⟩ | ⟨_, _, _, _, _, _, _, _, _, rfl⟩
      · exact List.forall_mem_nil _
      · exact List.forall_mem_singleton.mpr output
  | assets =>
      obtain ⟨result, middle, generated, ended⟩ := bind_eq_ok_iff.mp run
      cases ended
      refine List.forall_mem_append.mpr ⟨shownRoutes, ?_⟩
      rcases generateAssets_eq_ok generated with ⟨_, rfl, _⟩ | ⟨_, _, _, _, _, _, rfl⟩
      · exact List.forall_mem_nil _
      · exact List.forall_mem_singleton.mpr output

/-- A stage does the same for a project that is recorded. -/
theorem generate_tracks (tracks : Tracks project times plain recorded) (stage : Stage) :
    (∃ change last later, generate stage plain = .ok change last ∧
        generate stage recorded = .ok change later ∧ Tracks project times last later) ∨
      ∃ failure last later, generate stage plain = .error failure last ∧
        generate stage recorded = .error failure later ∧ Tracks project times last later := by
  have sameSettings : SameSettings plain (after (generate stage) plain) :=
    sameSettings_keptByParts.generate trivial plain
  have sameRecord : SameRecord recorded (after (generate stage) recorded) :=
    sameRecord_keptByParts.generate trivial recorded
  have stillTracks {last later : Session}
      (aligned : Aligned plain.workspace.clock recorded.workspace.clock last later)
      (isLast : after (generate stage) plain = last)
      (isLater : after (generate stage) recorded = later) : Tracks project times last later := by
    rw [isLast] at sameSettings
    rw [isLater] at sameRecord
    exact ⟨aligned.toIdle, sameSettings.trans tracks.isProject, aligned.there ▸ tracks.clock,
      sameRecord ▸ tracks.shown⟩
  rcases (generate_parallel stage plain recorded ⟨tracks.toIdle, rfl, rfl⟩).ok_or_error with
    ⟨change, last, later, runPlain, runRecorded, aligned⟩ |
    ⟨failure, last, later, runPlain, runRecorded, aligned⟩
  · exact .inl ⟨change, last, later, runPlain, runRecorded,
      stillTracks aligned (after_of_ok runPlain) (after_of_ok runRecorded)⟩
  · exact .inr ⟨failure, last, later, runPlain, runRecorded,
      stillTracks aligned (after_of_error runPlain) (after_of_error runRecorded)⟩

/-- A stage that is recorded ends as it ends alone. -/
theorem runStage_follows (comparable : Seconds.AreComparable times)
    (tracks : Tracks project times plain recorded) {stage : Stage}
    (output : Console.fault? (project.outputPath stage).text = none) :
    Follows project times (generate stage plain) (runStage stage recorded) := by
  obtain ⟨headed, shown, tracks⟩ := tracks.showAll stage.headerEntries
  obtain ⟨start, started, clocked, isTime, tracks⟩ := tracks.now
  rw [runStage, Action.header_eq, bind_of_ok shown, bind_of_ok clocked]
  rcases generate_tracks tracks stage with
    ⟨change, last, finished, runPlain, runStarted, stillTracks⟩ |
    ⟨failure, last, finished, runPlain, runStarted, stillTracks⟩
  · have attempted : attemptStage (generate stage) started = .ok (.ok change) finished := by
      rw [attemptStage_run, runStarted]
    have noted := generate_isShown runPlain (tracks.isProject ▸ output) stillTracks.shown
    obtain ⟨later, ended, tracks⟩ := report_duration_tracks
      (stillTracks.note (fun record => (change record).complete stage) noted) comparable isTime
    rw [runPlain, bind_of_ok attempted]
    dsimp only
    rw [bind_of_ok (note_run _ _), ended]
    exact .completed tracks
  · rw [runPlain]
    -- Only the failure of a stage is caught.
    rcases stage_or_isNoStage failure with ⟨failed, reason, rfl⟩ | noStage
    · obtain ⟨later, ended, tracks⟩ := report_duration_tracks
        (stillTracks.note (·.fail stage (Failure.stage failed reason).message)
          (stillTracks.shown.fail stage _)) comparable isTime
      rw [bind_of_ok (attemptStage_of_stage runStarted)]
      dsimp only
      rw [bind_of_ok (note_run _ _), ended]
      exact .failed tracks
    · rw [bind_of_error (attemptStage_of_isNoStage runStarted noStage)]
      exact .stopped noStage stillTracks

/-- A run over stages ends as the stages end one after the other. -/
theorem runStages_follows (comparable : Seconds.AreComparable times)
    (tracks : Tracks project times plain recorded) {stages : List Stage}
    (outputs : ∀ stage ∈ stages, Console.fault? (project.outputPath stage).text = none) :
    Follows project times (generateEach stages plain)
      (runStages (stages.map Stage.name) recorded) := by
  induction stages generalizing plain recorded with
  | nil => exact .completed tracks
  | cons stage stages induction =>
      obtain ⟨output, others⟩ := List.forall_mem_cons.mp outputs
      have follows := runStage_follows comparable tracks output
      rw [generateEach, List.map_cons, runStages, ofName?_name]
      dsimp only
      rw [bind_run, bind_run]
      generalize generate stage plain = alone at follows
      generalize runStage stage recorded = ended at follows
      cases follows with
      | completed tracks => exact induction tracks others
      | failed tracks => exact .failed tracks
      | stopped noStage tracks => exact .stopped noStage tracks

/-- A run with its summary, which tells at the end whether it was a success. -/
def runAndTell (stages : List Stage) : Work Bool := do
  run (stages.map Stage.name)
  showSummary
  return (← get).pipeline.record.success

/-- What a run does in front of its stages is to read, but for the panel that it shows. -/
theorem runAndTell_begins {root : Path} (stages : List Stage)
    (tracks : Tracks project times plain recorded)
    (resolved : recorded.workspace.disk.resolve project.projectRoot = .ok root) :
    ∃ start started, start ∈ Seconds.whole 0 :: times ∧ Quiet recorded started ∧
      Tracks project times plain started ∧
      runAndTell stages recorded =
        (act (.frame (panelText root (stages.map Stage.name))) >>= fun _ =>
          runStages (stages.map Stage.name) >>= endAndTell start) started := by
  obtain ⟨start, started, clocked, isTime, startTracks⟩ := tracks.now
  have quiet := (act_quiet Action.now_reads).of_ok clocked
  have isProject : started.pipeline.settings = project :=
    startTracks.settings.trans startTracks.isProject
  have asked : act (.ask (·.resolve project.projectRoot)) started = .ok root started := by
    rw [act_run, Action.ask_run, quiet.disk, resolved]
  refine ⟨start, started, isTime, quiet, startTracks, ?_⟩
  simp only [runAndTell, run, bind_assoc]
  rw [bind_of_ok clocked, bind_of_ok (settings_run started), isProject, bind_of_ok asked]
  rfl

/-- A run ends with success if its stages are completed one after the other, it ends without if one
of them fails, and it is stopped where they are stopped. -/
theorem runAndTell_follows {root : Path} {stages : List Stage}
    (comparable : Seconds.AreComparable times) (tracks : Tracks project times plain recorded)
    (resolved : recorded.workspace.disk.resolve project.projectRoot = .ok root)
    (panel : Console.fault? (panelText root (stages.map Stage.name)) = none)
    (outputs : ∀ stage ∈ stages, Console.fault? (project.outputPath stage).text = none) :
    Follows project times (generateEach stages plain) (runAndTell stages recorded) := by
  obtain ⟨start, started, isTime, -, startTracks, goes⟩ :=
    runAndTell_begins stages tracks resolved
  obtain ⟨framed, shown, framedTracks⟩ :=
    startTracks.showAll [.frame (panelText root (stages.map Stage.name))]
  have frames : Action.frame (panelText root (stages.map Stage.name)) =
      .showAll [.frame (panelText root (stages.map Stage.name))] := by
    funext workspace
    rw [Action.frame, Action.display_run, List.findSome?_singleton, panel]
    rfl
  have follows := runStages_follows comparable framedTracks outputs
  rw [goes, frames, bind_of_ok shown, bind_run]
  generalize generateEach stages plain = alone at follows ⊢
  generalize runStages (stages.map Stage.name) framed = ended at follows
  cases follows with
  | completed tracks =>
      obtain ⟨later, ends, tracks⟩ := endAndTell_tracks tracks true comparable isTime
      dsimp only
      rw [ends]
      exact .completed tracks
  | failed tracks =>
      obtain ⟨later, ends, tracks⟩ := endAndTell_tracks tracks false comparable isTime
      dsimp only
      rw [ends]
      exact .failed tracks
  | stopped noStage tracks => exact .stopped noStage tracks

end Work

end DartRoutes
