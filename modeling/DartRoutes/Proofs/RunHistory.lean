import DartRoutes.Proofs.StageFlow
import DartRoutes.Proofs.StageParts
import DartRoutes.Standard
import Mathlib.Data.List.Forall2

/-!
# The record of many runs

A run executes the known stages of its names one after the other, up to the first one that fails.
The record of a pipeline is what the stages of all its runs have come to: which were completed and
which failed, and for each stage the latest result and the latest reason of a failure.
-/

namespace DartRoutes

open Effect

/-- What a completed stage gives. -/
inductive StageResult where
  | routes (result : RoutesResult)
  | assets (result : AssetsResult)
  deriving DecidableEq, Repr

/-- A stage that is executed, and its result or the reason of its failure. -/
structure Execution where
  stage : Stage
  result : Except Text StageResult

namespace Execution

def isCompleted (execution : Execution) : Bool :=
  execution.result.isOk

/-- The result that an execution records for a stage. -/
def result? (stage : Stage) (execution : Execution) : Option StageResult :=
  match execution.result with
  | .ok result => if execution.stage = stage then some result else none
  | .error _ => none

/-- The reason of a failure that an execution records for a stage. -/
def error? (stage : Stage) (execution : Execution) : Option Text :=
  match execution.result with
  | .ok _ => none
  | .error reason => if execution.stage = stage then some reason else none

theorem isSome_result?_iff {stage : Stage} {execution : Execution} :
    (execution.result? stage).isSome ↔ execution.isCompleted ∧ execution.stage = stage := by
  obtain ⟨executed, result⟩ := execution
  cases result <;> by_cases same : executed = stage <;>
    simp [result?, isCompleted, Except.isOk, Except.toBool, same]

theorem isSome_error?_iff {stage : Stage} {execution : Execution} :
    (execution.error? stage).isSome ↔
      execution.isCompleted = false ∧ execution.stage = stage := by
  obtain ⟨executed, result⟩ := execution
  cases result <;> by_cases same : executed = stage <;>
    simp [error?, isCompleted, Except.isOk, Except.toBool, same]

end Execution

namespace RunRecord

/-- The recorded result of a stage. -/
def result? (record : RunRecord) : Stage → Option StageResult
  | .routes => record.routes?.map .routes
  | .assets => record.assets?.map .assets

/-- The recorded reason of a stage's failure. -/
def error? (record : RunRecord) : Stage → Option Text
  | .routes => record.routesError?
  | .assets => record.assetsError?

/-- One record comes from another by entering executions. -/
structure Grows (before after : RunRecord) (executions : List Execution) : Prop where
  completed : after.completed =
    before.completed ++ (executions.filter Execution.isCompleted).map Execution.stage
  failed : after.failed =
    before.failed ++ (executions.filter (!·.isCompleted)).map Execution.stage
  result : ∀ stage, after.result? stage =
    (executions.filterMap (Execution.result? stage)).getLast?.or (before.result? stage)
  error : ∀ stage, after.error? stage =
    (executions.filterMap (Execution.error? stage)).getLast?.or (before.error? stage)

theorem Grows.append {before middle after : RunRecord} {first second : List Execution}
    (growsFirst : Grows before middle first) (growsSecond : Grows middle after second) :
    Grows before after (first ++ second) where
  completed := by
    rw [growsSecond.completed, growsFirst.completed, List.filter_append, List.map_append,
      List.append_assoc]
  failed := by
    rw [growsSecond.failed, growsFirst.failed, List.filter_append, List.map_append,
      List.append_assoc]
  result stage := by
    rw [growsSecond.result, growsFirst.result, List.filterMap_append, List.getLast?_append,
      Option.or_assoc]
  error stage := by
    rw [growsSecond.error, growsFirst.error, List.filterMap_append, List.getLast?_append,
      Option.or_assoc]

/-- Success and duration of a run are no part of what executions enter. -/
theorem Grows.close {before after : RunRecord} {executions : List Execution}
    (grows : Grows before after executions) (success : Bool) (duration? : Option Text) :
    Grows before { after with success, duration? } executions where
  completed := grows.completed
  failed := grows.failed
  result stage := by
    cases stage with
    | routes => exact grows.result .routes
    | assets => exact grows.result .assets
  error stage := by
    cases stage with
    | routes => exact grows.error .routes
    | assets => exact grows.error .assets

theorem Grows.refl (record : RunRecord) : Grows record record [] :=
  ⟨(List.append_nil _).symm, (List.append_nil _).symm, fun _ => rfl, fun _ => rfl⟩

theorem grows_complete_routes (record : RunRecord) (result : RoutesResult) :
    Grows record (RunRecord.complete .routes { record with routes? := some result })
      [⟨.routes, .ok (.routes result)⟩] where
  completed := rfl
  failed := (List.append_nil _).symm
  result stage := by cases stage <;> rfl
  error stage := by cases stage <;> rfl

theorem grows_complete_assets (record : RunRecord) (result : AssetsResult) :
    Grows record (RunRecord.complete .assets { record with assets? := some result })
      [⟨.assets, .ok (.assets result)⟩] where
  completed := rfl
  failed := (List.append_nil _).symm
  result stage := by cases stage <;> rfl
  error stage := by cases stage <;> rfl

theorem grows_fail (record : RunRecord) (stage : Stage) (reason : Text) :
    Grows record (record.fail stage reason) [⟨stage, .error reason⟩] := by
  cases stage with
  | routes =>
      refine ⟨(List.append_nil _).symm, rfl, fun stage => ?_, fun stage => ?_⟩
      · cases stage <;> rfl
      · cases stage <;> rfl
  | assets =>
      refine ⟨(List.append_nil _).symm, rfl, fun stage => ?_, fun stage => ?_⟩
      · cases stage <;> rfl
      · cases stage <;> rfl

end RunRecord

/-- Nothing has happened to a project but that the clock has gone on, something was shown, or the
record was changed. -/
structure Idle (before after : Session) : Prop extends SameProject before after where
  options : after.pipeline.options? = before.pipeline.options?

/-- Nothing has happened to a project but that the clock has gone on or something was shown. -/
structure Quiet (before after : Session) : Prop extends Idle before after where
  record : after.pipeline.record = before.pipeline.record

instance : Std.Refl Idle where
  refl _ := ⟨Std.Refl.refl _, rfl⟩

instance : IsTrans Session Idle where
  trans _ _ _ first second :=
    ⟨IsTrans.trans _ _ _ first.toSameProject second.toSameProject,
      second.options.trans first.options⟩

instance : Std.Refl Quiet where
  refl _ := ⟨Std.Refl.refl _, rfl⟩

instance : IsTrans Session Quiet where
  trans _ _ _ first second :=
    ⟨IsTrans.trans _ _ _ first.toIdle second.toIdle, second.record.trans first.record⟩

/-- How a run went: the executions of the stages that it completed, the execution of the stage that
failed, and the known stages behind it. -/
structure RunTrace where
  completed : List Execution
  failing? : Option Execution
  unreached : List Stage

/-- The executions of a run in their order. -/
def RunTrace.executions (trace : RunTrace) : List Execution :=
  trace.completed ++ trace.failing?.toList

/-- A run of a pipeline that has come to an end. -/
structure PastRun where
  names : List Text
  before : Session
  later : Session

def PastRun.isSuccess (run : PastRun) : Bool :=
  run.later.pipeline.record.success

namespace Work

/-- The sessions have the same record. -/
def SameRecord (before after : Session) : Prop :=
  after.pipeline.record = before.pipeline.record

instance : Std.Refl SameRecord where
  refl _ := rfl

instance : IsTrans Session SameRecord where
  trans _ _ _ first second := Eq.trans second first

theorem act_sameRecord {α : Type} (action : Action α) : Keeps SameRecord (act action) :=
  act_keeps fun _ => rfl

/-- How a stage's result is recorded does not matter for how the stage ends. -/
theorem attemptStage_bind_pure {α β : Type} (work : Work α) (change : α → β) (session : Session) :
    attemptStage (work >>= fun answer => pure (change answer)) session =
      match attemptStage work session with
      | .ok result later => .ok (result.map change) later
      | .error failure later => .error failure later := by
  rw [attemptStage_run, attemptStage_run, bind_run]
  cases run : work session with
  | ok answer later => rfl
  | error failure later => cases failure <;> rfl

theorem act_quiet {α : Type} {action : Action α} (reads : action.Reads) :
    Keeps Quiet (act action) :=
  act_keeps fun session => ⟨⟨⟨reads.keeps session.workspace, rfl⟩, rfl⟩, rfl⟩

theorem durationSince_quiet (start : Seconds) : Keeps Quiet (durationSince start) := by
  refine (act_quiet Action.now_reads).bind fun time => ?_
  split
  · exact .pure _
  · exact .throw _

theorem note_run (change : RunRecord → RunRecord) (session : Session) :
    note change session = .ok () { session with
      pipeline := { session.pipeline with record := change session.pipeline.record } } :=
  rfl

end Work

theorem isSome_getLast?_filterMap_iff {α β : Type} {answer? : α → Option β} {items : List α} :
    (items.filterMap answer?).getLast?.isSome ↔ ∃ item ∈ items, (answer? item).isSome := by
  rw [← Option.ne_none_iff_isSome, Ne, List.getLast?_eq_none_iff, List.filterMap_eq_nil_iff]
  constructor
  · intro someAnswers
    obtain ⟨item, answers⟩ := not_forall.mp someAnswers
    obtain ⟨member, answers⟩ := Classical.not_imp.mp answers
    exact ⟨item, member, Option.ne_none_iff_isSome.mp answers⟩
  · rintro ⟨item, member, answers⟩ noAnswers
    rw [noAnswers item member] at answers
    cases answers

section Runs

variable [Console]

namespace Work

theorem sameRecord_keptByParts : KeptByParts (fun _ => True) (fun _ => True) SameRecord where
  guarded related := related trivial
  reads _ := act_sameRecord _
  opens _ _ := rfl
  scaffolds _ _ _ _ _ _ _ _ := act_sameRecord _ _
  writes _ _ _ _ _ := act_sameRecord _

theorem report_quiet (tone : Tone) (message : Text) : Keeps Quiet (report tone message) :=
  act_quiet (Action.report_reads _ _)

theorem report_duration {start : Seconds} {tone : Tone} {text : Text → Text}
    {answer result : Bool} {before later : Session}
    (run : (do
      report tone (text (← durationSince start))
      return answer : Work Bool) before = .ok result later) :
    result = answer ∧ Quiet before later := by
  obtain ⟨duration, timed, clocked, run⟩ := bind_eq_ok_iff.mp run
  obtain ⟨_, reported, shown, run⟩ := bind_eq_ok_iff.mp run
  cases run
  exact ⟨rfl, IsTrans.trans _ _ _ ((durationSince_quiet start).of_ok clocked)
    ((report_quiet _ _).of_ok shown)⟩

end Work

variable [DocumentLoader]

/-- A stage is executed: it starts in one session and is done in another. -/
inductive Executed : Session → Execution → Session → Prop where
  | routes {before after : Session} {result : Except Text RoutesResult} :
      Work.attemptStage Work.generateRoutes before = .ok result after →
      Executed before ⟨.routes, result.map .routes⟩ after
  | assets {before after : Session} {result : Except Text AssetsResult} :
      Work.attemptStage Work.generateAssets before = .ok result after →
      Executed before ⟨.assets, result.map .assets⟩ after

/-- Nothing but the given executions happens to a project, one after the other. -/
inductive Performed : Session → List Execution → Session → Prop where
  | done {before after : Session} : Idle before after → Performed before [] after
  | next {before started finished after : Session} {execution : Execution}
      {executions : List Execution} :
      Idle before started →
      Executed started execution finished →
      Performed finished executions after →
      Performed before (execution :: executions) after

/-- The run of the stages of the given names went from one session to another in the way of the
trace. -/
structure RunTrace.Describes (trace : RunTrace) (names : List Text) (before later : Session) :
    Prop where
  performed : Performed before trace.executions later
  completed : ∀ execution ∈ trace.completed, execution.isCompleted = true
  failing : ∀ execution ∈ trace.failing?.toList, execution.isCompleted = false
  known : names.filterMap Stage.ofName? =
    trace.executions.map Execution.stage ++ trace.unreached
  unreached : trace.failing? = none → trace.unreached = []
  grows : before.pipeline.record.Grows later.pipeline.record trace.executions

theorem Idle.performed {before middle after : Session} {executions : List Execution}
    (idle : Idle before middle) (performed : Performed middle executions after) :
    Performed before executions after := by
  cases performed with
  | done rest => exact .done (IsTrans.trans _ _ _ idle rest)
  | next start executed rest => exact .next (IsTrans.trans _ _ _ idle start) executed rest

theorem Performed.append {before middle after : Session} {first second : List Execution}
    (performedFirst : Performed before first middle)
    (performedSecond : Performed middle second after) :
    Performed before (first ++ second) after := by
  induction performedFirst with
  | done idle => exact idle.performed performedSecond
  | next start executed _ induction => exact .next start executed (induction performedSecond)

namespace Work

theorem exists_executed {stage : Stage} {before after : Session}
    {result : Except Text (RunRecord → RunRecord)}
    (attempted : attemptStage (generate stage) before = .ok result after) :
    ∃ execution, Executed before execution after ∧ execution.stage = stage ∧
      execution.isCompleted = result.isOk ∧
      ∀ record, RunRecord.Grows record
        (match result with
          | .ok change => (change record).complete stage
          | .error reason => record.fail stage reason) [execution] := by
  cases stage with
  | routes =>
      rw [generate, attemptStage_bind_pure] at attempted
      split at attempted
      · rename_i result later executed
        cases attempted
        refine ⟨_, .routes executed, rfl, ?_⟩
        cases result with
        | ok result => exact ⟨rfl, fun record => record.grows_complete_routes result⟩
        | error reason => exact ⟨rfl, fun record => record.grows_fail .routes reason⟩
      · cases attempted
  | assets =>
      rw [generate, attemptStage_bind_pure] at attempted
      split at attempted
      · rename_i result later executed
        cases attempted
        refine ⟨_, .assets executed, rfl, ?_⟩
        cases result with
        | ok result => exact ⟨rfl, fun record => record.grows_complete_assets result⟩
        | error reason => exact ⟨rfl, fun record => record.grows_fail .assets reason⟩
      · cases attempted

/-- A stage that comes to an end is executed once, and its record says how it ended. -/
theorem runStage_eq_ok {stage : Stage} {before later : Session} {completed : Bool}
    (run : runStage stage before = .ok completed later) :
    ∃ execution, Performed before [execution] later ∧ execution.stage = stage ∧
      execution.isCompleted = completed ∧
      before.pipeline.record.Grows later.pipeline.record [execution] := by
  obtain ⟨_, headed, shown, run⟩ := bind_eq_ok_iff.mp run
  obtain ⟨start, started, clocked, run⟩ := bind_eq_ok_iff.mp run
  obtain ⟨result, finished, attempted, run⟩ := bind_eq_ok_iff.mp run
  have quiet : Quiet before started :=
    IsTrans.trans _ _ _ ((act_quiet (Action.header_reads _ _)).of_ok shown)
      ((act_quiet Action.now_reads).of_ok clocked)
  have sameRecord : finished.pipeline.record = before.pipeline.record :=
    ((sameRecord_keptByParts.attemptStage trivial).of_ok attempted).trans quiet.record
  obtain ⟨execution, executed, ofStage, isCompleted, grows⟩ := exists_executed attempted
  -- Both ways to end note something and report a duration.
  have closes {record : RunRecord} (ended : Quiet { finished with
      pipeline := { finished.pipeline with record } } later)
      (grows : finished.pipeline.record.Grows record [execution]) :
      Performed before [execution] later ∧
        before.pipeline.record.Grows later.pipeline.record [execution] := by
    have idle : Idle finished later := ⟨⟨ended.disk, ended.settings⟩, ended.options⟩
    rw [ended.record, ← sameRecord]
    exact ⟨.next quiet.toIdle executed (.done idle), grows⟩
  refine ⟨execution, ?_⟩
  cases result with
  | ok change =>
      dsimp only at run grows
      rw [bind_of_ok (note_run _ _)] at run
      obtain ⟨rfl, ended⟩ := report_duration run
      obtain ⟨performed, grown⟩ := closes ended (grows _)
      exact ⟨performed, ofStage, isCompleted, grown⟩
  | error reason =>
      dsimp only at run grows
      rw [bind_of_ok (note_run _ _)] at run
      obtain ⟨rfl, ended⟩ := report_duration run
      obtain ⟨performed, grown⟩ := closes ended (grows _)
      exact ⟨performed, ofStage, isCompleted, grown⟩

/-- Stages that come to an end are executed up to the first one that fails. -/
theorem runStages_eq_ok {names : List Text} {before later : Session} {success : Bool}
    (run : runStages names before = .ok success later) :
    ∃ trace : RunTrace, trace.Describes names before later ∧ success = trace.failing?.isNone := by
  induction names generalizing before with
  | nil =>
      cases run
      refine ⟨⟨[], none, []⟩, ⟨.done (Std.Refl.refl _), List.forall_mem_nil _,
        List.forall_mem_nil _, rfl, fun _ => rfl, .refl _⟩, rfl⟩
  | cons name names induction =>
      rw [runStages] at run
      cases known : Stage.ofName? name with
      | none =>
          rw [known] at run
          obtain ⟨_, warned, shown, run⟩ := bind_eq_ok_iff.mp run
          have quiet := (report_quiet _ _).of_ok shown
          obtain ⟨trace, describes, succeeded⟩ := induction run
          refine ⟨trace, ⟨quiet.toIdle.performed describes.performed, describes.completed,
            describes.failing, ?_, describes.unreached, ?_⟩, succeeded⟩
          · rw [List.filterMap_cons_none known, describes.known]
          · rw [← quiet.record]
            exact describes.grows
      | some stage =>
          rw [known] at run
          obtain ⟨completed, middle, ran, run⟩ := bind_eq_ok_iff.mp run
          obtain ⟨execution, performed, ofStage, isCompleted, grows⟩ := runStage_eq_ok ran
          cases completed with
          | false =>
              cases run
              refine ⟨⟨[], some execution, names.filterMap Stage.ofName?⟩, ⟨performed,
                List.forall_mem_nil _, List.forall_mem_singleton.mpr isCompleted, ?_,
                fun none => absurd none (Option.some_ne_none _), grows⟩, rfl⟩
              rw [List.filterMap_cons_some known, ← ofStage]
              rfl
          | true =>
              obtain ⟨trace, describes, succeeded⟩ := induction run
              refine ⟨⟨execution :: trace.completed, trace.failing?, trace.unreached⟩,
                ⟨performed.append describes.performed,
                  List.forall_mem_cons.mpr ⟨isCompleted, describes.completed⟩, describes.failing,
                  ?_, describes.unreached, grows.append describes.grows⟩, succeeded⟩
              rw [List.filterMap_cons_some known, describes.known, ← ofStage]
              rfl

/-- A run that comes to an end executes its stages and records whether one of them failed. -/
theorem run_eq_ok {names : List Text} {before later : Session}
    (ran : run names before = .ok () later) :
    ∃ trace : RunTrace, trace.Describes names before later ∧
      later.pipeline.record.success = trace.failing?.isNone := by
  obtain ⟨start, started, clocked, ran⟩ := bind_eq_ok_iff.mp ran
  obtain ⟨settings, _, answered, ran⟩ := bind_eq_ok_iff.mp ran
  cases answered
  obtain ⟨root, resolved, asked, ran⟩ := bind_eq_ok_iff.mp ran
  obtain ⟨_, framed, shown, ran⟩ := bind_eq_ok_iff.mp ran
  obtain ⟨success, finished, executed, ran⟩ := bind_eq_ok_iff.mp ran
  obtain ⟨_, noted, recorded, ran⟩ := bind_eq_ok_iff.mp ran
  cases recorded
  obtain ⟨duration, timed, measured, ran⟩ := bind_eq_ok_iff.mp ran
  cases ran
  have quiet : Quiet before framed :=
    IsTrans.trans _ _ _
      (IsTrans.trans _ _ _ ((act_quiet Action.now_reads).of_ok clocked)
        ((act_quiet (Action.ask_reads _)).of_ok asked))
      ((act_quiet (Action.display_reads _ _)).of_ok shown)
  have ended := (durationSince_quiet start).of_ok measured
  obtain ⟨trace, describes, succeeded⟩ := runStages_eq_ok executed
  refine ⟨trace, ⟨?_, describes.completed, describes.failing, describes.known,
    describes.unreached, ?_⟩, ?_⟩
  · have idle : Idle finished timed := ⟨⟨ended.disk, ended.settings⟩, ended.options⟩
    rw [← List.append_nil trace.executions]
    refine (quiet.toIdle.performed describes.performed).append (.done ?_)
    exact ⟨⟨idle.disk, idle.settings⟩, idle.options⟩
  · have grows := describes.grows
    rw [quiet.record] at grows
    simp only [ended.record]
    exact grows.close success (some duration)
  · simp only [ended.record]
    exact succeeded

end Work

namespace RunTrace

variable {trace : RunTrace} {names : List Text} {before later : Session}

theorem Describes.completed_eq (describes : trace.Describes names before later) :
    later.pipeline.record.completed =
      before.pipeline.record.completed ++ trace.completed.map Execution.stage := by
  have none : trace.failing?.toList.filter Execution.isCompleted = [] :=
    List.filter_eq_nil_iff.mpr fun execution member =>
      Bool.not_eq_true _ ▸ describes.failing execution member
  rw [describes.grows.completed, executions, List.filter_append, none, List.append_nil,
    List.filter_eq_self.mpr describes.completed]

theorem Describes.failed_eq (describes : trace.Describes names before later) :
    later.pipeline.record.failed =
      before.pipeline.record.failed ++ trace.failing?.toList.map Execution.stage := by
  have none : trace.completed.filter (!·.isCompleted) = [] :=
    List.filter_eq_nil_iff.mpr fun execution member => by
      rw [describes.completed execution member]
      decide
  have all : trace.failing?.toList.filter (!·.isCompleted) = trace.failing?.toList :=
    List.filter_eq_self.mpr fun execution member => by
      rw [describes.failing execution member]
      rfl
  rw [describes.grows.failed, executions, List.filter_append, none, List.nil_append, all]

/-- The list of failed stages grows exactly in the runs that end without success. -/
theorem Describes.isNone_failing?_iff (describes : trace.Describes names before later) :
    trace.failing?.isNone = true ↔
      later.pipeline.record.failed = before.pipeline.record.failed := by
  rw [describes.failed_eq]
  cases trace.failing? with
  | none => simp
  | some execution => simp

end RunTrace

/-- The runs of one pipeline from its start; the workspace may change in any way between them. -/
inductive History (settings : Settings) : List PastRun → Pipeline → Prop where
  | start : History settings [] (.ofSettings settings)
  | run {runs : List PastRun} {pipeline : Pipeline} {workspace : Workspace} {names : List Text}
      {later : Session} :
      History settings runs pipeline →
      Work.run names ⟨pipeline, workspace⟩ = .ok () later →
      History settings (runs ++ [⟨names, ⟨pipeline, workspace⟩, later⟩]) later.pipeline

/-- The trace of a past run, which also tells whether the run was a success. -/
def PastRun.IsTrace (run : PastRun) (trace : RunTrace) : Prop :=
  trace.Describes run.names run.before run.later ∧ run.isSuccess = trace.failing?.isNone

namespace History

variable {settings : Settings} {runs : List PastRun} {pipeline : Pipeline}

/-- The record of a pipeline comes from the empty one by entering all executions of its runs. -/
theorem exists_traces (history : History settings runs pipeline) :
    ∃ traces : List RunTrace, List.Forall₂ PastRun.IsTrace runs traces ∧
      RunRecord.empty.Grows pipeline.record (traces.flatMap RunTrace.executions) := by
  induction history with
  | start => exact ⟨[], .nil, .refl _⟩
  | run history ran induction =>
      obtain ⟨traces, areTraces, grows⟩ := induction
      obtain ⟨trace, describes, success⟩ := Work.run_eq_ok ran
      refine ⟨traces ++ [trace], ?_, ?_⟩
      · exact List.rel_append areTraces (.cons ⟨describes, success⟩ .nil)
      · rw [List.flatMap_append, List.flatMap_singleton]
        exact grows.append describes.grows

theorem isSome_result?_iff (history : History settings runs pipeline) (stage : Stage) :
    (pipeline.record.result? stage).isSome ↔ stage ∈ pipeline.record.completed := by
  obtain ⟨traces, _, grows⟩ := history.exists_traces
  have isEmpty : RunRecord.empty.result? stage = none := by cases stage <;> rfl
  rw [grows.result, isEmpty, Option.or_none, isSome_getLast?_filterMap_iff, grows.completed]
  simp only [RunRecord.empty, List.nil_append, List.mem_map, List.mem_filter,
    Execution.isSome_result?_iff, and_assoc]

theorem isSome_error?_iff (history : History settings runs pipeline) (stage : Stage) :
    (pipeline.record.error? stage).isSome ↔ stage ∈ pipeline.record.failed := by
  obtain ⟨traces, _, grows⟩ := history.exists_traces
  have isEmpty : RunRecord.empty.error? stage = none := by cases stage <;> rfl
  rw [grows.error, isEmpty, Option.or_none, isSome_getLast?_filterMap_iff, grows.failed]
  simp only [RunRecord.empty, List.nil_append, List.mem_map, List.mem_filter,
    Execution.isSome_error?_iff, and_assoc, Bool.not_eq_true']

/-- The failed stages are as many as the runs without success. -/
theorem length_failed (history : History settings runs pipeline) :
    pipeline.record.failed.length = runs.countP (!·.isSuccess) := by
  induction history with
  | start => rfl
  | run history ran induction =>
      obtain ⟨trace, describes, success⟩ := Work.run_eq_ok ran
      rw [describes.failed_eq, List.length_append, induction, List.countP_append,
        List.countP_singleton, PastRun.isSuccess, success, List.length_map]
      cases trace.failing? <;> rfl

/--
Every run of a pipeline has a trace: the stages that it completed are appended to the completed
ones, at most one stage is appended to the failed ones, no known stage behind it is executed, and
the run is a success exactly if the failed ones stay the same. There are as many failed stages as
runs without success. The recorded result of a stage is the latest one, and it is there exactly if
the stage is among the completed ones; so is the reason of a failure for the failed ones.
-/
theorem record_consistent (history : History settings runs pipeline) :
    ∃ traces : List RunTrace,
      List.Forall₂ PastRun.IsTrace runs traces ∧
      List.Forall₂ (fun run trace =>
        run.later.pipeline.record.completed =
          run.before.pipeline.record.completed ++ trace.completed.map Execution.stage ∧
        run.later.pipeline.record.failed =
          run.before.pipeline.record.failed ++ trace.failing?.toList.map Execution.stage ∧
        (run.isSuccess = true ↔
          run.later.pipeline.record.failed = run.before.pipeline.record.failed)) runs traces ∧
      pipeline.record.failed.length = runs.countP (!·.isSuccess) ∧
      ∀ stage,
        pipeline.record.result? stage =
          ((traces.flatMap RunTrace.executions).filterMap (Execution.result? stage)).getLast? ∧
        ((pipeline.record.result? stage).isSome ↔ stage ∈ pipeline.record.completed) ∧
        pipeline.record.error? stage =
          ((traces.flatMap RunTrace.executions).filterMap (Execution.error? stage)).getLast? ∧
        ((pipeline.record.error? stage).isSome ↔ stage ∈ pipeline.record.failed) := by
  obtain ⟨traces, areTraces, grows⟩ := history.exists_traces
  refine ⟨traces, areTraces, areTraces.imp ?_, history.length_failed, ?_⟩
  · intro run trace isTrace
    rw [isTrace.2]
    exact ⟨isTrace.1.completed_eq, isTrace.1.failed_eq, isTrace.1.isNone_failing?_iff⟩
  · intro stage
    have noResult : RunRecord.empty.result? stage = none := by cases stage <;> rfl
    have noError : RunRecord.empty.error? stage = none := by cases stage <;> rfl
    refine ⟨?_, history.isSome_result?_iff stage, ?_, history.isSome_error?_iff stage⟩
    · rw [grows.result, noResult, Option.or_none]
    · rw [grows.error, noError, Option.or_none]

end History

end Runs

namespace History

/-- The assets of an empty project are completed, an unknown stage is passed over, and the routes
fail, so that the assets are not executed again. -/
theorem record_consistent_empty :
    ∃ later runs, History .default runs later ∧
      later.record.completed = [.assets] ∧ later.record.failed = [.routes] ∧
      later.record.failed.length = runs.countP (!·.isSuccess) := by
  have checked : passes (Work.run ["assets", "mystery", "routes", "assets"])
      ⟨.ofSettings .default, ⟨⟨.empty, []⟩, [], []⟩⟩ (fun _ later =>
        later.pipeline.record.completed == [.assets] && later.pipeline.record.failed == [.routes])
        = true := by
    decide +kernel
  obtain ⟨_, later, ran, recorded⟩ := exists_ok_of_passes checked
  rw [Bool.and_eq_true, beq_iff_eq, beq_iff_eq] at recorded
  have history : History .default _ later.pipeline := .run .start ran
  obtain ⟨_, _, _, counted, _⟩ := record_consistent history
  exact ⟨later.pipeline, _, history, recorded.1, recorded.2, counted⟩

end History

end DartRoutes
