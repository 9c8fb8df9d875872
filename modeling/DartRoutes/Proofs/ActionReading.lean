import DartRoutes.Pipeline.Basic
import DartRoutes.Proofs.ActionEffect
import DartRoutes.Workspace.Configuration
import DartRoutes.Workspace.Input

/-!
# What a run only reads

Looking at the clock, showing something and loading the configuration of a project leave the disk
alone, and none of it fails the way a stage does.
-/

namespace DartRoutes

open Effect

/-- The failure is not that of a stage. -/
def IsNoStage (failure : Failure) : Prop :=
  ∀ stage reason, failure ≠ .stage stage reason

/-- An action that leaves the disk alone and fails only in ways that stop a run. -/
abbrev Action.Reads {α : Type} (action : Action α) : Prop :=
  Respects Action.SameDisk IsNoStage action

/-- The sessions have the same disk and the same settings. -/
structure SameProject (before after : Session) : Prop where
  disk : after.workspace.disk = before.workspace.disk
  settings : after.pipeline.settings = before.pipeline.settings

instance : Std.Refl SameProject where
  refl _ := ⟨rfl, rfl⟩

instance : IsTrans Session SameProject where
  trans _ _ _ first second :=
    ⟨second.disk.trans first.disk, second.settings.trans first.settings⟩

/-- Something that leaves the disk and the settings alone and fails only in ways that stop a
run. -/
abbrev Work.Reads {α : Type} (work : Work α) : Prop :=
  Respects SameProject IsNoStage work

namespace Action

theorem showAll_reads (entries : List LogEntry) : Reads (showAll entries) :=
  .modify fun _ => rfl

section Showing

variable [Console]

theorem display_reads (texts : List Text) (entries : List LogEntry) :
    Reads (display texts entries) := by
  rw [display]
  cases texts.findSome? Console.fault? with
  | none => exact showAll_reads entries
  | some reason => exact .throw fun _ _ same => by cases same

theorem say_reads (text : Text) : Reads (say text) :=
  display_reads _ _

theorem report_reads (tone : Tone) (message : Text) : Reads (report tone message) :=
  say_reads _

theorem header_reads (color title : Text) : Reads (header color title) :=
  (showAll_reads _).bind fun _ => display_reads _ _

theorem summarize_reads (title : Text) (rows : List (Text × Text)) : Reads (summarize title rows) :=
  (display_reads _ _).bind fun _ => showAll_reads _

end Showing

theorem now_reads : Reads now := by
  refine Respects.get.bind fun workspace => ?_
  split
  · exact .pure _
  · exact .pure _
  · refine .bind (.modify fun _ => ?_) fun _ => .pure _
    rfl

/-- The clock always shows a time. -/
theorem now_eq_ok (workspace : Workspace) :
    ∃ time later, now workspace = .ok time later ∧ later.disk = workspace.disk := by
  obtain ⟨disk, clock, log⟩ := workspace
  rcases clock with _ | ⟨time, _ | ⟨next, clock⟩⟩
  · exact ⟨_, _, rfl, rfl⟩
  · exact ⟨_, _, rfl, rfl⟩
  · exact ⟨_, _, rfl, rfl⟩

theorem ask_reads {α : Type} (question : Disk → Except FileFault α) : Reads (ask question) := by
  refine Respects.get.bind fun workspace => ?_
  cases question workspace.disk with
  | ok answer => exact .pure answer
  | error fault => exact .throw nofun

theorem attempt_reads {α : Type} {isExpected : Failure → Bool} {action : Action α}
    (reads : Reads action) : Reads (attempt isExpected action) := by
  constructor
  · refine (reads.keeps.map _).tryCatch fun failure => ?_
    split
    · exact .pure _
    · exact .throw _
  · refine attempt_confined fun workspace failure later failed => ?_
    exact .inr (reads.confined workspace failure later failed)

theorem readText_reads (path : Path) : Reads (readText path) := by
  refine (ask_reads _).bind fun content => ?_
  cases Utf8.decode content with
  | ok text => exact .pure _
  | error fault => exact .throw nofun

section Loading

variable [DocumentLoader]

theorem readDocument_reads (path : Path) : Reads (readDocument path) := by
  refine (readText_reads path).bind fun text => ?_
  cases DocumentLoader.load text with
  | ok value => exact .pure _
  | error fault => exact .throw nofun

variable [Console]

theorem loadOptions_reads (path : Path) : Reads (loadOptions path) := by
  refine (ask_reads _).bind fun isThere => ?_
  split
  · refine (attempt_reads (readDocument_reads path)).bind fun result => ?_
    split
    · exact (say_reads _).bind fun _ => .pure _
    · exact .pure _
    · split
      · exact (say_reads _).bind fun _ => .pure _
      · exact (say_reads _).bind fun _ => .pure _
    · exact (say_reads _).bind fun _ => .pure _
  · exact (say_reads _).bind fun _ => .pure _

theorem loadPackageName_reads (path : Path) : Reads (loadPackageName path) := by
  refine (ask_reads _).bind fun isThere => ?_
  split
  · refine (attempt_reads (readDocument_reads path)).bind fun result => ?_
    split
    · exact (say_reads _).bind fun _ => .pure _
    · exact .pure _
  · exact .pure _

theorem packageName_reads (settings : Settings) : Reads (packageName settings) := by
  rw [packageName]
  split
  · exact loadPackageName_reads _
  · exact .pure _

end Loading

theorem loadRouteTable_reads (path : Path) (tableName : Text) :
    Reads (loadRouteTable path tableName) := by
  refine (ask_reads _).bind fun isThere => ?_
  split
  · refine (readText_reads path).bind fun text => ?_
    cases RouteTable.parse text tableName with
    | ok table => exact .pure _
    | error fault => exact .throw nofun
  · exact .throw nofun

theorem collectAssets_reads (directory : Path) (ignoreDirs : List Text) :
    Reads (collectAssets directory ignoreDirs) :=
  (ask_reads _).bind fun _ => .pure _

end Action

namespace Work

@[simp]
theorem act_run {α : Type} (action : Action α) (session : Session) :
    act action session =
      match action session.workspace with
      | .ok result workspace => .ok result { session with workspace }
      | .error failure workspace => .error failure { session with workspace } :=
  rfl

theorem act_after {α : Type} (action : Action α) (session : Session) :
    after (act action) session =
      { session with workspace := after action session.workspace } := by
  rw [after, act_run, after]
  cases action session.workspace <;> rfl

theorem act_keeps {α : Type} {action : Action α} {relation : Session → Session → Prop}
    (related : ∀ session, relation session
      { session with workspace := after action session.workspace }) :
    Keeps relation (act action) := by
  intro session
  rw [act_after]
  exact related session

theorem act_confined {α : Type} {action : Action α} {allowed : Failure → Prop}
    (confined : Confined allowed action) : Confined allowed (act action) := by
  intro session failure later failed
  rw [act_run] at failed
  split at failed
  · cases failed
  · rename_i refused
    cases failed
    exact confined _ failure _ refused

theorem act_reads {α : Type} {action : Action α} (reads : action.Reads) : Reads (act action) :=
  ⟨act_keeps fun session => ⟨reads.keeps session.workspace, rfl⟩, act_confined reads.confined⟩

section Showing

variable [Console]

theorem say_reads (text : Text) : Reads (say text) :=
  act_reads (Action.say_reads text)

theorem report_reads (tone : Tone) (message : Text) : Reads (report tone message) :=
  act_reads (Action.report_reads tone message)

/-- Reports one after the other are shown like one entry after the other. -/
theorem forM_report {α : Type} (tone : Tone) (message : α → Text) (items : List α) :
    items.forM (fun item => report tone (message item)) =
      act (.showAll (items.map fun item => .note (Markup.styled tone.style (message item)))) := by
  funext session
  induction items generalizing session with
  | nil => simp [Action.showAll]
  | cons item items induction =>
      rw [List.forM, bind_run, report, Action.report_eq]
      simp [Action.showAll, induction]

theorem say_of_shown {text : Text} (isShown : Console.fault? text = none) (session : Session) :
    say text session = .ok () { session with
      workspace := { session.workspace with log := session.workspace.log ++ [.note text] } } := by
  rw [say, act_run, Action.say_of_shown isShown]

@[simp]
theorem report_run (tone : Tone) (message : Text) (session : Session) :
    report tone message session = .ok () { session with
      workspace := { session.workspace with
        log := session.workspace.log ++ [.note (Markup.styled tone.style message)] } } := by
  rw [report, act_run, Action.report_run]

end Showing

@[simp]
theorem settings_run (session : Session) :
    settings session = .ok session.pipeline.settings session :=
  rfl

theorem settings_reads : Reads settings :=
  Respects.get.bind fun _ => .pure _

end Work

end DartRoutes
