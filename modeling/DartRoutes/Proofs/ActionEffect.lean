import DartRoutes.Proofs.DiskFault
import DartRoutes.Workspace.Output

/-!
# What actions do

Showing something leaves the disk alone, whether the console refuses it or not, and so does every
question to it. An attempt fails only
with what it does not expect. A text that is written changes one file, and none if the disk refuses
it.
-/

namespace DartRoutes.Action

open Effect

variable {α : Type} {allowed : Failure → Prop}

/-- The workspaces have the same disk. -/
def SameDisk (before after : Workspace) : Prop :=
  after.disk = before.disk

instance : Std.Refl SameDisk where
  refl _ := rfl

instance : IsTrans Workspace SameDisk where
  trans _ _ _ first second := Eq.trans second first

section Showing

variable [Console]

@[simp]
theorem display_run (texts : List Text) (entries : List LogEntry) (workspace : Workspace) :
    display texts entries workspace =
      match texts.findSome? Console.fault? with
      | some reason => .error (.markup reason) workspace
      | none => .ok () { workspace with log := workspace.log ++ entries } := by
  rw [display]
  cases texts.findSome? Console.fault? <;> rfl

theorem say_run (text : Text) (workspace : Workspace) :
    say text workspace =
      match Console.fault? text with
      | some reason => .error (.markup reason) workspace
      | none => .ok () { workspace with log := workspace.log ++ [.note text] } := by
  rw [say, display_run, List.findSome?_singleton]

theorem say_of_shown {text : Text} (isShown : Console.fault? text = none) (workspace : Workspace) :
    say text workspace = .ok () { workspace with log := workspace.log ++ [.note text] } := by
  rw [say_run, isShown]

/-- A message is escaped, so that the console shows every report. -/
theorem report_eq (tone : Tone) (message : Text) :
    report tone message = showAll [.note (Markup.styled tone.style message)] := by
  have known : tone.style ∈ Markup.styles := by
    cases tone <;> decide
  funext workspace
  exact say_of_shown (Console.fault?_of_isTidy (.styled message known)) workspace

@[simp]
theorem report_run (tone : Tone) (message : Text) (workspace : Workspace) :
    report tone message workspace =
      .ok () { workspace with
        log := workspace.log ++ [.note (Markup.styled tone.style message)] } := by
  rw [report_eq]
  rfl

theorem display_confined {texts : List Text} (entries : List LogEntry)
    (refusals : ∀ text ∈ texts, ∀ reason, Console.fault? text = some reason →
      allowed (.markup reason)) :
    Confined allowed (display texts entries) := by
  rw [display]
  cases refused : texts.findSome? Console.fault? with
  | none => exact .modify _
  | some reason =>
      obtain ⟨text, member, refused⟩ := List.exists_of_findSome?_eq_some refused
      exact .throw (refusals text member reason refused)

theorem say_confined {text : Text}
    (refusals : ∀ reason, Console.fault? text = some reason → allowed (.markup reason)) :
    Confined allowed (say text) :=
  display_confined _ (List.forall_mem_singleton.mpr refusals)

theorem report_confined (tone : Tone) (message : Text) :
    Confined allowed (report tone message) := by
  rw [report_eq]
  exact .modify _

end Showing

@[simp]
theorem ask_run (question : Disk → Except FileFault α) (workspace : Workspace) :
    ask question workspace =
      match question workspace.disk with
      | .ok answer => .ok answer workspace
      | .error fault => .error (.file fault) workspace := by
  cases answered : question workspace.disk <;> simp [ask, answered]

theorem attempt_run (isExpected : Failure → Bool) (action : Action α) (workspace : Workspace) :
    attempt isExpected action workspace =
      match action workspace with
      | .ok answer later => .ok (.ok answer) later
      | .error failure later =>
          if isExpected failure then .ok (.error failure) later else .error failure later := by
  cases run : action workspace with
  | ok answer later =>
      have mapped : (Except.ok <$> action) workspace =
          EStateM.Result.ok (Except.ok (ε := Failure) answer) later := by
        rw [map_eq_pure_bind]
        exact bind_of_ok run
      exact tryCatch_of_ok mapped
  | error failure later =>
      have mapped : (Except.ok (ε := Failure) <$> action) workspace =
          EStateM.Result.error failure later := by
        rw [map_eq_pure_bind]
        exact bind_of_error run
      rw [attempt, tryCatch_of_error mapped]
      cases expected : isExpected failure <;> simp [expected]

theorem ask_confined {question : Disk → Except FileFault α}
    (refusals : ∀ disk fault, question disk = .error fault → allowed (.file fault)) :
    Confined allowed (ask question) := by
  intro workspace failure later failed
  rw [ask_run] at failed
  split at failed
  · cases failed
  · rename_i fault refused
    cases failed
    exact refusals _ fault refused

theorem attempt_confined {isExpected : Failure → Bool} {action : Action α}
    (confined : Confined (fun failure => isExpected failure ∨ allowed failure) action) :
    Confined allowed (attempt isExpected action) := by
  refine (confined.map _).tryCatch fun failure expected => ?_
  split
  · exact .pure _
  · exact .throw (expected.resolve_left ‹_›)

theorem change_confined {change : Disk.Change α} (ofDisk : FileFault → Prop)
    (confined : Confined ofDisk change) (faults : ∀ fault, ofDisk fault → allowed (.file fault)) :
    Confined allowed (Action.change change) := by
  intro workspace failure later failed
  rw [Action.change] at failed
  split at failed
  · cases failed
  · rename_i fault disk refused
    cases failed
    exact faults fault (confined _ fault disk refused)

theorem change_run (change : Disk.Change α) (workspace : Workspace) :
    Action.change change workspace =
      match change workspace.disk with
      | .ok answer disk => .ok answer { workspace with disk }
      | .error fault disk => .error (.file fault) { workspace with disk } :=
  rfl

/-- The bytes that are written for a text: none if it has no encoding. -/
def writtenBytes (text : Text) : Bytes :=
  match Utf8.encode? text with
  | .ok content => content
  | .error _ => []

theorem writeText_run (path : Path) (text : Text) (workspace : Workspace) :
    writeText path text workspace =
      match Disk.writeDeepFile path (writtenBytes text) workspace.disk with
      | .error fault disk => .error (.file fault) { workspace with disk }
      | .ok _ disk =>
          match Utf8.encode? text with
          | .ok _ => .ok () { workspace with disk }
          | .error fault => .error (.unencodable fault) { workspace with disk } := by
  rw [writeText, writtenBytes]
  cases encoded : Utf8.encode? text with
  | ok content =>
      dsimp only
      rw [change_run]
      cases Disk.writeDeepFile path content workspace.disk <;> rfl
  | error fault =>
      dsimp only
      rw [bind_run, change_run]
      cases Disk.writeDeepFile path [] workspace.disk <;> rfl

theorem writtenBytes_of_encode? {text : Text} {content : Bytes}
    (encoded : Utf8.encode? text = .ok content) : writtenBytes text = content := by
  rw [writtenBytes, encoded]

theorem writeText_eq_ok {path : Path} {text : Text} {before later : Workspace}
    (run : writeText path text before = .ok () later) :
    ∃ content, Utf8.encode? text = .ok content ∧
      Disk.writeDeepFile path content before.disk = .ok () later.disk := by
  rw [writeText_run] at run
  split at run
  · cases run
  · rename_i disk wrote
    split at run
    · rename_i content encoded
      cases run
      rw [writtenBytes_of_encode? encoded] at wrote
      exact ⟨content, encoded, wrote⟩
    · cases run

theorem writeText_eq_refused {path : Path} {text : Text} {before later : Workspace}
    {failure : Failure} (run : writeText path text before = .error failure later)
    (isFromDisk : failure.isFromDisk) :
    ∃ fault, Disk.writeDeepFile path (writtenBytes text) before.disk = .error fault later.disk ∧
      Disk.IsOfDisk fault := by
  rw [writeText_run] at run
  split at run
  · rename_i fault disk refused
    cases run
    refine ⟨fault, refused, ?_⟩
    rintro isNull
    obtain ⟨kind, path⟩ := fault
    cases isNull
    cases isFromDisk
  · split at run
    · cases run
    · cases run
      cases isFromDisk

/-- A text that is written is the content of the file at the place of its path, and no other file
is changed. -/
theorem writeText_of_ok {path : Path} {text : Text} {before later : Workspace}
    (run : writeText path text before = .ok () later) :
    ∃ content, Utf8.encode? text = .ok content ∧ Disk.checkPath path = .ok () ∧
      Disk.Rewritten (before.disk.placeOf path) content before.disk later.disk := by
  obtain ⟨content, encoded, wrote⟩ := writeText_eq_ok run
  exact ⟨content, encoded, Disk.writeDeepFile_of_ok wrote⟩

theorem writeText_of_error {path : Path} {text : Text} {before later : Workspace}
    {failure : Failure} (failed : writeText path text before = .error failure later)
    (isFromDisk : failure.isFromDisk) : Disk.SameFiles before.disk later.disk := by
  obtain ⟨_, refused, _⟩ := writeText_eq_refused failed isFromDisk
  exact Disk.writeDeepFile_of_error refused

/-- A text with an encoding is refused by the disk only. -/
theorem writeText_confined {path : Path} {text : Text} {content : Bytes}
    (encoded : Utf8.encode? text = .ok content) (admits : Disk.Admits path) :
    Confined (fun failure => failure.isFromDisk) (writeText path text) := by
  rw [writeText, encoded]
  exact change_confined Disk.IsOfDisk (Disk.writeDeepFile_confined content admits.clean)
    fun _ ofDisk => ofDisk.isFromDisk

theorem writeText_of_below {path : Path} (text : Text) {workspace : Workspace} {name : Text}
    {rest : Place} (clean : ∀ name ∈ path.parts, '\x00' ∉ name)
    (below : (workspace.disk.tree.contentAt?
      (workspace.disk.placeOf path ++ name :: rest)).isSome) :
    ∃ failure later, writeText path text workspace = .error failure later ∧
      failure.isFromDisk = true := by
  obtain ⟨fault, disk, failed⟩ := Disk.writeDeepFile_eq_error_of_below (writtenBytes text) below
  have ofDisk := Disk.writeDeepFile_confined (writtenBytes text) clean _ fault disk failed
  refine ⟨.file fault, { workspace with disk }, ?_, ofDisk.isFromDisk⟩
  rw [writeText_run, failed]

/-- A text is written to one file or to none, however the writing ends. -/
theorem writeText_after (path : Path) (text : Text) (workspace : Workspace) :
    Disk.SameFiles workspace.disk (after (writeText path text) workspace).disk ∨
      Disk.checkPath path = .ok () ∧ ∃ content, Disk.Rewritten (workspace.disk.placeOf path) content
        workspace.disk (after (writeText path text) workspace).disk := by
  rw [after, writeText_run]
  cases wrote : Disk.writeDeepFile path (writtenBytes text) workspace.disk with
  | error fault disk => exact .inl (Disk.writeDeepFile_of_error wrote)
  | ok _ disk =>
      obtain ⟨checked, rewritten⟩ := Disk.writeDeepFile_of_ok wrote
      right
      refine ⟨checked, writtenBytes text, ?_⟩
      cases Utf8.encode? text with
      | ok content => exact rewritten
      | error fault => exact rewritten

theorem attempt_after {α : Type} (isExpected : Failure → Bool) (action : Action α)
    (workspace : Workspace) :
    after (attempt isExpected action) workspace = after action workspace := by
  rw [after, attempt_run, after]
  cases action workspace with
  | ok answer later => rfl
  | error failure later =>
      dsimp only
      cases isExpected failure with
      | true => rfl
      | false => rfl

end DartRoutes.Action
