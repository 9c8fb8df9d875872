import DartRoutes.CommandLine.Run
import DartRoutes.Proofs.EnvironmentSettings

/-!
# What the command line asks for

A request names all stages or a single one, and it forbids scaffolding if an argument does. What it
gives a value for overrides the environment, so that the variable does not matter any more.
-/

namespace DartRoutes

namespace CommandLine

namespace Reading

/-- The arguments are accepted behind a reading, and the request is what they come to. -/
inductive Accepts [ArgumentRules] : Reading → List Argument → Request → Prop where
  | done {reading : Reading} : reading.extra = [] → Accepts reading [] reading.request
  | stage {reading : Reading} {name : Text} {stages : List Stage} {rest : List Argument}
      {request : Request} :
      (name, stages) ∈ Request.choices →
      Accepts { reading with request.stages := stages, hasStage := true } rest request →
      Accepts reading (.word name :: rest) request
  | separator {reading : Reading} {rest : List Argument} {request : Request} :
      Accepts reading rest request →
      Accepts reading (.separator :: rest) request
  | value {reading : Reading} {flag : Flag} {value : Text} {rest : List Argument}
      {request : Request} :
      flag.takesValue = true →
      Accepts (reading.take flag (some value)) rest request →
      Accepts reading (.mention flag none :: .word value :: rest) request
  | flag {reading : Reading} {flag : Flag} {rest : List Argument} {request : Request} :
      flag ≠ .help →
      flag.takesValue = false →
      Accepts (reading.take flag none) rest request →
      Accepts reading (.mention flag none :: rest) request
  | attached {reading : Reading} {flag : Flag} {attachment : Attachment} {value : Text}
      {rest : List Argument} {request : Request} :
      flag.takesValue = true →
      Accepts (reading.takeAttached flag value) rest request →
      Accepts reading (.mention flag (some attachment) :: rest) request

theorem nameStage_eq_ok {reading named : Reading} {name : Text}
    (answered : reading.nameStage name = .ok named) :
    ∃ stages, (name, stages) ∈ Request.choices ∧
      named = { reading with request.stages := stages, hasStage := true } := by
  rw [nameStage] at answered
  split at answered
  · rename_i stages found
    cases answered
    obtain ⟨front, behind, split, -⟩ := List.lookup_eq_some_iff.mp found
    exact ⟨stages, split ▸ List.mem_append_right front List.mem_cons_self, rfl⟩
  · cases answered

section Accepts

variable [ArgumentRules] {reading : Reading} {arguments : List Argument} {request : Request}

/-- A value that is attached is that of the flag, or the flag has none. -/
theorem takeAttached_eq (reading : Reading) (flag : Flag) (value : Text) :
    ∃ value?, reading.takeAttached flag value = reading.take flag value? := by
  rw [takeAttached]
  split
  · exact ⟨none, rfl⟩
  · exact ⟨some value, rfl⟩

theorem Accepts.extra_eq_nil (accepts : reading.Accepts arguments request) :
    reading.extra = [] := by
  induction accepts with
  | done none => exact none
  | stage _ _ induction => exact induction
  | separator _ induction => exact induction
  | value _ _ induction => exact induction
  | flag _ _ _ induction => exact induction
  | @attached reading flag _ value _ _ _ _ induction =>
      obtain ⟨_, same⟩ := reading.takeAttached_eq flag value
      rw [same] at induction
      exact induction

theorem not_accepts_leave {text : Text} : ¬ (reading.leave text).Accepts arguments request :=
  fun accepts => List.concat_ne_nil text reading.extra accepts.extra_eq_nil

theorem accepts_of_nameStage {name : Text} {rest : List Argument}
    (accepted : (do (← reading.nameStage name).run rest) = .ok (some request))
    (restAccepts : ∀ named : Reading, named.run rest = .ok (some request) →
      named.Accepts arguments request) :
    reading.Accepts (.word name :: arguments) request := by
  cases answered : reading.nameStage name with
  | error fault =>
      rw [answered] at accepted
      cases accepted
  | ok named =>
      rw [answered] at accepted
      obtain ⟨stages, found, rfl⟩ := nameStage_eq_ok answered
      exact .stage found (restAccepts _ accepted)

theorem accepts_of_run (accepted : reading.run arguments = .ok (some request)) :
    reading.Accepts arguments request := by
  fun_induction run reading arguments with
  | case1 reading empty =>
      cases accepted
      exact .done (List.isEmpty_iff.mp empty)
  | case2 => cases accepted
  | case3 _ _ _ induction => exact absurd (induction accepted) not_accepts_leave
  | case4 _ _ _ induction => exact absurd (induction accepted) not_accepts_leave
  | case5 _ _ _ induction => exact .separator (induction accepted)
  | case6 _ _ _ _ induction => exact absurd (induction accepted) not_accepts_leave
  | case7 _ _ _ _ induction =>
      exact accepts_of_nameStage accepted fun named rest => .separator (induction named rest)
  | case8 _ _ _ _ _ induction => exact absurd (induction accepted) not_accepts_leave
  | case9 _ _ _ _ _ induction => exact accepts_of_nameStage accepted induction
  | case10 => cases accepted
  | case11 _ _ _ takes _ _ induction => exact .value takes (induction accepted)
  | case12 => cases accepted
  | case13 _ _ _ notHelp takes induction =>
      exact .flag notHelp (Bool.not_eq_true _ ▸ takes) (induction accepted)
  | case14 _ _ _ _ takes induction => exact .attached takes (induction accepted)
  | case15 => cases accepted
  | case16 _ _ _ _ takes induction => exact .attached takes (induction accepted)
  | case17 => cases accepted
  | case18 _ _ text rest =>
      cases checked : checkGlued text rest with
      | error fault =>
          rw [checked] at accepted
          cases accepted
      | ok _ =>
          rw [checked] at accepted
          cases accepted

/-- What every flag and every name of a stage keeps holds of the request. -/
theorem Accepts.invariant (property : Request → Prop)
    (accepts : reading.Accepts arguments request) (start : property reading.request)
    (takes : ∀ flag value? request, property request → property (request.withValue flag value?))
    (names : ∀ stages ∈ Request.choices.map Prod.snd, ∀ request, property request →
      property { request with stages }) : property request := by
  induction accepts with
  | done _ => exact start
  | stage chosen _ induction =>
      exact induction (names _ (List.mem_map_of_mem chosen) _ start)
  | separator _ induction => exact induction start
  | value _ _ induction => exact induction (takes _ _ _ start)
  | flag _ _ _ induction => exact induction (takes _ _ _ start)
  | @attached reading flag _ value _ _ _ _ induction =>
      obtain ⟨_, same⟩ := reading.takeAttached_eq flag value
      rw [same] at induction
      exact induction (takes _ _ _ start)

theorem Accepts.noScaffold (accepts : reading.Accepts arguments request)
    (forbids : reading.request.noScaffold = true) : request.noScaffold = true := by
  refine invariant (fun request => request.noScaffold = true) accepts forbids
    (fun flag value? request forbids => ?_) fun _ _ _ forbids => forbids
  cases flag with
  | noScaffold => rfl
  | _ => exact forbids

/-- Scaffolding is forbidden by a flag wherever it stands. -/
theorem Accepts.noScaffold_of_mem (accepts : reading.Accepts arguments request)
    (member : .mention .noScaffold none ∈ arguments) : request.noScaffold = true := by
  induction accepts with
  | done _ => cases member
  | stage _ _ induction =>
      exact induction ((List.mem_cons.mp member).resolve_left Argument.noConfusion)
  | separator _ induction =>
      exact induction ((List.mem_cons.mp member).resolve_left Argument.noConfusion)
  | value takes _ induction =>
      rcases List.mem_cons.mp member with same | further
      · cases same
        cases takes
      · exact induction ((List.mem_cons.mp further).resolve_left Argument.noConfusion)
  | flag _ _ rest induction =>
      rcases List.mem_cons.mp member with same | further
      · cases same
        exact rest.noScaffold rfl
      · exact induction further
  | attached _ _ induction =>
      exact induction ((List.mem_cons.mp member).resolve_left fun same => by cases same)

theorem Accepts.exists_choice_of_words {names : List Text}
    (accepts : reading.Accepts (names.map .word) request) :
    ∀ name ∈ names, ∃ stages, (name, stages) ∈ Request.choices := by
  induction names generalizing reading with
  | nil => exact List.forall_mem_nil _
  | cons name names induction =>
      cases accepts with
      | stage chosen rest => exact List.forall_mem_cons.mpr ⟨⟨_, chosen⟩, induction rest⟩

/-- Behind the separator there are only names of stages. -/
theorem Accepts.exists_choice {front : List Argument} {names : List Text}
    (accepts : reading.Accepts arguments request)
    (shape : arguments = front ++ .separator :: names.map .word) :
    ∀ name ∈ names, ∃ stages, (name, stages) ∈ Request.choices := by
  induction accepts generalizing front with
  | done _ => exact absurd shape.symm (List.append_ne_nil_of_right_ne_nil _ (List.cons_ne_nil _ _))
  | stage _ _ induction =>
      rcases List.cons_eq_append_iff.mp shape with ⟨rfl, same⟩ | ⟨front, rfl, rest⟩
      · cases same
      · exact induction rest
  | separator rest induction =>
      rcases List.cons_eq_append_iff.mp shape with ⟨rfl, same⟩ | ⟨front, rfl, further⟩
      · cases same
        exact rest.exists_choice_of_words
      · exact induction further
  | value _ _ induction =>
      rcases List.cons_eq_append_iff.mp shape with ⟨rfl, same⟩ | ⟨others, rfl, behind⟩
      · cases same
      · rcases List.cons_eq_append_iff.mp behind with ⟨rfl, same⟩ | ⟨front, rfl, rest⟩
        · cases same
        · exact induction rest
  | flag _ _ _ induction =>
      rcases List.cons_eq_append_iff.mp shape with ⟨rfl, same⟩ | ⟨front, rfl, rest⟩
      · cases same
      · exact induction rest
  | attached _ _ induction =>
      rcases List.cons_eq_append_iff.mp shape with ⟨rfl, same⟩ | ⟨front, rfl, rest⟩
      · cases same
      · exact induction rest

end Accepts

end Reading

/-- How scaffolding is forbidden. -/
def noScaffoldText : Text := "--no-scaffold"

/-- Scaffolding is forbidden by one of the arguments, or would be if it were no name of a stage. -/
def Argument.Forbid (arguments : List Argument) : Prop :=
  .mention .noScaffold none ∈ arguments ∨
    ∃ (front : List Argument) (names : List Text),
      arguments = front ++ .separator :: names.map .word ∧ noScaffoldText ∈ names

theorem Argument.Forbid.cons {arguments : List Argument} (forbid : Forbid arguments)
    (argument : Argument) : Forbid (argument :: arguments) := by
  rcases forbid with mentioned | ⟨front, names, rfl, named⟩
  · exact .inl (List.mem_cons_of_mem _ mentioned)
  · exact .inr ⟨argument :: front, names, rfl, named⟩

/-- An argument that forbids scaffolding is read as one, unless it stands behind the separator. -/
theorem Argument.forbid_of_ofTexts {texts : List Text} {arguments : List Argument}
    (read : ofTexts texts = .ok arguments) (member : noScaffoldText ∈ texts) :
    Forbid arguments := by
  fun_induction ofTexts texts generalizing arguments with
  | case1 => cases member
  | case2 texts =>
      cases read
      have other : noScaffoldText ≠ separatorText := by decide
      exact .inr ⟨[], texts, rfl, (List.mem_cons.mp member).resolve_left other⟩
  | case3 texts letter rest _ induction =>
      cases dashed : ofDashed ('-' :: letter :: rest) with
      | error fault =>
          rw [dashed] at read
          cases read
      | ok argument =>
          cases others : ofTexts texts with
          | error fault =>
              rw [dashed, others] at read
              cases read
          | ok arguments =>
              rw [dashed, others] at read
              cases read
              rcases List.mem_cons.mp member with same | further
              · have spelled : ofDashed noScaffoldText = .ok (.mention .noScaffold none) := by
                  decide
                rw [← same, spelled] at dashed
                cases dashed
                exact .inl List.mem_cons_self
              · exact (induction others further).cons argument
  | case4 text texts _ plain induction =>
      cases others : ofTexts texts with
      | error fault =>
          rw [others] at read
          cases read
      | ok arguments =>
          rw [others] at read
          cases read
          have other : noScaffoldText ≠ text := fun same => plain _ _ same.symm
          exact (induction others ((List.mem_cons.mp member).resolve_left other)).cons _

section Accepted

variable [ArgumentRules] {texts : List Text} {request : Request}

theorem Request.accepts_of_ofTexts (asked : ofTexts texts = .ok (some request)) :
    ∃ arguments, Argument.ofTexts texts = .ok arguments ∧
      Reading.start.Accepts arguments request := by
  rw [ofTexts] at asked
  cases read : Argument.ofTexts texts with
  | error fault =>
      rw [read] at asked
      cases asked
  | ok arguments =>
      rw [read] at asked
      exact ⟨arguments, rfl, Reading.accepts_of_run asked⟩

theorem Request.stages_mem (asked : ofTexts texts = .ok (some request)) :
    request.stages ∈ choices.map Prod.snd := by
  obtain ⟨arguments, -, accepts⟩ := accepts_of_ofTexts asked
  refine Reading.Accepts.invariant (fun request => request.stages ∈ choices.map Prod.snd)
    accepts (by decide) (fun flag value? request chosen => ?_) fun stages chosen _ _ => chosen
  cases flag with
  | _ => exact chosen

theorem Request.noScaffold_of_mem (asked : ofTexts texts = .ok (some request))
    (member : noScaffoldText ∈ texts) : request.noScaffold = true := by
  obtain ⟨arguments, read, accepts⟩ := accepts_of_ofTexts asked
  rcases Argument.forbid_of_ofTexts read member with mentioned | ⟨front, names, shape, named⟩
  · exact accepts.noScaffold_of_mem mentioned
  · obtain ⟨stages, chosen⟩ := accepts.exists_choice shape _ named
    have none : ∀ choice ∈ choices, choice.1 ≠ noScaffoldText := by decide
    exact absurd rfl (none _ chosen)

end Accepted

section Environment

variable {environment : List (Text × Text)} {request : Request}

/-- The variables of the environment that do not matter beside the request. -/
def Request.overridden (request : Request) : List Text :=
  (if (given? request.projectRoot?).isSome then ["ROUTEGEN_PROJECT_ROOT"] else []) ++
  (if (given? request.packageName?).isSome then ["ROUTEGEN_PACKAGE_NAME"] else []) ++
  (if (given? request.config?).isSome then ["ROUTEGEN_CONFIG_FILE"] else []) ++
  (if request.noScaffold then ["ROUTEGEN_NO_SCAFFOLD"] else [])

/-- The settings for a request do not depend on the variables that it overrides. -/
theorem settingsFor_eq_of_lookup_eq {other : List (Text × Text)}
    (same : ∀ name, name ∉ request.overridden → other.lookup name = environment.lookup name) :
    settingsFor other request = settingsFor environment request := by
  have setting (name : Text) (free : name ∉ request.overridden) :
      Settings.setting? other name = Settings.setting? environment name := by
    rw [Settings.setting?, Settings.setting?, same name free]
  have root (none : Request.given? request.projectRoot? = none) :=
    setting "ROUTEGEN_PROJECT_ROOT" (by simp [Request.overridden, none])
  have package (none : Request.given? request.packageName? = none) :=
    setting "ROUTEGEN_PACKAGE_NAME" (by simp [Request.overridden, none])
  have config (none : Request.given? request.config? = none) :=
    setting "ROUTEGEN_CONFIG_FILE" (by simp [Request.overridden, none])
  have table := setting "ROUTEGEN_TABLE_NAME" (by simp [Request.overridden])
  have scaffold (none : request.noScaffold = false) :=
    setting "ROUTEGEN_NO_SCAFFOLD" (by simp [Request.overridden, none])
  have sameTable : Settings.tableNameIn other = Settings.tableNameIn environment := by
    rw [Settings.tableNameIn, Settings.tableNameIn, table]
  rw [settingsFor, settingsFor, Settings.ofEnvironment_eq, Settings.ofEnvironment_eq, sameTable]
  cases Settings.tableNameIn environment with
  | error issues => rfl
  | ok tableName =>
      simp only [Except.map, Functor.map, Request.override, Except.ok.injEq, Settings.mk.injEq]
      refine ⟨?_, ?_, ?_, trivial, ?_⟩
      · cases given : Request.given? request.projectRoot? with
        | some value => rfl
        | none => rw [root given]
      · cases given : Request.given? request.packageName? with
        | some value => rfl
        | none => rw [package given]
      · cases given : Request.given? request.config? with
        | some value => rfl
        | none => rw [config given]
      · cases given : request.noScaffold with
        | true => rw [Bool.not_true, Bool.and_false, Bool.and_false]
        | false => rw [Settings.turnsScaffoldingOff, Settings.turnsScaffoldingOff, scaffold given]

theorem exists_of_settingsFor_eq_ok {settings : Settings}
    (fits : settingsFor environment request = .ok settings) :
    ∃ set, Settings.ofEnvironment environment = .ok set ∧ request.override set = settings := by
  rw [settingsFor] at fits
  cases set : Settings.ofEnvironment environment with
  | error issues =>
      rw [set] at fits
      cases fits
  | ok settings =>
      rw [set] at fits
      exact ⟨settings, rfl, Except.ok.inj fits⟩

theorem scaffold_of_noScaffold {settings : Settings}
    (fits : settingsFor environment request = .ok settings) (forbids : request.noScaffold = true) :
    settings.scaffold = false := by
  obtain ⟨set, -, rfl⟩ := exists_of_settingsFor_eq_ok fits
  rw [Request.override, forbids]
  exact Bool.and_false _

theorem scaffold_of_word {settings : Settings} {value : Text}
    (fits : settingsFor environment request = .ok settings)
    (set : environment.lookup ("ROUTEGEN_NO_SCAFFOLD" : Text) = some value)
    (word : value.map Char.toLower ∈ Settings.yesWords) : settings.scaffold = false := by
  obtain ⟨_, ofEnvironment, rfl⟩ := exists_of_settingsFor_eq_ok fits
  rw [Settings.ofEnvironment_eq, Settings.turnsScaffoldingOff_of_word set word] at ofEnvironment
  cases named : Settings.tableNameIn environment with
  | error issues =>
      rw [named] at ofEnvironment
      cases ofEnvironment
  | ok tableName =>
      rw [named] at ofEnvironment
      cases ofEnvironment
      rfl

end Environment

end CommandLine

end DartRoutes
