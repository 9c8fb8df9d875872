import DartRoutes.Proofs.ActionReading

/-!
# Actions that agree

What is read from a project depends neither on the clock nor on what has been shown, and of the disk
only on the files that are looked at; the same loader reads them, and the same console shows what is
said of them. Wherever these are the same, the action has the same answer or
the same failure.
-/

namespace DartRoutes

namespace Effect

variable {ε σ α β : Type} {relation : σ → σ → Prop}

/-- Two effects have ended with the same answer or with the same failure. -/
inductive Agree (relation : σ → σ → Prop) :
    EStateM.Result ε σ α → EStateM.Result ε σ α → Prop where
  | ok {answer : α} {first second : σ} :
      relation first second → Agree relation (.ok answer first) (.ok answer second)
  | error {failure : ε} {first second : σ} :
      relation first second → Agree relation (.error failure first) (.error failure second)

theorem Agree.ok_or_error {left right : EStateM.Result ε σ α} (agree : Agree relation left right) :
    (∃ answer first second, left = .ok answer first ∧ right = .ok answer second ∧
        relation first second) ∨
      ∃ failure first second, left = .error failure first ∧ right = .error failure second ∧
        relation first second := by
  cases agree with
  | ok related => exact .inl ⟨_, _, _, rfl, rfl, related⟩
  | error related => exact .inr ⟨_, _, _, rfl, rfl, related⟩

/-- In related states an effect ends in the same way, and leaves related states. -/
def Parallel (relation : σ → σ → Prop) (effect : EStateM ε σ α) : Prop :=
  ∀ first second, relation first second → Agree relation (effect first) (effect second)

namespace Parallel

theorem pure (answer : α) : Parallel relation (Pure.pure answer : EStateM ε σ α) :=
  fun _ _ related => .ok related

theorem throw (failure : ε) : Parallel relation (MonadExcept.throw failure : EStateM ε σ α) :=
  fun _ _ related => .error related

theorem bind {first : EStateM ε σ α} {second : α → EStateM ε σ β}
    (parallelFirst : Parallel relation first)
    (parallelSecond : ∀ answer, Parallel relation (second answer)) :
    Parallel relation (first >>= second) := by
  intro left right related
  rcases (parallelFirst left right related).ok_or_error with
    ⟨answer, _, _, runLeft, runRight, middle⟩ | ⟨failure, _, _, runLeft, runRight, last⟩
  · rw [bind_of_ok runLeft, bind_of_ok runRight]
    exact parallelSecond answer _ _ middle
  · rw [bind_of_error runLeft, bind_of_error runRight]
    exact .error last

theorem map {effect : EStateM ε σ α} (change : α → β) (parallel : Parallel relation effect) :
    Parallel relation (change <$> effect) := by
  rw [map_eq_pure_bind]
  exact parallel.bind fun _ => .pure _

theorem tryCatch {body : EStateM ε σ α} {handler : ε → EStateM ε σ α}
    (parallelBody : Parallel relation body)
    (parallelHandler : ∀ failure, Parallel relation (handler failure)) :
    Parallel relation (MonadExcept.tryCatch body handler) := by
  intro left right related
  rcases (parallelBody left right related).ok_or_error with
    ⟨answer, _, _, runLeft, runRight, last⟩ | ⟨failure, _, _, runLeft, runRight, middle⟩
  · rw [tryCatch_of_ok runLeft, tryCatch_of_ok runRight]
    exact .ok last
  · rw [tryCatch_of_error runLeft, tryCatch_of_error runRight]
    exact parallelHandler failure _ _ middle

theorem mapM {items : List α} {effect : α → EStateM ε σ β}
    (parallel : ∀ item ∈ items, Parallel relation (effect item)) :
    Parallel relation (items.mapM effect) := by
  induction items with
  | nil => exact .pure []
  | cons item items induction =>
      rw [List.mapM_cons]
      refine (parallel item List.mem_cons_self).bind fun _ => .bind ?_ fun _ => .pure _
      exact induction fun other member => parallel other (List.mem_cons_of_mem item member)

/-- An answer in one of two related states is the answer in the other one, too. -/
theorem exists_ok {effect : EStateM ε σ α} (parallel : Parallel relation effect)
    {first second later : σ} {answer : α} (related : relation first second)
    (answered : effect first = .ok answer later) :
    ∃ last, effect second = .ok answer last ∧ relation later last := by
  rcases (parallel first second related).ok_or_error with
    ⟨_, _, last, runFirst, runSecond, related⟩ | ⟨_, _, _, runFirst, _, _⟩
  · rw [answered] at runFirst
    cases runFirst
    exact ⟨last, runSecond, related⟩
  · rw [answered] at runFirst
    cases runFirst

end Parallel

end Effect

open Effect

namespace Action

/-- The workspaces have related disks. -/
def Alike (relation : Disk → Disk → Prop) (first second : Workspace) : Prop :=
  relation first.disk second.disk

variable {relation : Disk → Disk → Prop} {path : Path}

instance [Std.Refl relation] : Std.Refl (Alike relation) where
  refl workspace := Std.Refl.refl workspace.disk

instance [IsTrans Disk relation] : IsTrans Workspace (Alike relation) where
  trans _ _ _ first second := IsTrans.trans (r := relation) _ _ _ first second

theorem Reads.alike [Std.Refl relation] {α : Type} {action : Action α} (reads : action.Reads) :
    Keeps (Alike relation) action := by
  intro workspace
  have same : (after action workspace).disk = workspace.disk := reads.keeps workspace
  rw [Alike, same]
  exact Std.Refl.refl _

theorem showAll_parallel (entries : List LogEntry) :
    Parallel (Alike relation) (showAll entries) :=
  fun _ _ related => .ok related

theorem ask_parallel {α : Type} {question : Disk → Except FileFault α}
    (same : ∀ first second, relation first second → question first = question second) :
    Parallel (Alike relation) (ask question) := by
  intro first second related
  rw [ask_run, ask_run, same _ _ related]
  cases question second.disk with
  | ok answer => exact .ok related
  | error fault => exact .error related

theorem attempt_parallel {α : Type} {relation : Workspace → Workspace → Prop}
    (isExpected : Failure → Bool) {action : Action α} (parallel : Parallel relation action) :
    Parallel relation (attempt isExpected action) := by
  refine (parallel.map _).tryCatch fun failure => ?_
  split
  · exact .pure _
  · exact .throw _

/-- Related workspaces give the same answers when they are asked for a file, and they stay related
when something is shown. -/
structure SharesFile (path : Path) (relation : Workspace → Workspace → Prop) : Prop where
  shows : ∀ entries, Parallel relation (showAll entries)
  isThere : Parallel relation (ask (·.pathExists path))
  content : Parallel relation (ask (·.read path))

namespace SharesFile

variable {relation : Workspace → Workspace → Prop}

theorem saying [Console] (shares : SharesFile path relation) (text : Text) :
    Parallel relation (say text) := by
  rw [say, display]
  split
  · exact .throw _
  · exact shares.shows _

theorem reports [Console] (shares : SharesFile path relation) (tone : Tone) (message : Text) :
    Parallel relation (report tone message) :=
  shares.saying _

theorem readText (shares : SharesFile path relation) : Parallel relation (readText path) := by
  refine shares.content.bind fun content => ?_
  cases Utf8.decode content with
  | ok text => exact .pure _
  | error fault => exact .throw _

section Loading

variable [DocumentLoader]

theorem readDocument (shares : SharesFile path relation) :
    Parallel relation (readDocument path) := by
  refine shares.readText.bind fun text => ?_
  cases DocumentLoader.load text with
  | ok value => exact .pure _
  | error fault => exact .throw _

variable [Console]

theorem loadOptions (shares : SharesFile path relation) :
    Parallel relation (loadOptions path) := by
  refine shares.isThere.bind fun isThere => ?_
  split
  · refine (attempt_parallel _ shares.readDocument).bind fun result => ?_
    split
    · exact (shares.reports _ _).bind fun _ => .pure _
    · exact .pure _
    · split
      · exact (shares.saying _).bind fun _ => .pure _
      · exact (shares.reports _ _).bind fun _ => .pure _
    · exact (shares.reports _ _).bind fun _ => .pure _
  · exact (shares.saying _).bind fun _ => .pure _

theorem loadPackageName (shares : SharesFile path relation) :
    Parallel relation (loadPackageName path) := by
  refine shares.isThere.bind fun isThere => ?_
  split
  · refine (attempt_parallel _ shares.readDocument).bind fun result => ?_
    split
    · exact (shares.reports _ _).bind fun _ => .pure _
    · exact .pure _
  · exact .pure _

end Loading

theorem loadRouteTable (shares : SharesFile path relation) (tableName : Text) :
    Parallel relation (loadRouteTable path tableName) := by
  refine shares.isThere.bind fun isThere => ?_
  split
  · refine shares.readText.bind fun text => ?_
    cases RouteTable.parse text tableName with
    | ok table => exact .pure _
    | error fault => exact .throw _
  · exact .throw _

end SharesFile

/-- The disks give the same answers when they are asked for a file. -/
def SameFile (path : Path) (first second : Disk) : Prop :=
  first.pathExists path = second.pathExists path ∧ first.read path = second.read path

theorem sharesFile_sameFile (path : Path) : SharesFile path (Alike (SameFile path)) where
  shows := showAll_parallel
  isThere := ask_parallel fun _ _ same => same.1
  content := ask_parallel fun _ _ same => same.2

variable [Console] [DocumentLoader]

theorem loadOptions_parallel (path : Path) :
    Parallel (Alike (SameFile path)) (loadOptions path) :=
  (sharesFile_sameFile path).loadOptions

theorem loadPackageName_parallel (path : Path) :
    Parallel (Alike (SameFile path)) (loadPackageName path) :=
  (sharesFile_sameFile path).loadPackageName

theorem packageName_parallel (settings : Settings) :
    Parallel (Alike (SameFile settings.pubspecPath)) (packageName settings) := by
  rw [packageName]
  split
  · exact loadPackageName_parallel _
  · exact .pure _

end Action

end DartRoutes
