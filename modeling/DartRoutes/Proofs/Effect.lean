import Mathlib.Order.Defs.Unbundled

/-!
# What effects keep

An effect either answers a result or fails, and leaves a state in both cases. An effect keeps a
relation if the states before and after it are related in both cases; what the parts of an effect
keep, the whole keeps. The same goes for the failures that an effect is confined to, and for the
conditions that its end meets from one given state.
-/

namespace DartRoutes.Effect

variable {ε σ α β : Type} {relation : σ → σ → Prop} {allowed expected : ε → Prop}

/-- The state that an effect leaves, whether it fails or not. -/
def after (effect : EStateM ε σ α) (state : σ) : σ :=
  match effect state with
  | .ok _ later => later
  | .error _ later => later

/-- The states before and after an effect are related, whether it fails or not. -/
def Keeps (relation : σ → σ → Prop) (effect : EStateM ε σ α) : Prop :=
  ∀ state, relation state (after effect state)

/-- An effect fails in no other way than the allowed ones. -/
def Confined (allowed : ε → Prop) (effect : EStateM ε σ α) : Prop :=
  ∀ state failure later, effect state = .error failure later → allowed failure

@[simp]
theorem pure_run (result : α) (state : σ) :
    (pure result : EStateM ε σ α) state = .ok result state :=
  rfl

@[simp]
theorem throw_run (failure : ε) (state : σ) :
    (throw failure : EStateM ε σ α) state = .error failure state :=
  rfl

@[simp]
theorem get_run (state : σ) : (get : EStateM ε σ σ) state = .ok state state :=
  rfl

@[simp]
theorem modify_run (change : σ → σ) (state : σ) :
    (modify change : EStateM ε σ PUnit) state = .ok ⟨⟩ (change state) :=
  rfl

@[simp]
theorem bind_run (first : EStateM ε σ α) (second : α → EStateM ε σ β) (state : σ) :
    (first >>= second) state =
      match first state with
      | .ok answer middle => second answer middle
      | .error failure middle => .error failure middle := by
  change EStateM.bind first second state = _
  rw [EStateM.bind]
  cases first state <;> rfl

theorem after_of_ok {effect : EStateM ε σ α} {state later : σ} {result : α}
    (answered : effect state = .ok result later) : after effect state = later := by
  simp [after, answered]

theorem after_of_error {effect : EStateM ε σ α} {state later : σ} {failure : ε}
    (failed : effect state = .error failure later) : after effect state = later := by
  simp [after, failed]

theorem bind_of_ok {first : EStateM ε σ α} {second : α → EStateM ε σ β} {state middle : σ}
    {answer : α} (answered : first state = .ok answer middle) :
    (first >>= second) state = second answer middle := by
  rw [bind_run, answered]

theorem bind_of_error {first : EStateM ε σ α} {second : α → EStateM ε σ β} {state later : σ}
    {failure : ε} (failed : first state = .error failure later) :
    (first >>= second) state = .error failure later := by
  rw [bind_run, failed]

theorem bind_eq_ok_iff {first : EStateM ε σ α} {second : α → EStateM ε σ β} {state later : σ}
    {result : β} :
    (first >>= second) state = .ok result later ↔
      ∃ answer middle, first state = .ok answer middle ∧
        second answer middle = .ok result later := by
  cases run : first state with
  | ok answer middle =>
      rw [bind_of_ok run]
      constructor
      · intro answered
        exact ⟨answer, middle, rfl, answered⟩
      · rintro ⟨_, _, ⟨rfl, rfl⟩, answered⟩
        exact answered
  | error failure middle =>
      rw [bind_of_error run]
      simp

theorem bind_eq_error_iff {first : EStateM ε σ α} {second : α → EStateM ε σ β}
    {state later : σ} {failure : ε} :
    (first >>= second) state = .error failure later ↔
      first state = .error failure later ∨
        ∃ answer middle, first state = .ok answer middle ∧
          second answer middle = .error failure later := by
  cases run : first state with
  | ok answer middle =>
      rw [bind_of_ok run]
      constructor
      · intro failed
        exact .inr ⟨answer, middle, rfl, failed⟩
      · rintro (impossible | ⟨_, _, ⟨rfl, rfl⟩, failed⟩)
        · cases impossible
        · exact failed
  | error first middle =>
      rw [bind_of_error run]
      simp

theorem tryCatch_of_ok {body : EStateM ε σ α} {handler : ε → EStateM ε σ α} {state later : σ}
    {result : α} (answered : body state = .ok result later) :
    tryCatch body handler state = .ok result later := by
  change EStateM.tryCatch body handler state = _
  unfold EStateM.tryCatch
  rw [answered]

theorem tryCatch_of_error {body : EStateM ε σ α} {handler : ε → EStateM ε σ α}
    {state middle : σ} {failure : ε} (failed : body state = .error failure middle) :
    tryCatch body handler state = handler failure middle := by
  change EStateM.tryCatch body handler state = _
  unfold EStateM.tryCatch
  rw [failed]
  rfl

/-- If an effect is followed by another one, this one only has to be looked at where the first has
answered. -/
theorem after_bind [IsTrans σ relation] {first : EStateM ε σ α} {second : α → EStateM ε σ β}
    {state : σ} (relatedFirst : relation state (after first state))
    (relatedSecond : ∀ answer middle, first state = .ok answer middle →
      relation middle (after (second answer) middle)) :
    relation state (after (first >>= second) state) := by
  cases run : first state with
  | ok answer middle =>
      rw [after_of_ok run] at relatedFirst
      have same : after (first >>= second) state = after (second answer) middle := by
        simp only [after, bind_of_ok run]
      rw [same]
      exact IsTrans.trans _ _ _ relatedFirst (relatedSecond answer middle run)
  | error failure middle =>
      rw [after_of_error run] at relatedFirst
      rw [after_of_error (bind_of_error run)]
      exact relatedFirst

namespace Keeps

theorem of_ok {effect : EStateM ε σ α} {state later : σ} {result : α}
    (keeps : Keeps relation effect) (answered : effect state = .ok result later) :
    relation state later := by
  have related := keeps state
  rwa [after_of_ok answered] at related

theorem of_error {effect : EStateM ε σ α} {state later : σ} {failure : ε}
    (keeps : Keeps relation effect) (failed : effect state = .error failure later) :
    relation state later := by
  have related := keeps state
  rwa [after_of_error failed] at related

theorem pure [Std.Refl relation] (result : α) :
    Keeps relation (Pure.pure result : EStateM ε σ α) :=
  fun state => Std.Refl.refl state

theorem throw [Std.Refl relation] (failure : ε) :
    Keeps relation (MonadExcept.throw failure : EStateM ε σ α) :=
  fun state => Std.Refl.refl state

theorem get [Std.Refl relation] : Keeps relation (MonadState.get : EStateM ε σ σ) :=
  fun state => Std.Refl.refl state

theorem bind [IsTrans σ relation] {first : EStateM ε σ α} {second : α → EStateM ε σ β}
    (keepsFirst : Keeps relation first) (keepsSecond : ∀ answer, Keeps relation (second answer)) :
    Keeps relation (first >>= second) :=
  fun state => after_bind (keepsFirst state) fun answer middle _ => keepsSecond answer middle

theorem map [IsTrans σ relation] [Std.Refl relation] {effect : EStateM ε σ α} (change : α → β)
    (keeps : Keeps relation effect) : Keeps relation (change <$> effect) := by
  rw [map_eq_pure_bind]
  exact keeps.bind fun _ => .pure _

theorem tryCatch [IsTrans σ relation] {body : EStateM ε σ α} {handler : ε → EStateM ε σ α}
    (keepsBody : Keeps relation body) (keepsHandler : ∀ failure, Keeps relation (handler failure)) :
    Keeps relation (MonadExcept.tryCatch body handler) := by
  intro state
  have related := keepsBody state
  cases run : body state with
  | ok answer middle =>
      rw [after_of_ok run] at related
      rw [after_of_ok (tryCatch_of_ok run)]
      exact related
  | error failure middle =>
      rw [after_of_error run] at related
      have same : after (MonadExcept.tryCatch body handler) state =
          after (handler failure) middle := by
        simp only [after, tryCatch_of_error run]
      rw [same]
      exact IsTrans.trans _ _ _ related (keepsHandler failure middle)

theorem mapM [IsTrans σ relation] [Std.Refl relation] {items : List α}
    {effect : α → EStateM ε σ β} (keeps : ∀ item ∈ items, Keeps relation (effect item)) :
    Keeps relation (items.mapM effect) := by
  induction items with
  | nil => exact .pure []
  | cons item items induction =>
      rw [List.mapM_cons]
      refine (keeps item List.mem_cons_self).bind fun _ => .bind ?_ fun _ => .pure _
      exact induction fun other member => keeps other (List.mem_cons_of_mem item member)

end Keeps

namespace Confined

theorem pure (result : α) : Confined allowed (Pure.pure result : EStateM ε σ α) :=
  fun _ _ _ failed => nomatch failed

theorem throw {failure : ε} (isAllowed : allowed failure) :
    Confined allowed (MonadExcept.throw failure : EStateM ε σ α) := by
  intro state other later failed
  cases failed
  exact isAllowed

theorem get : Confined allowed (MonadState.get : EStateM ε σ σ) :=
  fun _ _ _ failed => nomatch failed

theorem modify (change : σ → σ) : Confined allowed (modify change : EStateM ε σ PUnit) :=
  fun _ _ _ failed => nomatch failed

theorem bind {first : EStateM ε σ α} {second : α → EStateM ε σ β}
    (confinedFirst : Confined allowed first)
    (confinedSecond : ∀ answer, Confined allowed (second answer)) :
    Confined allowed (first >>= second) := by
  intro state failure later failed
  rcases bind_eq_error_iff.mp failed with failedFirst | ⟨answer, middle, _, failedSecond⟩
  · exact confinedFirst state failure later failedFirst
  · exact confinedSecond answer middle failure later failedSecond

theorem map {effect : EStateM ε σ α} (change : α → β) (confined : Confined allowed effect) :
    Confined allowed (change <$> effect) := by
  rw [map_eq_pure_bind]
  exact confined.bind fun _ => .pure _

theorem tryCatch {body : EStateM ε σ α} {handler : ε → EStateM ε σ α}
    (confinedBody : Confined expected body)
    (confinedHandler : ∀ failure, expected failure → Confined allowed (handler failure)) :
    Confined allowed (MonadExcept.tryCatch body handler) := by
  intro state failure later failed
  cases run : body state with
  | ok answer middle =>
      rw [tryCatch_of_ok run] at failed
      cases failed
  | error first middle =>
      rw [tryCatch_of_error run] at failed
      exact confinedHandler first (confinedBody state first middle run) middle failure later failed

theorem mapM {items : List α} {effect : α → EStateM ε σ β}
    (confined : ∀ item ∈ items, Confined allowed (effect item)) :
    Confined allowed (items.mapM effect) := by
  induction items with
  | nil => exact .pure []
  | cons item items induction =>
      rw [List.mapM_cons]
      refine (confined item List.mem_cons_self).bind fun _ => .bind ?_ fun _ => .pure _
      exact induction fun other member => confined other (List.mem_cons_of_mem item member)

end Confined

/-- An effect keeps a relation and is confined to the allowed failures. -/
structure Respects (relation : σ → σ → Prop) (allowed : ε → Prop) (effect : EStateM ε σ α) :
    Prop where
  keeps : Keeps relation effect
  confined : Confined allowed effect

namespace Respects

theorem pure [Std.Refl relation] (result : α) :
    Respects relation allowed (Pure.pure result : EStateM ε σ α) :=
  ⟨.pure result, .pure result⟩

theorem throw [Std.Refl relation] {failure : ε} (isAllowed : allowed failure) :
    Respects relation allowed (MonadExcept.throw failure : EStateM ε σ α) :=
  ⟨.throw failure, .throw isAllowed⟩

theorem get [Std.Refl relation] :
    Respects relation allowed (MonadState.get : EStateM ε σ σ) :=
  ⟨.get, .get⟩

theorem modify {change : σ → σ} (related : ∀ state, relation state (change state)) :
    Respects relation allowed (modify change : EStateM ε σ PUnit) :=
  ⟨related, .modify change⟩

theorem bind [IsTrans σ relation] {first : EStateM ε σ α} {second : α → EStateM ε σ β}
    (respectsFirst : Respects relation allowed first)
    (respectsSecond : ∀ answer, Respects relation allowed (second answer)) :
    Respects relation allowed (first >>= second) :=
  ⟨respectsFirst.keeps.bind fun answer => (respectsSecond answer).keeps,
    respectsFirst.confined.bind fun answer => (respectsSecond answer).confined⟩

end Respects

/-- An end of an effect meets one condition if it is an answer, and another one if it is a
failure. -/
def Meets (answers : α → σ → Prop) (fails : ε → σ → Prop) : EStateM.Result ε σ α → Prop
  | .ok answer later => answers answer later
  | .error failure later => fails failure later

namespace Meets

variable {fails : ε → σ → Prop}

theorem imp {first second : α → σ → Prop} {failsFirst failsSecond : ε → σ → Prop}
    {ending : EStateM.Result ε σ α} (meets : Meets first failsFirst ending)
    (answers : ∀ answer later, first answer later → second answer later)
    (failures : ∀ failure later, failsFirst failure later → failsSecond failure later) :
    Meets second failsSecond ending := by
  cases ending with
  | ok answer later => exact answers answer later meets
  | error failure later => exact failures failure later meets

theorem bind {first : EStateM ε σ α} {second : α → EStateM ε σ β} {state : σ}
    {answersFirst : α → σ → Prop} {answers : β → σ → Prop}
    (meetsFirst : Meets answersFirst fails (first state))
    (meetsSecond : ∀ answer middle, answersFirst answer middle →
      Meets answers fails (second answer middle)) :
    Meets answers fails ((first >>= second) state) := by
  rw [bind_run]
  cases run : first state with
  | ok answer middle =>
      rw [run] at meetsFirst
      exact meetsSecond answer middle meetsFirst
  | error failure later =>
      rw [run] at meetsFirst
      exact meetsFirst

theorem holds_after {effect : EStateM ε σ α} {state : σ} {answers : α → σ → Prop}
    {holds : σ → Prop} (meets : Meets answers fails (effect state))
    (ofAnswer : ∀ answer later, answers answer later → holds later)
    (ofFailure : ∀ failure later, fails failure later → holds later) :
    holds (after effect state) := by
  rw [after]
  cases run : effect state with
  | ok answer later =>
      rw [run] at meets
      exact ofAnswer answer later meets
  | error failure later =>
      rw [run] at meets
      exact ofFailure failure later meets

/-- An answer leads to a state that is related as the effect keeps it. -/
theorem and_keeps {effect : EStateM ε σ α} {state : σ} {answers : α → σ → Prop}
    (meets : Meets answers fails (effect state)) (keeps : Keeps relation effect) :
    Meets (fun answer later => answers answer later ∧ relation state later) fails
      (effect state) := by
  have related := keeps state
  rw [after] at related
  cases run : effect state with
  | ok answer later =>
      rw [run] at meets related
      exact ⟨meets, related⟩
  | error failure later =>
      rw [run] at meets
      exact meets

/-- What one effect after the other keeps holds at the end, with what every effect answers and what
it shows of its item. -/
theorem mapM {items : List α} {effect : α → EStateM ε σ β} {state : σ} {invariant : σ → Prop}
    {answers : β → Prop} {shows : α → Prop}
    (each : ∀ item ∈ items, ∀ state, invariant state →
      Meets (fun answer later => answers answer ∧ shows item ∧ invariant later) fails
        (effect item state))
    (start : invariant state) :
    Meets (fun results later =>
        (∀ result ∈ results, answers result) ∧ (∀ item ∈ items, shows item) ∧ invariant later)
      fails (items.mapM effect state) := by
  induction items generalizing state with
  | nil => exact ⟨List.forall_mem_nil _, List.forall_mem_nil _, start⟩
  | cons item items induction =>
      rw [List.mapM_cons]
      refine (each item List.mem_cons_self state start).bind fun answer middle first => ?_
      obtain ⟨answered, shown, kept⟩ := first
      have rest := induction
        (fun other member => each other (List.mem_cons_of_mem item member)) kept
      refine rest.bind fun others last all => ?_
      obtain ⟨allAnswered, allShown, still⟩ := all
      exact ⟨List.forall_mem_cons.mpr ⟨answered, allAnswered⟩,
        List.forall_mem_cons.mpr ⟨shown, allShown⟩, still⟩

end Meets

theorem exists_ok_of_confined {effect : EStateM ε σ α} (confined : Confined (fun _ => False) effect)
    (state : σ) : ∃ result later, effect state = .ok result later := by
  cases run : effect state with
  | ok result later => exact ⟨result, later, rfl⟩
  | error failure later => exact (confined state failure later run).elim

/-- Does an effect answer, and does a check hold of what it answers? -/
def passes (effect : EStateM ε σ α) (state : σ) (check : α → σ → Bool) : Bool :=
  match effect state with
  | .ok result later => check result later
  | .error _ _ => false

theorem exists_ok_of_passes {effect : EStateM ε σ α} {state : σ} {check : α → σ → Bool}
    (checked : passes effect state check = true) :
    ∃ result later, effect state = .ok result later ∧ check result later = true := by
  rw [passes] at checked
  split at checked
  · rename_i result later run
    exact ⟨result, later, run, checked⟩
  · cases checked

end DartRoutes.Effect
