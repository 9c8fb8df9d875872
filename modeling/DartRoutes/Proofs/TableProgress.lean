import DartRoutes.Proofs.TableMachine

/-!
# Progress of the table reader

Whatever the reader meets in an iteration of its loop over elements, the next iteration begins
further on: behind a comma or a bracket, behind a row, or behind an element that was skipped after
a row was tried in vain. The position never leaves the tokens, so the reader comes to an end.
-/

namespace DartRoutes.RouteTable

open StateTransition

/-- At a position stands a token that is neither a comma nor a closing bracket. -/
def ElementAt (tokens : List Token) (position : Nat) : Prop :=
  ∃ token rest, tokens.drop position = token :: rest ∧ token.kind ≠ .comma ∧ token.kind ≠ .closing

theorem ElementAt.lt_length {tokens : List Token} {position : Nat}
    (element : ElementAt tokens position) : position < tokens.length := by
  obtain ⟨token, rest, here, -⟩ := element
  by_contra behind
  simp [List.drop_eq_nil_of_le (Nat.le_of_not_lt behind)] at here

/-- What a step can do to the task and the position of a reader. -/
inductive Move (tokens : List Token) : (task next : Task) → (position further : Nat) → Prop where
  | enter {position : Nat} :
      position < tokens.length → Move tokens .enter .elements position (position + 1)
  | refuse {position : Nat} : Move tokens .enter .refused position position
  | pass {position : Nat} :
      position < tokens.length → Move tokens .elements .elements position (position + 1)
  | nest {position : Nat} : Move tokens .elements .enter position position
  | attempt {position : Nat} {first : Token} {awaited : Row.Awaited} :
      ElementAt tokens position →
      Move tokens .elements (.row position first awaited) position position
  | wait {position start : Nat} {first : Token} {awaited further : Row.Awaited} :
      position < tokens.length →
      Move tokens (.row start first awaited) (.row start first further) position (position + 1)
  | take {position start : Nat} {first : Token} {awaited : Row.Awaited} :
      position < tokens.length →
      Move tokens (.row start first awaited) .elements position (position + 1)
  | giveUp {position start : Nat} {first : Token} {awaited : Row.Awaited} :
      Move tokens (.row start first awaited) (.skip first 0) position start
  | skip {position depth deeper : Nat} {first : Token} :
      position < tokens.length →
      Move tokens (.skip first depth) (.skip first deeper) position (position + 1)
  | skipped {position depth : Nat} {first : Token} :
      position < tokens.length →
      Move tokens (.skip first depth) .elements position (position + 1)
  | stop {position : Nat} {first : Token} :
      ¬ ElementAt tokens position → Move tokens (.skip first 0) .elements position position
  | finish {position : Nat} {task : Task} {outcome : Outcome} :
      Move tokens task (.ended outcome) position position
  | finishBehind {position : Nat} {task : Task} {outcome : Outcome} :
      position < tokens.length → Move tokens task (.ended outcome) position (position + 1)

namespace Reader

variable {tokens rest : List Token} {token first : Token} {reader next : Reader}

theorem lt_length_of_drop (here : tokens.drop reader.position = token :: rest) :
    reader.position < tokens.length := by
  by_contra behind
  simp [List.drop_eq_nil_of_le (Nat.le_of_not_lt behind)] at here

theorem not_elementAt_of_drop (here : tokens.drop reader.position = token :: rest)
    (ends : token.kind = .comma ∨ token.kind = .closing) : ¬ ElementAt tokens reader.position := by
  rintro ⟨other, behind, same, notComma, notClosing⟩
  rw [here] at same
  cases same
  rcases ends with comma | closing
  · exact notComma comma
  · exact notClosing closing

/-- One reader's step, seen by its task and its position. -/
abbrev Moves (tokens : List Token) (reader next : Reader) : Prop :=
  Move tokens reader.task next.task reader.position next.position

theorem moves_meet (elements : reader.task = .elements)
    (here : tokens.drop reader.position = token :: rest) :
    reader.Moves tokens (reader.meet token rest) := by
  have inside := lt_length_of_drop here
  rw [Moves, elements]
  by_cases closing : token.kind = .closing
  · have met : reader.meet token rest = reader.leave := by simp [meet, closing]
    rw [met, leave]
    split
    · exact .finishBehind inside
    · exact .pass inside
  · by_cases comma : token.kind = .comma
    · have met : reader.meet token rest = reader.pass .elements := by simp [meet, comma]
      rw [met]
      exact .pass inside
    · rw [meet]
      split
      · contradiction
      · contradiction
      · split
        · exact .nest
        · exact .attempt ⟨token, rest, here, comma, closing⟩

theorem moves_takeRow {start : Nat} {awaited : Row.Awaited} (route : Route)
    (row : reader.task = .row start first awaited) (inside : reader.position < tokens.length) :
    reader.Moves tokens (reader.takeRow route) := by
  rw [Moves, row, takeRow]
  split
  · exact .take inside
  · exact .finishBehind inside

theorem moves_skipOver {depth : Nat} (skip : reader.task = .skip first depth)
    (here : tokens.drop reader.position = token :: rest) :
    reader.Moves tokens (reader.skipOver token first depth) := by
  have inside := lt_length_of_drop here
  rw [Moves, skip]
  unfold skipOver
  split
  · exact .skip inside
  · rename_i closing
    exact .stop (not_elementAt_of_drop here (.inr closing))
  · exact .skipped inside
  · exact .skip inside
  · rename_i comma
    exact .stop (not_elementAt_of_drop here (.inl comma))
  · exact .skip inside

theorem moves_of_step (stepped : reader.step tokens = some next) : reader.Moves tokens next := by
  cases here : tokens.drop reader.position with
  | nil =>
      cases task : reader.task with
      | enter =>
          obtain rfl : reader.turn .refused = next := by simpa [step, task, here] using stepped
          rw [Moves, task]
          exact .refuse
      | row start first awaited =>
          obtain rfl : reader.giveUp start first = next := by
            simpa [step, task, here] using stepped
          rw [Moves, task]
          exact .giveUp
      | ended outcome => simp [step, task] at stepped
      | refused => simp [step, task] at stepped
      | _ =>
          obtain rfl : reader.turn (.ended .unterminated) = next := by
            simpa [step, task, here] using stepped
          rw [Moves, task]
          exact .finish
  | cons token rest =>
      have inside := lt_length_of_drop here
      cases task : reader.task with
      | enter =>
          by_cases opening : token.kind = .opening
          · obtain rfl : reader.pass .elements = next := by
              simpa [step, task, here, opening] using stepped
            rw [Moves, task]
            exact .enter inside
          · obtain rfl : reader.turn .refused = next := by
              simpa [step, task, here, opening] using stepped
            rw [Moves, task]
            exact .refuse
      | elements =>
          obtain rfl : reader.meet token rest = next := by simpa [step, task, here] using stepped
          exact moves_meet task here
      | row start first awaited =>
          cases advanced : Row.advance token awaited with
          | waits further =>
              obtain rfl : reader.pass (.row start first further) = next := by
                simpa [step, task, here, advanced] using stepped
              rw [Moves, task]
              exact .wait inside
          | completes route =>
              obtain rfl : reader.takeRow route = next := by
                simpa [step, task, here, advanced] using stepped
              exact moves_takeRow route task inside
          | breaks =>
              obtain rfl : reader.giveUp start first = next := by
                simpa [step, task, here, advanced] using stepped
              rw [Moves, task]
              exact .giveUp
      | skip first depth =>
          obtain rfl : reader.skipOver token first depth = next := by
            simpa [step, task, here] using stepped
          exact moves_skipOver task here
      | ended outcome => simp [step, task] at stepped
      | refused => simp [step, task] at stepped

end Reader

/-- The position is one among the tokens, and so is the start of the row that may be given up. -/
def Task.IsWithin (tokens : List Token) (position : Nat) : Task → Prop
  | .row start _ _ => position ≤ tokens.length ∧ start ≤ tokens.length
  | _ => position ≤ tokens.length

theorem Task.IsWithin.position_le {tokens : List Token} {position : Nat} {task : Task}
    (within : task.IsWithin tokens position) : position ≤ tokens.length := by
  cases task with
  | row => exact within.1
  | _ => exact within

/-- An iteration that began at `origin` with an element is going on, or a later one is. -/
def Task.IsSince (tokens : List Token) (origin position : Nat) : Task → Prop
  | .enter => origin ≤ position
  | .elements => origin < position
  | .row start _ _ => origin ≤ start ∧ start ≤ position ∧ ElementAt tokens start
  | .skip _ _ => origin < position ∨ origin = position ∧ ElementAt tokens position
  | .ended _ => True
  | .refused => True

def Task.IsOver : Task → Prop
  | .ended _ => True
  | .refused => True
  | _ => False

/-- More than the number of steps that are left before an iteration ends. -/
def Task.patience (tokens : List Token) (position : Nat) : Task → Nat
  | .elements => 2 * tokens.length + 2
  | .row _ _ _ => tokens.length + 1 + (tokens.length - position)
  | .skip _ _ => tokens.length - position
  | _ => 0

namespace Move

variable {tokens : List Token} {task next : Task} {position further origin : Nat}

theorem isWithin (move : Move tokens task next position further)
    (within : task.IsWithin tokens position) : next.IsWithin tokens further := by
  cases move with
  | enter inside => exact inside
  | refuse => exact within
  | pass inside => exact inside
  | nest => exact within
  | attempt element => exact ⟨within, within⟩
  | wait inside => exact ⟨inside, within.2⟩
  | take inside => exact inside
  | giveUp => exact within.2
  | skip inside => exact inside
  | skipped inside => exact inside
  | stop => exact within
  | finish => exact within.position_le
  | finishBehind inside => exact inside

theorem isSince_of_elements (move : Move tokens .elements next position further)
    (reached : origin ≤ position) : next.IsSince tokens origin further := by
  cases move with
  | pass => exact Nat.lt_succ_of_le reached
  | nest => exact reached
  | attempt element => exact ⟨reached, Nat.le_refl _, element⟩
  | finish => trivial
  | finishBehind => trivial

/-- Only skipping may stop where it stands, and then it has left the start of its element. -/
theorem isSince (move : Move tokens task next position further)
    (since : task.IsSince tokens origin position) : next.IsSince tokens origin further := by
  cases move with
  | enter => exact Nat.lt_succ_of_le since
  | refuse => trivial
  | pass inside => exact isSince_of_elements (.pass inside) (Nat.le_of_lt since)
  | nest => exact Nat.le_of_lt since
  | attempt element => exact ⟨Nat.le_of_lt since, Nat.le_refl _, element⟩
  | wait =>
      obtain ⟨reached, started, element⟩ := since
      exact ⟨reached, Nat.le_succ_of_le started, element⟩
  | take =>
      obtain ⟨reached, started, -⟩ := since
      exact Nat.lt_succ_of_le (Nat.le_trans reached started)
  | giveUp =>
      obtain ⟨reached, -, element⟩ := since
      rcases Nat.lt_or_eq_of_le reached with before | same
      · exact .inl before
      · exact .inr ⟨same, element⟩
  | skip =>
      left
      rcases since with before | ⟨same, -⟩
      · exact Nat.lt_succ_of_lt before
      · exact Nat.lt_succ_of_le (Nat.le_of_eq same)
  | skipped =>
      rcases since with before | ⟨same, -⟩
      · exact Nat.lt_succ_of_lt before
      · exact Nat.lt_succ_of_le (Nat.le_of_eq same)
  | stop noElement =>
      rcases since with before | ⟨-, element⟩
      · exact before
      · exact absurd element noElement
  | finish => trivial
  | finishBehind => trivial

theorem patience_lt (move : Move tokens task next position further) (busy : next ≠ .elements)
    (going : ¬ next.IsOver) : next.patience tokens further < task.patience tokens position := by
  cases move with
  | enter => exact absurd rfl busy
  | refuse => exact absurd trivial going
  | pass => exact absurd rfl busy
  | nest => exact Nat.succ_pos _
  | attempt element =>
      have inside := element.lt_length
      simp only [Task.patience]
      omega
  | wait inside =>
      simp only [Task.patience]
      omega
  | take => exact absurd rfl busy
  | giveUp =>
      simp only [Task.patience]
      omega
  | skip inside =>
      simp only [Task.patience]
      omega
  | skipped => exact absurd rfl busy
  | stop => exact absurd rfl busy
  | finish => exact absurd trivial going
  | finishBehind => exact absurd trivial going

end Move

namespace Reader

variable {tokens rest : List Token} {token first : Token} {reader next : Reader}

theorem step_eq_none_iff : reader.step tokens = none ↔ reader.task.IsOver := by
  cases task : reader.task with
  | ended outcome => simp [step, task, Task.IsOver]
  | refused => simp [step, task, Task.IsOver]
  | _ => cases here : tokens.drop reader.position <;> simp [step, task, here, Task.IsOver]

theorem isWithin_of_reaches (run : Reaches (step tokens) reader next)
    (within : reader.task.IsWithin tokens reader.position) :
    next.task.IsWithin tokens next.position := by
  induction run with
  | refl => exact within
  | tail _ stepped induction => exact (moves_of_step stepped).isWithin induction

theorem isSince_of_reaches {origin : Nat} (run : Reaches (step tokens) reader next)
    (since : reader.task.IsSince tokens origin reader.position) :
    next.task.IsSince tokens origin next.position := by
  induction run with
  | refl => exact since
  | tail _ stepped induction => exact (moves_of_step stepped).isSince induction

/-- Between the beginnings of two iterations the position grows. -/
theorem position_lt_of_elements (elements : reader.task = .elements)
    (further : next.task = .elements) (run : Reaches₁ (step tokens) reader next) :
    reader.position < next.position := by
  obtain ⟨second, stepped, rest⟩ := Relation.TransGen.head'_iff.mp run
  have moves := moves_of_step stepped
  rw [Moves, elements] at moves
  have since := isSince_of_reaches rest (moves.isSince_of_elements (Nat.le_refl _))
  rwa [further] at since

theorem position_lt_of_skip {depth : Nat} (skip : reader.task = .skip first depth)
    (element : ElementAt tokens reader.position) (further : next.task = .elements)
    (run : Reaches (step tokens) reader next) : reader.position < next.position := by
  have since := @isSince_of_reaches _ _ _ reader.position run (by
    rw [skip]
    exact .inr ⟨rfl, element⟩)
  rwa [further] at since

/-- An iteration ends: with another one, or with all reading. -/
theorem exists_iteration (going : ¬ reader.task.IsOver) :
    ∃ next, Reaches₁ (step tokens) reader next ∧
      (next.task = .elements ∨ next.task.IsOver) := by
  -- The induction is on the patience of the tasks inside an iteration.
  generalize size : reader.task.patience tokens reader.position = patience
  induction patience using Nat.strong_induction_on generalizing reader with
  | _ patience induction =>
      obtain ⟨second, stepped⟩ := Option.ne_none_iff_exists'.mp (step_eq_none_iff.not.mpr going)
      by_cases stops : second.task = .elements ∨ second.task.IsOver
      · exact ⟨second, .single stepped, stops⟩
      · obtain ⟨busy, secondGoing⟩ := not_or.mp stops
        have less := (moves_of_step stepped).patience_lt busy secondGoing
        obtain ⟨next, run, ends⟩ := induction _ (size ▸ less) secondGoing rfl
        exact ⟨next, .head stepped run, ends⟩

/-- Since the position grows from iteration to iteration and stays among the tokens, there is a last
iteration. -/
theorem exists_over (elements : reader.task = .elements)
    (within : reader.position ≤ tokens.length) :
    ∃ last, Reaches (step tokens) reader last ∧ last.task.IsOver := by
  generalize size : tokens.length - reader.position = ahead
  induction ahead using Nat.strong_induction_on generalizing reader with
  | _ ahead induction =>
      have going : ¬ reader.task.IsOver := by
        rw [elements]
        exact not_false
      obtain ⟨next, run, further | finished⟩ := @exists_iteration tokens reader going
      · have grows := position_lt_of_elements elements further run
        have nextWithin : next.position ≤ tokens.length := by
          have reached := isWithin_of_reaches run.to_reflTransGen (by
            rw [elements]
            exact within)
          rwa [further] at reached
        have less : tokens.length - next.position < ahead := by omega
        obtain ⟨last, more, finished⟩ := induction _ less further nextWithin rfl
        exact ⟨last, run.to_reflTransGen.trans more, finished⟩
      · exact ⟨next, run.to_reflTransGen, finished⟩

/-- What the reader has read when it ends. -/
def result (reader : Reader) (outcome : Outcome) : Except NamingFault Reading :=
  reader.before <$> outcome.reading

theorem whole_start {position : Nat} (here : tokens.drop position = token :: rest)
    (opening : token.kind = .opening) :
    (start position).whole tokens = some (read 0 rest) := by
  simp only [whole, ahead, start, here, Row.expect?, if_pos opening, Option.map_some]
  congr 1
  cases read 0 rest with
  | error fault => rfl
  | ok reading => rfl

theorem exists_last (tokens : List Token) (position : Nat) :
    ∃ last, Reaches (step tokens) (start position) last ∧ last.task.IsOver := by
  cases here : tokens.drop position with
  | nil =>
      have stepped : step tokens (start position) = some ((start position).turn .refused) := by
        simp [step, start, here]
      exact ⟨_, .single stepped, trivial⟩
  | cons token rest =>
      by_cases opening : token.kind = .opening
      · have stepped : step tokens (start position) = some ((start position).pass .elements) := by
          simp [step, start, here, opening]
        have inside : (start position).position < tokens.length := lt_length_of_drop here
        obtain ⟨last, run, finished⟩ :=
          @exists_over tokens ((start position).pass .elements) rfl inside
        exact ⟨last, .head stepped run, finished⟩
      · have stepped : step tokens (start position) = some ((start position).turn .refused) := by
          simp [step, start, here, opening]
        exact ⟨_, .single stepped, trivial⟩

/-- From one iteration to the next the position grows, whether the iteration passes a comma, enters
or leaves a list, takes a row, or gives a row up and skips the element: skipping never stops where
an element starts. The position stays among the tokens. So reading a list comes to an end for all
tokens, with the answer of the reader of whole tables. -/
theorem reader_progresses (tokens : List Token) :
    (∀ reader next : Reader, reader.task = .elements → next.task = .elements →
      Reaches₁ (step tokens) reader next → reader.position < next.position) ∧
    (∀ (reader next : Reader) first depth, reader.task = .skip first depth →
      ElementAt tokens reader.position → next.task = .elements →
        Reaches (step tokens) reader next → reader.position < next.position) ∧
    (∀ position next, position ≤ tokens.length → Reaches (step tokens) (start position) next →
      next.position ≤ tokens.length) ∧
    ∀ position, ∃ last, Reaches (step tokens) (start position) last ∧ step tokens last = none ∧
      ∀ opening rest, tokens.drop position = opening :: rest → opening.kind = .opening →
        ∃ outcome, last.task = .ended outcome ∧ last.result outcome = read 0 rest := by
  refine ⟨fun _ _ elements further run => position_lt_of_elements elements further run,
    fun _ _ _ _ skip element further run => position_lt_of_skip skip element further run, ?_, ?_⟩
  · intro position next within run
    exact (isWithin_of_reaches run within).position_le
  · intro position
    obtain ⟨last, run, finished⟩ := exists_last tokens position
    refine ⟨last, run, step_eq_none_iff.mpr finished, ?_⟩
    intro opening rest here isOpening
    have same := whole_reaches run
    rw [whole_start here isOpening] at same
    cases task : last.task with
    | ended outcome =>
        refine ⟨outcome, rfl, ?_⟩
        simpa [whole, ahead, task, result] using same
    | refused => simp [whole, ahead, task] at same
    | _ => simp [task, Task.IsOver] at finished

/-- A list that holds a row without its path: the row is given up, and its tokens are skipped. -/
theorem reader_progresses_brokenRow :
    let opening : Token := ⟨.opening, "[", 1⟩
    let tokens : List Token := [⟨.opening, "[", 0⟩, opening, ⟨.string, "''", 2⟩,
      ⟨.closing, "]", 4⟩, ⟨.closing, "]", 5⟩]
    let reader : Reader := ⟨1, .elements, [], [], []⟩
    let skipping : Reader := ⟨1, .skip opening 0, [], [], []⟩
    let next : Reader := ⟨4, .elements, [], [], [1]⟩
    (Reaches₁ (step tokens) reader next ∧ reader.position < next.position) ∧
      (ElementAt tokens skipping.position ∧ Reaches (step tokens) skipping next ∧
        skipping.position < next.position) ∧
      (Reaches (step tokens) (start 0) (start 0) ∧ (start 0).position ≤ tokens.length) ∧
      ∃ last outcome, Reaches (step tokens) (start 0) last ∧ last.task = .ended outcome ∧
        last.result outcome = read 0 (tokens.drop 1) := by
  intro opening tokens reader skipping next
  have element : ElementAt tokens skipping.position := ⟨opening, _, rfl, nofun, nofun⟩
  have skips : Reaches (step tokens) skipping next :=
    .head rfl (.head rfl (.head rfl .refl))
  have run : Reaches₁ (step tokens) reader next :=
    .head' rfl (.head rfl (.head rfl (.head rfl skips)))
  obtain ⟨grows, leaves, stays, ends⟩ := reader_progresses tokens
  refine ⟨⟨run, grows reader next rfl rfl run⟩,
    ⟨element, skips, leaves skipping next opening 0 rfl element rfl skips⟩,
    ⟨.refl, stays 0 (start 0) (Nat.zero_le _) .refl⟩, ?_⟩
  obtain ⟨last, whole, -, answer⟩ := ends 0
  obtain ⟨outcome, task, same⟩ := answer _ _ rfl rfl
  exact ⟨last, outcome, whole, task, same⟩

end Reader

end DartRoutes.RouteTable
