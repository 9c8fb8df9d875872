import DartRoutes.Proofs.TableElement
import Mathlib.Computability.StateTransition

/-!
# The table reader as a machine

The reader with its position among the tokens, one token or one decision at a step. An element that
is no list of lists is tried as a row first. Where the row breaks off, the position goes back to the
start of the element, and the element is skipped from there. The lists around the innermost open one
wait on a stack, each with the routes that it has so far.
-/

namespace DartRoutes

namespace Row

/-- What a row waits for, with what was read of it. -/
inductive Awaited where
  | opening
  | group
  | path (group : Text)
  | page (group path : Text)
  | flag (group path page : Text)
  /-- The closing bracket, in front of which one comma may stand. -/
  | ending (route : Route)
  | closing (route : Route)
  deriving DecidableEq, Repr

/-- What one more token does to a row. -/
inductive Advance where
  | waits (awaited : Awaited)
  | completes (route : Route)
  | breaks
  deriving DecidableEq, Repr

def advance (token : Token) : Awaited → Advance
  | .opening => if token.kind = .opening then .waits .group else .breaks
  | .group =>
      if token.kind = .string then .waits (.path (Token.unquote token.lexeme)) else .breaks
  | .path group =>
      match token.kind with
      | .comma => .waits (.path group)
      | .string => .waits (.page group (Token.unquote token.lexeme))
      | _ => .breaks
  | .page group path =>
      match token.kind with
      | .comma => .waits (.page group path)
      | .string => .waits (.flag group path (Token.unquote token.lexeme))
      | _ => .breaks
  | .flag group path page =>
      match token.kind with
      | .comma => .waits (.flag group path page)
      | .flag => .waits (.ending ⟨group, path, page, token.lexeme == "true"⟩)
      | _ => .breaks
  | .ending route =>
      match token.kind with
      | .comma => .waits (.closing route)
      | .closing => .completes route
      | _ => .breaks
  | .closing route => if token.kind = .closing then .completes route else .breaks

/-- The row that the tokens complete, and the tokens behind it. -/
def Awaited.read? : Awaited → List Token → Option (Route × List Token)
  | _, [] => none
  | awaited, token :: rest =>
      match advance token awaited with
      | .waits awaited => awaited.read? rest
      | .completes route => some (route, rest)
      | .breaks => none

namespace Awaited

theorem read?_closing (route : Route) (tokens : List Token) :
    (closing route).read? tokens =
      (expect? .closing tokens).map fun found => (route, found.2) := by
  cases tokens with
  | nil => rfl
  | cons token rest =>
      by_cases isClosing : token.kind = .closing
      · simp [read?, advance, expect?, isClosing]
      · simp [read?, advance, expect?, isClosing]

theorem read?_ending (route : Route) (tokens : List Token) :
    (ending route).read? tokens =
      (expect? .closing (skipComma tokens)).map fun found => (route, found.2) := by
  cases tokens with
  | nil => rfl
  | cons token rest =>
      cases kind : token.kind with
      | comma =>
          have behind : skipComma (token :: rest) = rest := by simp [skipComma, expect?, kind]
          rw [behind, ← read?_closing]
          simp [read?, advance, kind]
      | closing => simp [read?, advance, skipComma, expect?, kind]
      | _ => simp [read?, advance, skipComma, expect?, kind]

theorem skipCommas_cons (token : Token) (rest : List Token) :
    skipCommas (token :: rest) =
      if token.kind = .comma then skipCommas rest else token :: rest := by
  simp [skipCommas, List.dropWhile_cons]

/-- Waiting for a token of one kind. -/
theorem read?_of_expects {awaited : Awaited} {kind : Lexeme.Kind} (further : Token → Awaited)
    (waits : ∀ token : Token,
      advance token awaited = if token.kind = kind then .waits (further token) else .breaks)
    (tokens : List Token) :
    awaited.read? tokens =
      (expect? kind tokens).bind fun found => (further found.1).read? found.2 := by
  cases tokens with
  | nil => rfl
  | cons token rest =>
      by_cases isExpected : token.kind = kind
      · simp [read?, waits, expect?, isExpected]
      · simp [read?, waits, expect?, isExpected]

/-- Waiting for a token of one kind, in front of which commas may stand. -/
theorem read?_of_passes {awaited : Awaited} {kind : Lexeme.Kind} (further : Token → Awaited)
    (waits : ∀ token : Token,
      advance token awaited =
        if token.kind = .comma then .waits awaited
        else if token.kind = kind then .waits (further token)
        else .breaks)
    (tokens : List Token) :
    awaited.read? tokens =
      (expect? kind (skipCommas tokens)).bind fun found => (further found.1).read? found.2 := by
  induction tokens with
  | nil => rfl
  | cons token rest induction =>
      by_cases isComma : token.kind = .comma
      · simp [read?, waits, skipCommas_cons, isComma, induction]
      · by_cases isExpected : token.kind = kind
        · subst isExpected
          simp [read?, waits, skipCommas_cons, expect?, isComma]
        · simp [read?, waits, skipCommas_cons, expect?, isComma, isExpected]

theorem read?_flag (group path page : Text) (tokens : List Token) :
    (flag group path page).read? tokens =
      (expect? .flag (skipCommas tokens)).bind fun found =>
        (ending ⟨group, path, page, found.1.lexeme == "true"⟩).read? found.2 := by
  apply read?_of_passes fun token => ending ⟨group, path, page, token.lexeme == "true"⟩
  intro token
  cases kind : token.kind <;> simp [advance, kind]

theorem read?_page (group path : Text) (tokens : List Token) :
    (page group path).read? tokens =
      (expect? .string (skipCommas tokens)).bind fun found =>
        (flag group path (Token.unquote found.1.lexeme)).read? found.2 := by
  apply read?_of_passes fun token => flag group path (Token.unquote token.lexeme)
  intro token
  cases kind : token.kind <;> simp [advance, kind]

theorem read?_path (group : Text) (tokens : List Token) :
    (path group).read? tokens =
      (expect? .string (skipCommas tokens)).bind fun found =>
        (page group (Token.unquote found.1.lexeme)).read? found.2 := by
  apply read?_of_passes fun token => page group (Token.unquote token.lexeme)
  intro token
  cases kind : token.kind <;> simp [advance, kind]

theorem read?_group (tokens : List Token) :
    group.read? tokens =
      (expect? .string tokens).bind fun found =>
        (path (Token.unquote found.1.lexeme)).read? found.2 := by
  apply read?_of_expects fun token => path (Token.unquote token.lexeme)
  intro token
  rfl

/-- Token by token the same rows are read as part by part. -/
theorem read?_opening (tokens : List Token) : opening.read? tokens = Row.read? tokens := by
  have entered : opening.read? tokens =
      (expect? .opening tokens).bind fun found => group.read? found.2 := by
    apply read?_of_expects fun _ => group
    intro token
    rfl
  rw [entered]
  simp only [read?_group, read?_path, read?_page, read?_flag, read?_ending, Option.map_eq_bind,
    Function.comp_def]
  rfl

end Awaited

end Row

namespace RouteTable

/-- How reading the list around all others ends. -/
inductive Outcome where
  | closed
  | unterminated
  | misnamed (page : Text)
  deriving DecidableEq, Repr

/-- What the reader is about to do. -/
inductive Task where
  /-- Reading the opening bracket of a list. -/
  | enter
  /-- Looking at the next element of the innermost list: an iteration of its loop begins. -/
  | elements
  /-- Going on with the row that would start at a position. -/
  | row (start : Nat) (first : Token) (awaited : Row.Awaited)
  /-- Passing the rest of an element, `depth` brackets of which are open. -/
  | skip (first : Token) (depth : Nat)
  | ended (outcome : Outcome)
  /-- There is no list to read. -/
  | refused
  deriving DecidableEq, Repr

/-- The reader in the middle of a table. -/
structure Reader where
  position : Nat
  task : Task
  /-- The routes of the innermost open list. -/
  routes : List Route
  /-- The routes of the lists around it, from the inside to the outside. -/
  outer : List (List Route)
  /-- Offsets of the elements that were skipped. -/
  skipped : List Nat
  deriving DecidableEq, Repr

namespace Reader

/-- The reader in front of the list that starts at a position. -/
def start (position : Nat) : Reader :=
  ⟨position, .enter, [], [], []⟩

/-- The reader turned to another task, where it stands. -/
def turn (task : Task) (reader : Reader) : Reader :=
  { reader with task := task }

/-- The reader turned to another task behind the token where it stands. -/
def pass (task : Task) (reader : Reader) : Reader :=
  { reader with position := reader.position + 1, task := task }

/-- The reader at the end of a row. -/
def takeRow (route : Route) (reader : Reader) : Reader :=
  if isPageName route.page then
    { reader.pass .elements with routes := reader.routes ++ [route] }
  else reader.pass (.ended (.misnamed route.page))

/-- The reader back at the start of an element that is no row. -/
def giveUp (start : Nat) (first : Token) (reader : Reader) : Reader :=
  { reader with position := start, task := .skip first 0 }

/-- The reader at the end of a skipped element. -/
def note (first : Token) (reader : Reader) : Reader :=
  { reader with task := .elements, skipped := reader.skipped ++ [first.offset] }

/-- The reader at the closing bracket of the innermost list. -/
def leave (reader : Reader) : Reader :=
  match reader.outer with
  | [] => reader.pass (.ended .closed)
  | routes :: outer =>
      { reader.pass .elements with routes := routes ++ reader.routes, outer := outer }

/-- The reader at the first token of an element. -/
def meet (token : Token) (rest : List Token) (reader : Reader) : Reader :=
  match token.kind with
  | .closing => reader.leave
  | .comma => reader.pass .elements
  | _ =>
      if startsNested token rest then
        { reader with task := .enter, routes := [], outer := reader.routes :: reader.outer }
      else reader.turn (.row reader.position token .opening)

/-- The reader at a token of an element that it skips. -/
def skipOver (token first : Token) (depth : Nat) (reader : Reader) : Reader :=
  match token.kind, depth with
  | .opening, depth => reader.pass (.skip first (depth + 1))
  | .closing, 0 => reader.note first
  | .closing, 1 => (reader.pass .elements).note first
  | .closing, depth + 2 => reader.pass (.skip first (depth + 1))
  | .comma, 0 => reader.note first
  | _, depth => reader.pass (.skip first depth)

/-- One step of the reader, if it has not come to an end. -/
def step (tokens : List Token) (reader : Reader) : Option Reader :=
  match reader.task, tokens.drop reader.position with
  | .enter, token :: _ =>
      some (if token.kind = .opening then reader.pass .elements else reader.turn .refused)
  | .enter, [] => some (reader.turn .refused)
  | .elements, token :: rest => some (reader.meet token rest)
  | .elements, [] => some (reader.turn (.ended .unterminated))
  | .row start first awaited, token :: _ =>
      some <| match Row.advance token awaited with
        | .waits awaited => reader.pass (.row start first awaited)
        | .completes route => reader.takeRow route
        | .breaks => reader.giveUp start first
  | .row start first _, [] => some (reader.giveUp start first)
  | .skip first depth, token :: _ => some (reader.skipOver token first depth)
  | .skip _ _, [] => some (reader.turn (.ended .unterminated))
  | .ended _, _ => none
  | .refused, _ => none

/-- The routes of all open lists in source order. -/
def told (reader : Reader) : List Route :=
  reader.outer.reverse.flatten ++ reader.routes

/-- What has been read, with what is still to come. -/
def before (reader : Reader) (reading : Reading) : Reading :=
  ⟨reader.told ++ reading.routes, reader.skipped ++ reading.skipped, reading.closed⟩

end Reader

def Outcome.reading : Outcome → Except NamingFault Reading
  | .closed => .ok ⟨[], [], true⟩
  | .unterminated => .ok ⟨[], [], false⟩
  | .misnamed page => .error ⟨page⟩

/-- The reading from a row on. -/
def readRow (depth : Nat) (route : Route) (behind : List Token) : Except NamingFault Reading :=
  if isPageName route.page then Reading.addRoute route <$> read depth behind
  else .error ⟨route.page⟩

/-- The reading from a skipped element on, if the element ends. -/
def readSkipped (depth : Nat) (first : Token) : Option (List Token) → Except NamingFault Reading
  | some behind => Reading.addSkipped first.offset <$> read depth behind
  | none => .ok ⟨[], [], false⟩

theorem read_element_eq {depth : Nat} {token : Token} {rest : List Token}
    (notClosing : token.kind ≠ .closing) (notComma : token.kind ≠ .comma)
    (single : startsNested token rest = false) :
    read depth (token :: rest) =
      match Row.read? (token :: rest) with
      | some (route, behind) => readRow depth route behind
      | none => readSkipped depth token (Element.skip? 0 (token :: rest)) := by
  rw [read_element notClosing notComma single, Element.skipFrom?_eq notClosing notComma]
  rfl

namespace Reader

/-- What is still to come, read in one go. -/
def ahead (tokens : List Token) (reader : Reader) : Option (Except NamingFault Reading) :=
  match reader.task with
  | .enter =>
      (Row.expect? .opening (tokens.drop reader.position)).map fun found =>
        read reader.outer.length found.2
  | .elements => some (read reader.outer.length (tokens.drop reader.position))
  | .row start first awaited =>
      some <| match awaited.read? (tokens.drop reader.position) with
        | some (route, behind) => readRow reader.outer.length route behind
        | none => readSkipped reader.outer.length first (Element.skip? 0 (tokens.drop start))
  | .skip first depth =>
      some (readSkipped reader.outer.length first
        (Element.skip? depth (tokens.drop reader.position)))
  | .ended outcome => some outcome.reading
  | .refused => none

/-- What the reader has to read altogether. -/
def whole (tokens : List Token) (reader : Reader) : Option (Except NamingFault Reading) :=
  (reader.ahead tokens).map fun reading => reader.before <$> reading

end Reader

variable {tokens rest : List Token} {token first : Token} {reader next : Reader}

theorem drop_succ_of_drop (here : tokens.drop reader.position = token :: rest) :
    tokens.drop (reader.position + 1) = rest := by
  rw [← List.tail_drop, here, List.tail_cons]

namespace Reader

/-- What is left to read decides, while nothing is taken or noted. -/
theorem whole_congr {left right : Reader} (told : left.told = right.told)
    (skipped : left.skipped = right.skipped) (ahead : left.ahead tokens = right.ahead tokens) :
    left.whole tokens = right.whole tokens := by
  have before : left.before = right.before := by
    funext reading
    simp [Reader.before, told, skipped]
  rw [whole, whole, before, ahead]

theorem before_takeRow (route : Route) (reading : Except NamingFault Reading) :
    { reader.pass .elements with routes := reader.routes ++ [route] }.before <$> reading =
      reader.before <$> Reading.addRoute route <$> reading := by
  cases reading with
  | error fault => rfl
  | ok reading => simp [Functor.map, Except.map, before, told, pass, Reading.addRoute]

theorem before_note (reading : Except NamingFault Reading) :
    (reader.note first).before <$> reading =
      reader.before <$> Reading.addSkipped first.offset <$> reading := by
  cases reading with
  | error fault => rfl
  | ok reading => simp [Functor.map, Except.map, before, told, note, Reading.addSkipped]

theorem whole_leave (elements : reader.task = .elements)
    (here : tokens.drop reader.position = token :: rest) (closing : token.kind = .closing) :
    reader.leave.whole tokens = reader.whole tokens := by
  cases outer : reader.outer with
  | nil =>
      apply whole_congr
      · simp [leave, told, pass, outer]
      · simp [leave, pass, outer]
      · simp [leave, pass, ahead, outer, elements, here, read_closing_table closing,
          Outcome.reading]
  | cons routes others =>
      apply whole_congr
      · simp [leave, told, outer]
      · simp [leave, pass, outer]
      · simp [leave, pass, ahead, outer, elements, here, drop_succ_of_drop here,
          read_closing_list closing]

theorem whole_meet (elements : reader.task = .elements)
    (here : tokens.drop reader.position = token :: rest) :
    (reader.meet token rest).whole tokens = reader.whole tokens := by
  by_cases closing : token.kind = .closing
  · have met : reader.meet token rest = reader.leave := by simp [meet, closing]
    rw [met]
    exact whole_leave elements here closing
  · by_cases comma : token.kind = .comma
    · have met : reader.meet token rest = reader.pass .elements := by simp [meet, comma]
      rw [met]
      refine whole_congr rfl rfl ?_
      simp [pass, ahead, elements, here, drop_succ_of_drop here, read_comma comma]
    · cases nested : startsNested token rest with
      | true =>
          have opening : token.kind = .opening := by
            simp only [startsNested, Bool.and_eq_true, beq_iff_eq] at nested
            exact nested.1
          have met : reader.meet token rest =
              { reader with
                task := .enter, routes := [], outer := reader.routes :: reader.outer } := by
            simp [meet, opening, nested]
          rw [met]
          apply whole_congr
          · simp [told]
          · rfl
          · simp [ahead, elements, here, read_nested nested, Row.expect?, opening]
      | false =>
          have met : reader.meet token rest =
              reader.turn (.row reader.position token .opening) := by
            simp only [meet, nested]
            split <;> simp_all
          rw [met]
          refine whole_congr rfl rfl ?_
          simp [turn, ahead, elements, here, read_element_eq closing comma nested,
            Row.Awaited.read?_opening]

theorem whole_takeRow {start : Nat} {awaited : Row.Awaited} {route : Route}
    (row : reader.task = .row start first awaited)
    (here : tokens.drop reader.position = token :: rest)
    (completes : Row.advance token awaited = .completes route) :
    (reader.takeRow route).whole tokens = reader.whole tokens := by
  have found : awaited.read? (token :: rest) = some (route, rest) := by
    simp [Row.Awaited.read?, completes]
  by_cases named : isPageName route.page = true
  · simp only [takeRow, if_pos named, whole, ahead, row, here, found, readRow, before_takeRow]
    simp only [pass, drop_succ_of_drop here, Option.map_some]
  · have refusal : reader.takeRow route = reader.pass (.ended (.misnamed route.page)) :=
      if_neg named
    simp only [refusal, whole, ahead, row, here, found, readRow, if_neg named]
    rfl

theorem whole_giveUp {start : Nat} {awaited : Row.Awaited}
    (row : reader.task = .row start first awaited)
    (broken : awaited.read? (tokens.drop reader.position) = none) :
    (reader.giveUp start first).whole tokens = reader.whole tokens := by
  refine whole_congr rfl rfl ?_
  simp [giveUp, ahead, row, broken]

theorem whole_row {start : Nat} {awaited : Row.Awaited}
    (row : reader.task = .row start first awaited) (stepped : reader.step tokens = some next) :
    next.whole tokens = reader.whole tokens := by
  cases here : tokens.drop reader.position with
  | nil =>
      obtain rfl : reader.giveUp start first = next := by
        simpa [step, row, here] using stepped
      apply whole_giveUp row
      rw [here, Row.Awaited.read?]
  | cons token rest =>
      cases advanced : Row.advance token awaited with
      | waits further =>
          obtain rfl : reader.pass (.row start first further) = next := by
            simpa [step, row, here, advanced] using stepped
          refine whole_congr rfl rfl ?_
          simp [pass, ahead, row, here, drop_succ_of_drop here, Row.Awaited.read?, advanced]
      | completes route =>
          obtain rfl : reader.takeRow route = next := by
            simpa [step, row, here, advanced] using stepped
          exact whole_takeRow row here advanced
      | breaks =>
          obtain rfl : reader.giveUp start first = next := by
            simpa [step, row, here, advanced] using stepped
          apply whole_giveUp row
          simp [here, Row.Awaited.read?, advanced]

theorem whole_skipOver {depth : Nat} (skip : reader.task = .skip first depth)
    (here : tokens.drop reader.position = token :: rest) :
    (reader.skipOver token first depth).whole tokens = reader.whole tokens := by
  have passes (deeper : Nat)
      (same : Element.skip? depth (token :: rest) = Element.skip? deeper rest) :
      (reader.pass (.skip first deeper)).whole tokens = reader.whole tokens := by
    refine whole_congr rfl rfl ?_
    simp [pass, ahead, skip, here, drop_succ_of_drop here, same]
  have stops (same : Element.skip? depth (token :: rest) = some (token :: rest)) :
      (reader.note first).whole tokens = reader.whole tokens := by
    simp only [whole, ahead, skip, here, same, readSkipped, before_note]
    simp only [note, here, Option.map_some]
  cases kind : token.kind with
  | opening =>
      have skips : reader.skipOver token first depth = reader.pass (.skip first (depth + 1)) := by
        simp [skipOver, kind]
      rw [skips]
      apply passes
      simp [Element.skip?, kind]
  | closing =>
      cases depth with
      | zero =>
          have skips : reader.skipOver token first 0 = reader.note first := by simp [skipOver, kind]
          rw [skips]
          apply stops
          simp [Element.skip?, kind]
      | succ depth =>
          cases depth with
          | zero =>
              have skips : reader.skipOver token first 1 = (reader.pass .elements).note first := by
                simp [skipOver, kind]
              have ended : Element.skip? 1 (token :: rest) = some rest := by
                simp [Element.skip?, kind]
              have sameBefore : (reader.pass .elements).before = reader.before := rfl
              simp only [zero_add, skips, whole, ahead, skip, here, ended, readSkipped, before_note,
                sameBefore]
              simp only [note, pass, drop_succ_of_drop here, Option.map_some]
          | succ depth =>
              have skips : reader.skipOver token first (depth + 2) =
                  reader.pass (.skip first (depth + 1)) := by
                simp [skipOver, kind]
              rw [skips]
              apply passes
              simp [Element.skip?, kind]
  | comma =>
      cases depth with
      | zero =>
          have skips : reader.skipOver token first 0 = reader.note first := by simp [skipOver, kind]
          rw [skips]
          apply stops
          simp [Element.skip?, kind]
      | succ depth =>
          have skips : reader.skipOver token first (depth + 1) =
              reader.pass (.skip first (depth + 1)) := by
            simp [skipOver, kind]
          rw [skips]
          apply passes
          simp [Element.skip?, kind]
  | _ =>
      have skips : reader.skipOver token first depth = reader.pass (.skip first depth) := by
        simp [skipOver, kind]
      rw [skips]
      apply passes
      simp [Element.skip?, kind]

/-- A step changes what is read and what is to come, but not both together. -/
theorem whole_step (stepped : reader.step tokens = some next) :
    next.whole tokens = reader.whole tokens := by
  cases task : reader.task with
  | enter =>
      cases here : tokens.drop reader.position with
      | nil =>
          obtain rfl : reader.turn .refused = next := by simpa [step, task, here] using stepped
          simp [whole, ahead, task, here, turn, Row.expect?]
      | cons token rest =>
          by_cases opening : token.kind = .opening
          · obtain rfl : reader.pass .elements = next := by
              simpa [step, task, here, opening] using stepped
            refine whole_congr rfl rfl ?_
            simp [pass, ahead, task, here, drop_succ_of_drop here, Row.expect?, opening]
          · obtain rfl : reader.turn .refused = next := by
              simpa [step, task, here, opening] using stepped
            simp [whole, ahead, task, here, turn, Row.expect?, opening]
  | elements =>
      cases here : tokens.drop reader.position with
      | nil =>
          obtain rfl : reader.turn (.ended .unterminated) = next := by
            simpa [step, task, here] using stepped
          refine whole_congr rfl rfl ?_
          simp [turn, ahead, task, here, read_nil, Outcome.reading]
      | cons token rest =>
          obtain rfl : reader.meet token rest = next := by simpa [step, task, here] using stepped
          exact whole_meet task here
  | row start first awaited => exact whole_row task stepped
  | skip first depth =>
      cases here : tokens.drop reader.position with
      | nil =>
          obtain rfl : reader.turn (.ended .unterminated) = next := by
            simpa [step, task, here] using stepped
          refine whole_congr rfl rfl ?_
          simp [turn, ahead, task, here, Element.skip?, readSkipped, Outcome.reading]
      | cons token rest =>
          obtain rfl : reader.skipOver token first depth = next := by
            simpa [step, task, here] using stepped
          exact whole_skipOver task here
  | ended outcome => simp [step, task] at stepped
  | refused => simp [step, task] at stepped

/-- A run reads the whole that was to be read at its beginning. -/
theorem whole_reaches (run : StateTransition.Reaches (step tokens) reader next) :
    next.whole tokens = reader.whole tokens := by
  induction run with
  | refl => rfl
  | tail _ stepped induction => rw [whole_step stepped, induction]

end Reader

end RouteTable

end DartRoutes
