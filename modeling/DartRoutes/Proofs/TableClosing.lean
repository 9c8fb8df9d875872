import DartRoutes.Proofs.TableLocation
import DartRoutes.Proofs.TableScan

/-!
# Closed tables

A table is closed by the token behind which as many brackets are closed as were opened. Nothing else
decides whether it is found: not the rows and not the malformed elements inside it, and no token
behind it.
-/

namespace DartRoutes

namespace Token

/-- The bracket depth comes back to zero with the last of the tokens and not before. -/
structure Matched (tokens : List Token) : Prop where
  nonempty : tokens ≠ []
  level : balance tokens = 0
  first : ∀ front back, front ++ back = tokens → front ≠ [] → back ≠ [] → balance front ≠ 0

theorem Matched.unique {tokens other behind otherBehind : List Token} (left : Matched tokens)
    (right : Matched other) (joined : tokens ++ behind = other ++ otherBehind) :
    tokens = other := by
  rcases List.append_eq_append_iff.mp joined with ⟨more, rfl, rfl⟩ | ⟨more, rfl, rfl⟩
  · by_cases empty : more = []
    · rw [empty, List.append_nil]
    · exact absurd left.level (right.first tokens more rfl left.nonempty empty)
  · by_cases empty : more = []
    · rw [empty, List.append_nil]
    · exact absurd right.level (left.first other more rfl right.nonempty empty)

variable {opening : Token} {tokens : List Token}

theorem Reaches.balance_pos {last : Int} (isOpening : opening.kind = .opening)
    (reaches : Reaches 1 tokens last) {front back : List Token}
    (joined : front ++ back = opening :: tokens) (nonempty : front ≠ [])
    (inside : back ≠ [] ∨ 0 < last) : 0 < balance front := by
  obtain ⟨first, front, rfl⟩ := List.exists_cons_of_ne_nil nonempty
  have joinedRest : front ++ back = tokens := (List.cons_eq_cons.mp joined).2
  obtain rfl := (List.cons_eq_cons.mp joined).1
  rw [balance_cons, weight_opening isOpening]
  by_cases empty : back = []
  · have level := reaches.ends
    rw [empty, List.append_nil] at joinedRest
    rw [joinedRest, level]
    exact inside.resolve_left fun nonempty => nonempty empty
  · exact reaches.inside front back joinedRest empty

theorem Reaches.matched (isOpening : opening.kind = .opening) (closes : Reaches 1 tokens 0) :
    Matched (opening :: tokens) where
  nonempty := List.cons_ne_nil _ _
  level := by
    rw [balance_cons, weight_opening isOpening]
    exact closes.ends
  first := by
    intro front back joined nonempty back_ne
    exact Int.ne_of_gt (closes.balance_pos isOpening joined nonempty (.inl back_ne))

end Token

namespace RouteTable

theorem exists_of_map_eq_ok {ε α β : Type} {change : α → β} {attempt : Except ε α} {result : β}
    (mapped : change <$> attempt = .ok result) :
    ∃ value, attempt = .ok value ∧ change value = result := by
  cases attempt with
  | error fault => cases mapped
  | ok value =>
      cases mapped
      exact ⟨value, rfl, rfl⟩

theorem Reading.closed_of_ofItems {closed : Bool} {items : List Item} {reading : Reading}
    (read : Reading.ofItems closed items = .ok reading) : reading.closed = closed := by
  induction items generalizing reading with
  | nil =>
      cases read
      rfl
  | cons item items induction =>
      cases item with
      | row route =>
          rw [ofItems] at read
          split at read
          · obtain ⟨rest, others, rfl⟩ := exists_of_map_eq_ok read
            have sameClosed := induction others
            exact sameClosed
          · cases read
      | malformed offset =>
          rw [ofItems] at read
          obtain ⟨rest, others, rfl⟩ := exists_of_map_eq_ok read
          have sameClosed := induction others
          exact sameClosed

/-- A reading is closed at the bracket that matches the one in front of its tokens, or no bracket
matches that one. -/
theorem closed_or_unmatched {opening : Token} {tokens : List Token} {reading : Reading}
    (isOpening : opening.kind = .opening) (completed : read 0 tokens = .ok reading) :
    (reading.closed = true ∧ ∃ inside behind items, inside ++ behind = tokens ∧
        Scan 0 inside items true ∧ Token.Matched (opening :: inside)) ∨
      (reading.closed = false ∧ ∀ front back, front ++ back = opening :: tokens → front ≠ [] →
        Token.balance front ≠ 0) := by
  obtain ⟨inside, behind, items, closed, rfl, scan, ends⟩ := Scan.exists_scan 0 tokens
  obtain ⟨last, reaches, last_eq, last_pos⟩ := scan.exists_reaches
  rw [scan.read_eq ends] at completed
  have flag := Reading.closed_of_ofItems completed
  cases closed with
  | true =>
      rw [last_eq rfl] at reaches
      exact .inl ⟨flag, inside, behind, items, rfl, scan, reaches.matched isOpening⟩
  | false =>
      refine .inr ⟨flag, ?_⟩
      intro front back joined nonempty
      rw [ends rfl, List.append_nil] at joined
      exact Int.ne_of_gt (reaches.balance_pos isOpening joined nonempty (.inr (last_pos rfl)))

theorem closed_eq_false_iff {opening : Token} {tokens : List Token} {reading : Reading}
    (isOpening : opening.kind = .opening) (completed : read 0 tokens = .ok reading) :
    reading.closed = false ↔ ∀ front back, front ++ back = opening :: tokens → front ≠ [] →
      Token.balance front ≠ 0 := by
  rcases closed_or_unmatched isOpening completed with
    ⟨isClosed, inside, behind, _, rfl, _, matched⟩ | ⟨notClosed, unmatched⟩
  · rw [isClosed]
    refine ⟨nofun, fun unmatched => ?_⟩
    exact absurd matched.level (unmatched (opening :: inside) behind rfl matched.nonempty)
  · exact ⟨fun _ => unmatched, fun _ => notClosed⟩

/-- No beginning of a table that ends before the matching bracket is closed. -/
theorem closed_eq_false_of_shorter {opening : Token} {front back : List Token} {reading : Reading}
    (isOpening : opening.kind = .opening) (matched : Token.Matched (opening :: (front ++ back)))
    (shorter : back ≠ []) (completed : read 0 front = .ok reading) : reading.closed = false := by
  rcases closed_or_unmatched isOpening completed with
    ⟨_, inside, behind, _, rfl, _, insideMatched⟩ | ⟨notClosed, _⟩
  · have joined : opening :: inside ++ (behind ++ back) =
        opening :: (inside ++ behind ++ back) ++ [] := by
      simp
    have same := insideMatched.unique matched joined
    simp [shorter] at same
  · exact notClosed

theorem locate?_head {table text list : Text} {before : Option Char}
    (located : locate? table before text = some list) : list.head? = some '[' := by
  have bracket {place : Text} (assigned : assignment? table place = some list) :
      list.head? = some '[' := by
    obtain ⟨_, _, _, _, _, bracket⟩ := assignment?_eq_some_iff.mp assigned
    exact bracket
  induction text generalizing before with
  | nil =>
      rw [locate?] at located
      split at located
      · exact bracket located
      · cases located
  | cons character rest induction =>
      rw [locate?] at located
      split at located
      · rename_i found here
        cases located
        split at here
        · exact bracket here
        · cases here
      · exact induction located

/-- The tokens of a located list start with its bracket. -/
theorem exists_tokensFrom {table text list : Text} {before : Option Char}
    (located : locate? table before text = some list) :
    ∃ opening tokens, tokensFrom text list = opening :: tokens ∧ opening.kind = .opening := by
  obtain ⟨rest, rfl⟩ := List.head?_eq_some_iff.mp (locate?_head located)
  rw [tokensFrom, Token.ofText_opening]
  exact ⟨_, _, rfl, rfl⟩

/-- A result comes from a located list, or there is none. -/
theorem parse_eq_ok {text table : Text} {result : RouteTable}
    (parsed : parse text table = .ok result) :
    (locate? table none text = none ∧ result = ⟨[], false, [.missing table]⟩) ∨
      ∃ list reading, locate? table none text = some list ∧
        read 0 ((tokensFrom text list).drop 1) = .ok reading ∧
        result = reading.table text table := by
  cases located : locate? table none text with
  | none =>
      rw [parse_of_missing located] at parsed
      cases parsed
      exact .inl ⟨rfl, rfl⟩
  | some list =>
      rw [parse_of_located located] at parsed
      obtain ⟨reading, completed, rfl⟩ := exists_of_map_eq_ok parsed
      exact .inr ⟨list, reading, rfl, completed, rfl⟩

theorem Reading.found_table (text table : Text) (reading : Reading) :
    (reading.table text table).found = reading.closed := by
  rw [Reading.table]
  cases reading.closed with
  | true => rfl
  | false => rfl

theorem Reading.routes_table (text table : Text) (reading : Reading) :
    (reading.table text table).routes = if reading.closed then reading.routes else [] := by
  rw [Reading.table]
  cases reading.closed with
  | true => rfl
  | false => rfl

theorem found_eq_true_iff {text table : Text} {result : RouteTable}
    (parsed : parse text table = .ok result) :
    result.found = true ↔ ∃ list, locate? table none text = some list ∧
      ∃ front back, front ++ back = tokensFrom text list ∧ Token.Matched front := by
  rcases parse_eq_ok parsed with
    ⟨missing, rfl⟩ | ⟨list, reading, located, completed, rfl⟩
  · rw [missing]
    exact ⟨nofun, nofun⟩
  · obtain ⟨opening, tokens, shape, isOpening⟩ := exists_tokensFrom located
    rw [shape] at completed
    rw [located, Reading.found_table]
    rcases closed_or_unmatched isOpening completed with
      ⟨isClosed, inside, behind, _, rfl, _, matched⟩ | ⟨notClosed, unmatched⟩
    · rw [isClosed]
      exact ⟨fun _ => ⟨list, rfl, opening :: inside, behind, shape.symm, matched⟩, fun _ => rfl⟩
    · rw [notClosed]
      refine ⟨nofun, ?_⟩
      rintro ⟨_, same, front, back, joined, matched⟩
      cases same
      rw [shape] at joined
      exact absurd matched.level (unmatched front back joined matched.nonempty)

theorem routes_eq_nil {text table : Text} {result : RouteTable}
    (parsed : parse text table = .ok result) (missing : result.found = false) :
    result.routes = [] := by
  rcases parse_eq_ok parsed with ⟨-, rfl⟩ | ⟨list, reading, -, -, rfl⟩
  · rfl
  · rw [Reading.found_table] at missing
    rw [Reading.routes_table, missing]
    rfl

/-- A table is closed exactly if the bracket depth comes back to zero. Then what is read depends on
the tokens up to the bracket where it does and on no others, and no shorter beginning of it is
closed. So a text has a table exactly if its bracket is matched, and gives no routes otherwise. -/
theorem closed_iff_matched :
    (∀ opening tokens reading, opening.kind = .opening → read 0 tokens = .ok reading →
      (reading.closed = false ↔ ∀ front back, front ++ back = opening :: tokens → front ≠ [] →
        Token.balance front ≠ 0) ∧
      (reading.closed = true → ∃ inside behind, inside ++ behind = tokens ∧
        Token.Matched (opening :: inside) ∧ (∃ items, Scan 0 inside items true) ∧
          (∀ others, read 0 (inside ++ others) = .ok reading) ∧
          ∀ front back part, front ++ back = inside → back ≠ [] → read 0 front = .ok part →
            part.closed = false)) ∧
      ∀ text table result, parse text table = .ok result →
        (result.found = true ↔ ∃ list, locate? table none text = some list ∧
          ∃ front back, front ++ back = tokensFrom text list ∧ Token.Matched front) ∧
          (result.found = false → result.routes = []) := by
  constructor
  · intro opening tokens reading isOpening completed
    refine ⟨closed_eq_false_iff isOpening completed, fun isClosed => ?_⟩
    rcases closed_or_unmatched isOpening completed with
      ⟨_, inside, behind, items, rfl, scan, matched⟩ | ⟨notClosed, _⟩
    · refine ⟨inside, behind, rfl, matched, ⟨items, scan⟩, ?_, ?_⟩
      · rw [scan.read_eq nofun] at completed
        exact fun others => (scan.read_eq nofun).trans completed
      · rintro front back part rfl shorter partRead
        exact closed_eq_false_of_shorter isOpening matched shorter partRead
    · rw [isClosed] at notClosed
      cases notClosed
  · intro text table result parsed
    exact ⟨found_eq_true_iff parsed, routes_eq_nil parsed⟩

/-- A table with a list behind a word, closed in front of one more bracket. -/
theorem closed_iff_matched_list :
    let text : Text := "t = [x[],]]"
    let result : RouteTable := ⟨[], true, [.malformedRow 1]⟩
    let opening : Token := ⟨.opening, "[", 4⟩
    let inside : List Token := [⟨.other, "x", 5⟩, ⟨.opening, "[", 6⟩, ⟨.closing, "]", 7⟩,
      ⟨.comma, ",", 8⟩, ⟨.closing, "]", 9⟩]
    let behind : List Token := [⟨.closing, "]", 10⟩]
    (opening.kind = .opening ∧ read 0 (inside ++ behind) = .ok ⟨[], [5], true⟩ ∧
      parse text "t" = .ok result) ∧
      (∃ front back, front ++ back = opening :: (inside ++ behind) ∧ Token.Matched front) ∧
      ∃ list, locate? "t" none text = some list ∧
        ∃ front back, front ++ back = tokensFrom text list ∧ Token.Matched front := by
  intro text result opening inside behind
  have scan : Scan 0 inside [.malformed 5] true := by
    refine @Scan.malformed 0 ⟨.other, "x", 5⟩ [⟨.opening, "[", 6⟩, ⟨.closing, "]", 7⟩] _ _ _ ?_
      (.comma rfl (.close rfl))
    have plain : Token.IsPlain ⟨.other, "x", 5⟩ := ⟨nofun, nofun, nofun⟩
    have closes : Token.Reaches 1 [⟨.closing, "]", 7⟩] 0 := .cons Int.one_pos (.nil 0)
    exact .wordsAndList (List.cons_ne_nil _ []) (List.forall_mem_singleton.mpr plain) rfl closes
  have completed : read 0 (inside ++ behind) = .ok ⟨[], [5], true⟩ := scan.read_eq nofun
  have located : locate? "t" none text = some "[x[],]]" := by decide
  have tokens : Token.ofText none 4 ['[', 'x', '[', ']', ',', ']', ']'] =
      opening :: (inside ++ behind) := by
    rw [Token.ofText_opening, Token.ofText_other _ (by decide), Token.ofText_opening,
      Token.ofText_closing, Token.ofText_comma, Token.ofText_closing, Token.ofText_closing,
      Token.ofText]
    rfl
  have parsed : parse text "t" = .ok result := by
    have shape : tokensFrom text "[x[],]]" = opening :: (inside ++ behind) := tokens
    rw [parse_of_located located, shape, List.drop_succ_cons, List.drop_zero, completed]
    rfl
  obtain ⟨_, closed⟩ := closed_iff_matched.1 opening (inside ++ behind) _ rfl completed
  obtain ⟨front, back, joined, matched, -⟩ := closed rfl
  refine ⟨⟨rfl, completed, parsed⟩, ?_, ?_⟩
  · exact ⟨opening :: front, back, congrArg (opening :: ·) joined, matched⟩
  · exact (closed_iff_matched.2 text "t" result parsed).1.mp rfl

end RouteTable

end DartRoutes
