import DartRoutes.Proofs.TableRecovery
import DartRoutes.Proofs.TableRoundTrip

/-!
# Writing strings back

The literal of a text always stands for the text, and it is one string token exactly if the text has
no line feed. A string of a table can have one: where its lexeme escapes a line feed, the backslash
stays in front of it. Exactly these strings have literals that cannot be read.
-/

namespace DartRoutes

theorem Token.unescape_flatMap (content : Text) :
    Token.unescape (content.flatMap literalCharacter) = content := by
  induction content with
  | nil => rfl
  | cons character content induction =>
      rw [List.flatMap_cons, literalCharacter]
      split
      · rename_i needs
        have notFeed : character ≠ '\n' := by
          rintro rfl
          exact absurd needs (by decide)
        simp [Token.unescape, induction]
      · rename_i plain
        have notBackslash : character ≠ '\\' := by
          rintro rfl
          exact plain rfl
        simp [Token.unescape, notBackslash, induction]

theorem Token.unquote_dartLiteral (content : Text) :
    Token.unquote (dartLiteral content) = content := by
  rw [Token.unquote, dartLiteral, List.cons_append, List.drop_succ_cons, List.drop_zero,
    List.dropLast_concat, Token.unescape_flatMap]

theorem Lexeme.stringLength?_of_mem {content : Text} (feed : '\n' ∈ content) (rest : Text) :
    Lexeme.stringLength? '\'' (content.flatMap literalCharacter ++ rest) = none := by
  induction content with
  | nil => cases feed
  | cons character content induction =>
      rw [List.flatMap_cons, literalCharacter]
      split
      · rename_i needs
        have notFeed : '\n' ≠ character := by
          rintro rfl
          exact absurd needs (by decide)
        have further := induction (List.mem_of_ne_of_mem notFeed feed)
        simp [Lexeme.stringLength?, further]
      · rename_i plain
        simp only [needsEscape, Bool.or_eq_true, beq_iff_eq, not_or] at plain
        by_cases isFeed : character = '\n'
        · simp [Lexeme.stringLength?, isFeed]
        · have further := induction (List.mem_of_ne_of_mem (Ne.symm isFeed) feed)
          simp [Lexeme.stringLength?, plain, isFeed, further]

/-- Of a literal that a line feed cuts off only the quote is read. -/
theorem Token.head?_ofText_dartLiteral_of_mem {content : Text} (before : Option Char)
    (offset : Nat) (feed : '\n' ∈ content) (rest : Text) :
    (Token.ofText before offset (dartLiteral content ++ rest)).head? =
      some ⟨.other, ['\''], offset⟩ := by
  have scanned : Lexeme.scan before '\'' (content.flatMap literalCharacter ++ ('\'' :: rest)) =
      (.other, 0) := by
    simp [Lexeme.scan, Lexeme.stringLength?_of_mem feed, isBlank, blankRanges, CodeRanges.hold]
  have shape : dartLiteral content ++ rest =
      '\'' :: (content.flatMap literalCharacter ++ ('\'' :: rest)) := by
    simp [dartLiteral]
  rw [shape, Token.ofText_other offset scanned]
  rfl

/-- The literal of a text is a token exactly if the text fits on one line. -/
theorem Token.head?_ofText_dartLiteral (before : Option Char) (offset : Nat)
    (content rest : Text) :
    (Token.ofText before offset (dartLiteral content ++ rest)).head? =
        some ⟨.string, dartLiteral content, offset⟩ ↔ '\n' ∉ content := by
  constructor
  · intro read feed
    rw [Token.head?_ofText_dartLiteral_of_mem before offset feed rest] at read
    cases read
  · intro oneLine
    rw [(Layout.Literal.ofDartLiteral content).ofText oneLine]
    rfl

theorem Token.ofText_dartLiteral_eq_iff (before : Option Char) (offset : Nat) (content : Text) :
    Token.ofText before offset (dartLiteral content) =
      [⟨.string, dartLiteral content, offset⟩] ↔ '\n' ∉ content := by
  have head := Token.head?_ofText_dartLiteral before offset content []
  rw [List.append_nil] at head
  constructor
  · intro read
    exact head.mp (congrArg List.head? read)
  · intro oneLine
    have read := (Layout.Literal.ofDartLiteral content).ofText oneLine before offset []
    rwa [List.append_nil, Token.ofText] at read

/-- Every line feed of the text stands right behind a backslash. -/
inductive FeedsEscaped : Text → Prop where
  | nil : FeedsEscaped []
  | plain {character : Char} {rest : Text} :
      character ≠ '\n' → FeedsEscaped rest → FeedsEscaped (character :: rest)
  | feed {rest : Text} : FeedsEscaped rest → FeedsEscaped ('\\' :: '\n' :: rest)

namespace FeedsEscaped

theorem append {left right : Text} (leftEscaped : FeedsEscaped left)
    (rightEscaped : FeedsEscaped right) : FeedsEscaped (left ++ right) := by
  induction leftEscaped with
  | nil => exact rightEscaped
  | plain notFeed _ induction => exact .plain notFeed induction
  | feed _ induction => exact .feed induction

theorem mem_iff {text : Text} (escaped : FeedsEscaped text) :
    '\n' ∈ text ↔ ['\\', '\n'] <:+: text := by
  constructor
  · intro member
    induction escaped with
    | nil => cases member
    | plain notFeed _ induction =>
        exact List.infix_cons (induction (List.mem_of_ne_of_mem (Ne.symm notFeed) member))
    | @feed rest _ _ => exact ⟨[], rest, rfl⟩
  · intro inside
    exact inside.subset (List.mem_cons_of_mem _ List.mem_cons_self)

theorem exists_written {quote : Char} {rest : Text} {length : Nat}
    (closed : Lexeme.stringLength? quote rest = some length) :
    ∃ written, rest.take length = written ++ [quote] ∧ FeedsEscaped (Token.unescape written) := by
  fun_induction Lexeme.stringLength? quote rest generalizing length with
  | case1 => cases closed
  | case2 character rest induction =>
      obtain ⟨further, found, rfl⟩ := Option.map_eq_some_iff.mp closed
      obtain ⟨written, taken, escaped⟩ := induction found
      refine ⟨'\\' :: character :: written, by simp [taken], ?_⟩
      by_cases isFeed : character = '\n'
      · rw [isFeed]
        exact .feed escaped
      · simpa [Token.unescape, isFeed] using FeedsEscaped.plain isFeed escaped
  | case3 =>
      cases closed
      exact ⟨[], rfl, .nil⟩
  | case4 => cases closed
  | case5 character rest _ _ other induction =>
      obtain ⟨further, found, rfl⟩ := Option.map_eq_some_iff.mp closed
      obtain ⟨written, taken, escaped⟩ := induction found
      rw [not_or] at other
      refine ⟨character :: written, by simp [taken], ?_⟩
      simpa [Token.unescape, other.1] using FeedsEscaped.plain other.2 escaped

end FeedsEscaped

namespace Lexeme

theorem stringLength?_of_scan {before : Option Char} {first : Char} {rest : Text}
    {further : Nat} (scanned : scan before first rest = (.string, further)) :
    stringLength? first rest = some further := by
  unfold scan at scanned
  split at scanned
  · cases scanned
  · split at scanned
    · cases scanned
    · split at scanned <;> cases scanned
    · cases scanned
    · cases scanned
    · cases scanned
    · split at scanned
      · rename_i found
        cases scanned
        exact found
      · cases scanned
    · split at scanned
      · rename_i found
        cases scanned
        exact found
      · cases scanned
    · split at scanned <;> cases scanned

end Lexeme

/-- What a string token stands for has no line feed without a backslash. -/
theorem Token.feedsEscaped_unquote {before : Option Char} {offset : Nat} {text : Text}
    {token : Token} (member : token ∈ Token.ofText before offset text)
    (isString : token.kind = .string) : FeedsEscaped (Token.unquote token.lexeme) := by
  fun_induction Token.ofText before offset text with
  | case1 => cases member
  | case2 before offset first rest kind further scanned lexeme tokens separates induction =>
      exact induction member
  | case3 before offset first rest kind further scanned lexeme tokens visible induction =>
      rcases List.mem_cons.mp member with rfl | behind
      · obtain rfl : kind = .string := isString
        obtain ⟨written, taken, escaped⟩ :=
          FeedsEscaped.exists_written (Lexeme.stringLength?_of_scan scanned)
        have content : unquote lexeme = unescape written := by
          rw [unquote, List.drop_succ_cons, List.drop_zero, taken, List.dropLast_concat]
        rw [content]
        exact escaped
      · exact induction behind

namespace RouteTable

theorem Scan.exists_row {depth : Nat} {tokens : List Token} {items : List Item} {closed : Bool}
    (scan : Scan depth tokens items closed) {route : Route} (member : .row route ∈ items) :
    ∃ row, Row.IsRow route row ∧ row ⊆ tokens := by
  induction scan with
  | ends => cases member
  | unfinished => cases member
  | close => cases member
  | leave _ _ induction =>
      obtain ⟨row, isRow, inside⟩ := induction member
      exact ⟨row, isRow, List.subset_cons_of_subset _ inside⟩
  | comma _ _ induction =>
      obtain ⟨row, isRow, inside⟩ := induction member
      exact ⟨row, isRow, List.subset_cons_of_subset _ inside⟩
  | enter _ _ induction =>
      obtain ⟨row, isRow, inside⟩ := induction member
      exact ⟨row, isRow, List.subset_cons_of_subset _ inside⟩
  | @row _ _ tokens rest _ _ isRow _ induction =>
      rcases List.mem_cons.mp member with same | further
      · cases same
        exact ⟨tokens, isRow, List.subset_append_left _ _⟩
      · obtain ⟨row, isRow, inside⟩ := induction further
        exact ⟨row, isRow, List.subset_append_of_subset_right _ inside⟩
  | malformed _ _ induction =>
      obtain ⟨row, isRow, inside⟩ := induction (List.mem_of_ne_of_mem (by simp) member)
      exact ⟨row, isRow, List.subset_append_of_subset_right _ inside⟩

theorem Reading.row_mem_of_ofItems {closed : Bool} {items : List Item} {reading : Reading}
    (read : ofItems closed items = .ok reading) {route : Route} (member : route ∈ reading.routes) :
    .row route ∈ items := by
  induction items generalizing reading with
  | nil =>
      cases read
      cases member
  | cons item items induction =>
      cases item with
      | row other =>
          rw [ofItems] at read
          split at read
          · obtain ⟨rest, others, rfl⟩ := exists_of_map_eq_ok read
            rcases List.mem_cons.mp member with rfl | further
            · exact List.mem_cons_self
            · exact List.mem_cons_of_mem _ (induction others further)
          · cases read
      | malformed offset =>
          rw [ofItems] at read
          obtain ⟨rest, others, rfl⟩ := exists_of_map_eq_ok read
          exact List.mem_cons_of_mem _ (induction others member)

/-- A route of a table is a row among the tokens of the located list. -/
theorem exists_row_of_mem_routes {text name : Text} {result : RouteTable}
    (parsed : parse text name = .ok result) {route : Route} (member : route ∈ result.routes) :
    ∃ list row, Row.IsRow route row ∧ row ⊆ tokensFrom text list := by
  rcases parse_eq_ok parsed with ⟨-, rfl⟩ | ⟨list, reading, -, completed, rfl⟩
  · cases member
  · obtain ⟨inside, behind, items, closed, joined, scan, ends⟩ :=
      Scan.exists_scan 0 ((tokensFrom text list).drop 1)
    rw [← joined, scan.read_eq ends] at completed
    rw [Reading.routes_table] at member
    split at member
    · obtain ⟨row, isRow, within⟩ := scan.exists_row (Reading.row_mem_of_ofItems completed member)
      refine ⟨list, row, isRow, fun token inRow => ?_⟩
      apply List.mem_of_mem_drop (i := 1)
      rw [← joined]
      exact List.mem_append_left behind (within inRow)
    · cases member

theorem feedsEscaped_of_isRow {before : Option Char} {offset : Nat} {text : Text} {route : Route}
    {row : List Token} (isRow : Row.IsRow route row)
    (inside : row ⊆ Token.ofText before offset text) :
    FeedsEscaped route.group ∧ FeedsEscaped route.path ∧ FeedsEscaped route.page := by
  cases isRow with
  | row _ groupKind _ pathKind _ pageKind =>
      exact ⟨Token.feedsEscaped_unquote (inside (by simp)) groupKind,
        Token.feedsEscaped_unquote (inside (by simp)) pathKind,
        Token.feedsEscaped_unquote (inside (by simp)) pageKind⟩

end RouteTable

/-- The strings of a row, and the locations that they make up. -/
def Route.strings (route : Route) : List Text :=
  [route.group, route.path, route.page, route.fullPath, route.childPath]

theorem FeedsEscaped.childPath {route : Route} (escaped : FeedsEscaped route.path) :
    FeedsEscaped route.childPath := by
  rw [Route.childPath]
  split
  · rename_i shape
    rw [shape] at escaped
    cases escaped with
    | plain _ rest => exact rest
  · exact escaped

theorem FeedsEscaped.fullPath {route : Route} (group : FeedsEscaped route.group)
    (path : FeedsEscaped route.path) : FeedsEscaped route.fullPath := by
  have slash : FeedsEscaped "/" := .plain (by decide) .nil
  rw [Route.fullPath]
  split
  · exact slash.append group
  · exact ((slash.append group).append slash).append path.childPath

namespace RouteTable

/-- The strings of a table that is read, and the locations that they make up, are what their literals
stand for. Such a literal is one string token exactly if no line feed is escaped in the string. -/
theorem written_back_iff {text name : Text} {result : RouteTable}
    (parsed : parse text name = .ok result) :
    ∀ route ∈ result.routes, ∀ content ∈ route.strings,
      Token.unquote (dartLiteral content) = content ∧
        (Token.ofText none 0 (dartLiteral content) = [⟨.string, dartLiteral content, 0⟩] ↔
          ¬ ['\\', '\n'] <:+: content) := by
  intro route member content isString
  refine ⟨Token.unquote_dartLiteral content, ?_⟩
  obtain ⟨list, row, isRow, inside⟩ := exists_row_of_mem_routes parsed member
  obtain ⟨group, path, page⟩ := feedsEscaped_of_isRow isRow inside
  have escaped : FeedsEscaped content := by
    simp only [Route.strings, List.mem_cons, List.not_mem_nil, or_false] at isString
    rcases isString with rfl | rfl | rfl | rfl | rfl
    · exact group
    · exact path
    · exact page
    · exact group.fullPath path
    · exact path.childPath
  rw [Token.ofText_dartLiteral_eq_iff, escaped.mem_iff]

/-- A table whose path escapes a line feed. -/
def feedTable : Text :=
  "t = [['a''/\\\n''Page'true]]"

def feedRoute : Route :=
  ⟨"a", "/\\\n", "Page", true⟩

theorem parse_feedTable : parse feedTable "t" = .ok ⟨[feedRoute], true, []⟩ := by
  have located : locate? "t" none feedTable = some (feedTable.drop 4) := by decide
  have tokens : (tokensFrom feedTable (feedTable.drop 4)).drop 1 =
      [⟨.opening, "[", 5⟩, ⟨.string, "'a'", 6⟩, ⟨.string, "'/\\\n'", 9⟩, ⟨.string, "'Page'", 14⟩,
        ⟨.flag, "true", 20⟩, ⟨.closing, "]", 24⟩, ⟨.closing, "]", 25⟩] := by
    show (Token.ofText none 4 ('[' :: '[' :: ('\'' :: "a" ++ '\'' :: ('\'' :: "/\\\n" ++ '\'' ::
      ('\'' :: "Page" ++ '\'' :: (Token.flagWord true ++ [']', ']'])))))).drop 1 = _
    rw [Token.ofText_opening, Token.ofText_opening, Token.ofText_string _ _ _ (.inl rfl) rfl,
      Token.ofText_string _ _ _ (.inl rfl) rfl, Token.ofText_string _ _ _ (.inl rfl) rfl,
      Token.ofText_flagWord true _ (by decide) rfl, Token.ofText_closing, Token.ofText_closing,
      Token.ofText]
    rfl
  have listed : Listed [⟨.opening, "[", 5⟩, ⟨.string, "'a'", 6⟩, ⟨.string, "'/\\\n'", 9⟩,
      ⟨.string, "'Page'", 14⟩, ⟨.flag, "true", 20⟩, ⟨.closing, "]", 24⟩] [.row feedRoute] :=
    @Listed.row _ [_, _, _, _, _, _] [] _ (Row.isRow_of_read? rfl) (by decide) .done
  exact listed.parse_eq rfl located tokens

/-- Of the strings of a row the group is written back, and the path with the line feed is not. -/
theorem written_back_iff_feed :
    parse feedTable "t" = .ok ⟨[feedRoute], true, []⟩ ∧
      Token.ofText none 0 (dartLiteral feedRoute.group) =
        [⟨.string, dartLiteral feedRoute.group, 0⟩] ∧
      Token.ofText none 0 (dartLiteral feedRoute.path) ≠
        [⟨.string, dartLiteral feedRoute.path, 0⟩] := by
  have writes := written_back_iff parse_feedTable feedRoute List.mem_cons_self
  refine ⟨parse_feedTable, (writes feedRoute.group (by decide)).2.mpr (by decide), fun read => ?_⟩
  exact (writes feedRoute.path (by decide)).2.mp read (by decide)

/-- A string of a table that is read has a literal that is no string token. -/
theorem not_forall_written_back :
    ¬ ∀ (text name : Text) (result : RouteTable), parse text name = .ok result →
      ∀ route ∈ result.routes, ∀ content ∈ [route.group, route.path, route.page],
        Token.ofText none 0 (dartLiteral content) = [⟨.string, dartLiteral content, 0⟩] := by
  intro claim
  have read := claim _ _ _ parse_feedTable feedRoute List.mem_cons_self feedRoute.path (by decide)
  exact (Token.ofText_dartLiteral_eq_iff none 0 _).mp read (by decide)

end RouteTable

end DartRoutes
