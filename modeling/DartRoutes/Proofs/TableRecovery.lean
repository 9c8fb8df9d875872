import DartRoutes.Proofs.TableClosing

/-!
# Recovery behind a malformed element

A closed table of rows, lists of such elements and malformed elements. The reader finds the end of
every malformed element, so that each of them is left out with one note and all rows are taken.
-/

namespace DartRoutes.RouteTable

/-- The tokens between the brackets of a list, and the items among them. Words end at a comma or at
the end of the list. -/
inductive Listed : List Token → List Item → Prop where
  | done : Listed [] []
  | comma {comma : Token} {rest : List Token} {items : List Item} :
      comma.kind = .comma → Listed rest items → Listed (comma :: rest) items
  | row {route : Route} {row rest : List Token} {items : List Item} :
      Row.IsRow route row → isPageName route.page = true → Listed rest items →
      Listed (row ++ rest) (.row route :: items)
  | list {opening closing : Token} {inside rest : List Token} {listed items : List Item} :
      startsNested opening inside = true → Listed inside listed → closing.kind = .closing →
      Listed rest items →
      Listed (opening :: inside ++ closing :: rest) (listed ++ items)
  | noRow {opening : Token} {inside rest : List Token} {items : List Item} :
      opening.kind = .opening → startsNested opening inside = false →
      Token.Reaches 1 inside 0 → (∀ route, ¬ Row.IsRow route (opening :: inside)) →
      Listed rest items →
      Listed (opening :: inside ++ rest) (.malformed opening.offset :: items)
  | words {word : Token} {words rest : List Token} {items : List Item} :
      (∀ token ∈ word :: words, token.IsPlain) → (∀ next ∈ rest.head?, next.kind = .comma) →
      Listed rest items →
      Listed (word :: words ++ rest) (.malformed word.offset :: items)

/-- The route of a row. -/
def Item.route? : Item → Option Route
  | .row route => some route
  | .malformed _ => none

/-- Where a malformed element starts. -/
def Item.offset? : Item → Option Nat
  | .row _ => none
  | .malformed offset => some offset

theorem Reading.ofItems_of_named {items : List Item} (closed : Bool)
    (named : ∀ route, .row route ∈ items → isPageName route.page = true) :
    ofItems closed items =
      .ok ⟨items.filterMap Item.route?, items.filterMap Item.offset?, closed⟩ := by
  induction items with
  | nil => rfl
  | cons item items induction =>
      have others := induction fun route member => named route (List.mem_cons_of_mem item member)
      cases item with
      | row route =>
          rw [ofItems, if_pos (named route List.mem_cons_self), others]
          rfl
      | malformed offset =>
          rw [ofItems, others]
          rfl

namespace Listed

variable {inside : List Token} {items : List Item}

theorem isPageName_of_mem (listed : Listed inside items) :
    ∀ route, .row route ∈ items → isPageName route.page = true := by
  induction listed with
  | done => exact fun _ member => absurd member List.not_mem_nil
  | comma _ _ induction => exact induction
  | row _ named _ induction =>
      intro route member
      rcases List.mem_cons.mp member with same | further
      · cases same
        exact named
      · exact induction route further
  | list _ _ _ _ inner outer =>
      intro route member
      exact (List.mem_append.mp member).elim (inner route) (outer route)
  | noRow _ _ _ _ _ induction =>
      intro route member
      exact induction route (List.mem_of_ne_of_mem (by simp) member)
  | words _ _ _ induction =>
      intro route member
      exact induction route (List.mem_of_ne_of_mem (by simp) member)

/-- The scan of a list goes on behind its closing bracket. -/
theorem scan (listed : Listed inside items) {depth : Nat} {closing : Token} {rest : List Token}
    {further : List Item} {closed : Bool} (isClosing : closing.kind = .closing)
    (behind : Scan depth (closing :: rest) further closed) :
    Scan depth (inside ++ closing :: rest) (items ++ further) closed := by
  induction listed generalizing depth closing rest further with
  | done => exact behind
  | comma isComma _ induction => exact .comma isComma (induction isClosing behind)
  | row isRow _ _ induction =>
      rw [List.append_assoc]
      exact .row isRow (induction isClosing behind)
  | @list opening innerClosing inner others listed items nested _ innerIsClosing _ innerInduction
      induction =>
      have outside := induction isClosing behind
      have scanned := innerInduction innerIsClosing (.leave innerIsClosing outside)
      have nonempty : inner ≠ [] := by
        rintro rfl
        simp [startsNested] at nested
      rw [← Element.startsNested_append nonempty] at nested
      simpa using Scan.enter nested scanned
  | noRow isOpening single closes noRow _ induction =>
      rw [List.append_assoc]
      exact .malformed (.list isOpening single closes noRow) (induction isClosing behind)
  | @words word words others items plain next _ induction =>
      have scanned := induction isClosing behind
      rw [List.append_assoc]
      refine .malformed ?_ scanned
      cases others with
      | nil => exact .words (List.cons_ne_nil _ _) plain (.inr isClosing)
      | cons comma others =>
          exact .words (List.cons_ne_nil _ _) plain (.inl (next comma rfl))

theorem read_eq (listed : Listed inside items) {closing : Token} (isClosing : closing.kind = .closing)
    (behind : List Token) :
    read 0 (inside ++ closing :: behind) =
      .ok ⟨items.filterMap Item.route?, items.filterMap Item.offset?, true⟩ := by
  have scanned := listed.scan isClosing (.close isClosing)
  have found := @Scan.read_eq _ _ _ _ scanned behind nofun
  rw [List.append_nil, List.append_assoc] at found
  exact found.trans (Reading.ofItems_of_named true listed.isPageName_of_mem)

theorem parse_eq (listed : Listed inside items) {closing : Token} {behind : List Token}
    (isClosing : closing.kind = .closing) {text name list : Text}
    (located : locate? name none text = some list)
    (tokens : (tokensFrom text list).drop 1 = inside ++ closing :: behind) :
    parse text name = .ok ⟨items.filterMap Item.route?, true,
      (items.filterMap Item.offset?).map fun offset => .malformedRow (text.lineAt offset)⟩ := by
  rw [parse_of_located located, tokens, listed.read_eq isClosing]
  rfl

end Listed

/-- From a closed table the reader takes exactly the rows, in their order, and leaves out every
malformed element with one note, which names the line where the element starts. -/
theorem parse_listed {inside : List Token} {items : List Item} (listed : Listed inside items)
    {closing : Token} (isClosing : closing.kind = .closing) (behind : List Token) :
    read 0 (inside ++ closing :: behind) =
        .ok ⟨items.filterMap Item.route?, items.filterMap Item.offset?, true⟩ ∧
      ∀ text name list, locate? name none text = some list →
        (tokensFrom text list).drop 1 = inside ++ closing :: behind →
        parse text name = .ok ⟨items.filterMap Item.route?, true,
          (items.filterMap Item.offset?).map fun offset =>
            .malformedRow (text.lineAt offset)⟩ :=
  ⟨listed.read_eq isClosing behind, fun _ _ _ located tokens =>
    listed.parse_eq isClosing located tokens⟩

/-- Two malformed elements between a row and a list with a row. -/
def mixedTable : Text :=
  "t = [['a''/''APage'true]x,\n['b'][['c''/''CPage'false]]]"

/-- The tokens between the brackets of the table. -/
def mixedTokens : List Token :=
  [⟨.opening, "[", 5⟩, ⟨.string, "'a'", 6⟩, ⟨.string, "'/'", 9⟩, ⟨.string, "'APage'", 12⟩,
    ⟨.flag, "true", 19⟩, ⟨.closing, "]", 23⟩, ⟨.other, "x", 24⟩, ⟨.comma, ",", 25⟩,
    ⟨.opening, "[", 27⟩, ⟨.string, "'b'", 28⟩, ⟨.closing, "]", 31⟩, ⟨.opening, "[", 32⟩,
    ⟨.opening, "[", 33⟩, ⟨.string, "'c'", 34⟩, ⟨.string, "'/'", 37⟩, ⟨.string, "'CPage'", 40⟩,
    ⟨.flag, "false", 47⟩, ⟨.closing, "]", 52⟩, ⟨.closing, "]", 53⟩]

theorem tokensFrom_mixedTable :
    (tokensFrom mixedTable (mixedTable.drop 4)).drop 1 =
      mixedTokens ++ [⟨.closing, "]", 54⟩] := by
  show (Token.ofText none 4 ('[' :: '[' :: ('\'' :: "a" ++ '\'' :: ('\'' :: "/" ++ '\'' ::
    ('\'' :: "APage" ++ '\'' :: (Token.flagWord true ++ ']' :: 'x' :: ',' :: '\n' :: '[' ::
      ('\'' :: "b" ++ '\'' :: ']' :: '[' :: '[' :: ('\'' :: "c" ++ '\'' ::
        ('\'' :: "/" ++ '\'' :: ('\'' :: "CPage" ++ '\'' ::
          (Token.flagWord false ++ [']', ']', ']']))))))))))).drop 1 = _
  rw [Token.ofText_opening, Token.ofText_opening, Token.ofText_string _ _ _ (.inl rfl) rfl,
    Token.ofText_string _ _ _ (.inl rfl) rfl, Token.ofText_string _ _ _ (.inl rfl) rfl,
    Token.ofText_flagWord true _ (by decide) rfl, Token.ofText_closing,
    Token.ofText_other _ (by decide), Token.ofText_comma, Token.ofText_blank _ _ (by decide),
    Token.ofText_opening, Token.ofText_string _ _ _ (.inl rfl) rfl, Token.ofText_closing,
    Token.ofText_opening, Token.ofText_opening, Token.ofText_string _ _ _ (.inl rfl) rfl,
    Token.ofText_string _ _ _ (.inl rfl) rfl, Token.ofText_string _ _ _ (.inl rfl) rfl,
    Token.ofText_flagWord false _ (by decide) rfl, Token.ofText_closing, Token.ofText_closing,
    Token.ofText_closing, Token.ofText]
  rfl

theorem mixedTokens_listed :
    Listed mixedTokens [.row ⟨"a", "/", "APage", true⟩, .malformed 24, .malformed 27,
      .row ⟨"c", "/", "CPage", false⟩] := by
  have plain : ∀ token ∈ [(⟨.other, "x", 24⟩ : Token)], token.IsPlain :=
    List.forall_mem_singleton.mpr ⟨by decide, by decide, by decide⟩
  have closes : Token.Reaches 1 [⟨.string, "'b'", 28⟩, ⟨.closing, "]", 31⟩] 0 :=
    .cons_other (by decide) (by decide) Int.one_pos (.cons Int.one_pos (.nil 0))
  have noRow : ∀ route, ¬ Row.IsRow route
      [⟨.opening, "[", 27⟩, ⟨.string, "'b'", 28⟩, ⟨.closing, "]", 31⟩] := by
    intro route isRow
    have read := Row.read?_eq_some_iff.mpr ⟨_, List.append_nil _, isRow⟩
    cases read
  have inner : Listed [⟨.opening, "[", 33⟩, ⟨.string, "'c'", 34⟩, ⟨.string, "'/'", 37⟩,
      ⟨.string, "'CPage'", 40⟩, ⟨.flag, "false", 47⟩, ⟨.closing, "]", 52⟩]
      [.row ⟨"c", "/", "CPage", false⟩] :=
    @Listed.row _ [_, _, _, _, _, _] [] _ (Row.isRow_of_read? rfl) (by decide) .done
  refine @Listed.row _ [_, _, _, _, _, _] _ _ (Row.isRow_of_read? rfl) (by decide) ?_
  refine @Listed.words ⟨.other, "x", 24⟩ [] _ _ plain (by decide) (.comma rfl ?_)
  refine @Listed.noRow _ [_, _] _ _ rfl rfl closes noRow ?_
  exact @Listed.list _ _ _ [] _ [] rfl inner rfl .done

/-- The elements of the mixed table are told apart. -/
theorem parse_listed_mixed :
    Listed mixedTokens [.row ⟨"a", "/", "APage", true⟩, .malformed 24, .malformed 27,
        .row ⟨"c", "/", "CPage", false⟩] ∧
      parse mixedTable "t" = .ok ⟨[⟨"a", "/", "APage", true⟩, ⟨"c", "/", "CPage", false⟩], true,
        [.malformedRow 1, .malformedRow 2]⟩ := by
  have located : locate? "t" none mixedTable = some (mixedTable.drop 4) := by decide
  exact ⟨mixedTokens_listed,
    (parse_listed mixedTokens_listed rfl []).2 mixedTable "t" _ located tokensFrom_mixedTable⟩

end DartRoutes.RouteTable
