import DartRoutes.Proofs.TableClosing

/-!
# Page names in a table

Reading a table fails exactly if a row of it has a page that breaks the naming rule, and then with
the page of the first such row. Malformed elements do not count, wherever they stand, and neither
does whether the table is closed.
-/

namespace DartRoutes

theorem isPageName_iff {page : Text} : isPageName page = true ↔ pageSuffix <:+ page :=
  List.isSuffixOf_iff_suffix

namespace RouteTable

/-- The page belongs to the first row whose page breaks the naming rule. -/
inductive FirstMisnamed (page : Text) : List Item → Prop where
  | here {route : Route} {items : List Item} :
      route.page = page → ¬ pageSuffix <:+ page → FirstMisnamed page (.row route :: items)
  | behindRow {route : Route} {items : List Item} :
      pageSuffix <:+ route.page → FirstMisnamed page items →
      FirstMisnamed page (.row route :: items)
  | behindMalformed {offset : Nat} {items : List Item} :
      FirstMisnamed page items → FirstMisnamed page (.malformed offset :: items)

theorem map_eq_error_iff {ε α β : Type} {change : α → β} {attempt : Except ε α} {fault : ε} :
    change <$> attempt = .error fault ↔ attempt = .error fault := by
  cases attempt with
  | error other =>
      constructor
      · intro mapped
        cases mapped
        rfl
      · intro failed
        cases failed
        rfl
  | ok value => exact ⟨nofun, nofun⟩

theorem Reading.ofItems_eq_error_iff {closed : Bool} {items : List Item} {page : Text} :
    Reading.ofItems closed items = .error ⟨page⟩ ↔ FirstMisnamed page items := by
  induction items with
  | nil => exact ⟨nofun, nofun⟩
  | cons item items induction =>
      cases item with
      | row route =>
          rw [ofItems]
          by_cases named : isPageName route.page = true
          · have suffix := isPageName_iff.mp named
            rw [if_pos named, map_eq_error_iff, induction]
            constructor
            · exact .behindRow suffix
            · intro first
              cases first with
              | here same misnamed => exact absurd (same ▸ suffix) misnamed
              | behindRow _ others => exact others
          · have misnamed : ¬ pageSuffix <:+ route.page :=
              fun suffix => named (isPageName_iff.mpr suffix)
            rw [if_neg named]
            constructor
            · intro failed
              cases failed
              exact .here rfl misnamed
            · intro first
              cases first with
              | here same _ => rw [same]
              | behindRow suffix _ => exact absurd suffix misnamed
      | malformed offset =>
          rw [ofItems, map_eq_error_iff, induction]
          constructor
          · exact .behindMalformed
          · intro first
            cases first with
            | behindMalformed others => exact others

theorem exists_firstMisnamed_iff {items : List Item} :
    (∃ page, FirstMisnamed page items) ↔
      ∃ route, .row route ∈ items ∧ ¬ pageSuffix <:+ route.page := by
  constructor
  · rintro ⟨page, first⟩
    induction first with
    | @here route items same misnamed => exact ⟨route, List.mem_cons_self, same ▸ misnamed⟩
    | behindRow _ _ induction =>
        obtain ⟨route, member, misnamed⟩ := induction
        exact ⟨route, List.mem_cons_of_mem _ member, misnamed⟩
    | behindMalformed _ induction =>
        obtain ⟨route, member, misnamed⟩ := induction
        exact ⟨route, List.mem_cons_of_mem _ member, misnamed⟩
  · rintro ⟨route, member, misnamed⟩
    induction items with
    | nil => cases member
    | cons item items induction =>
        cases item with
        | row other =>
            by_cases suffix : pageSuffix <:+ other.page
            · have further : .row route ∈ items := by
                rcases List.mem_cons.mp member with same | further
                · cases same
                  exact absurd suffix misnamed
                · exact further
              obtain ⟨page, first⟩ := induction further
              exact ⟨page, .behindRow suffix first⟩
            · exact ⟨other.page, .here rfl suffix⟩
        | malformed offset =>
            have further : .row route ∈ items := by
              rcases List.mem_cons.mp member with same | further
              · cases same
              · exact further
            obtain ⟨page, first⟩ := induction further
            exact ⟨page, .behindMalformed first⟩

theorem Reading.suffix_of_ofItems {closed : Bool} {items : List Item} {reading : Reading}
    (read : Reading.ofItems closed items = .ok reading) :
    ∀ route ∈ reading.routes, pageSuffix <:+ route.page := by
  induction items generalizing reading with
  | nil =>
      cases read
      exact List.forall_mem_nil _
  | cons item items induction =>
      cases item with
      | row route =>
          rw [ofItems] at read
          split at read
          · rename_i named
            obtain ⟨rest, others, rfl⟩ := exists_of_map_eq_ok read
            exact List.forall_mem_cons.mpr ⟨isPageName_iff.mp named, induction others⟩
          · cases read
      | malformed offset =>
          rw [ofItems] at read
          obtain ⟨rest, others, rfl⟩ := exists_of_map_eq_ok read
          have named := induction others
          exact named

/-- The table of the given name in a text has these items, up to its closing bracket or the end. -/
def HasItems (text table : Text) (items : List Item) : Prop :=
  ∃ list inside behind closed, locate? table none text = some list ∧
    inside ++ behind = (tokensFrom text list).drop 1 ∧ Scan 0 inside items closed ∧
    (closed = false → behind = [])

theorem exists_hasItems {text table list : Text} (located : locate? table none text = some list) :
    ∃ items, HasItems text table items := by
  obtain ⟨inside, behind, items, closed, joined, scan, ends⟩ :=
    Scan.exists_scan 0 ((tokensFrom text list).drop 1)
  exact ⟨items, list, inside, behind, closed, located, joined, scan, ends⟩

theorem HasItems.exists_parse_eq {text table : Text} {items : List Item}
    (hasItems : HasItems text table items) :
    ∃ closed, parse text table = Reading.table text table <$> Reading.ofItems closed items := by
  obtain ⟨list, inside, behind, closed, located, joined, scan, ends⟩ := hasItems
  refine ⟨closed, ?_⟩
  rw [parse_of_located located, ← joined, scan.read_eq ends]

theorem HasItems.parse_eq_error_iff {text table : Text} {items : List Item} {page : Text}
    (hasItems : HasItems text table items) :
    parse text table = .error ⟨page⟩ ↔ FirstMisnamed page items := by
  obtain ⟨closed, parsed⟩ := hasItems.exists_parse_eq
  rw [parsed, map_eq_error_iff, Reading.ofItems_eq_error_iff]

theorem exists_hasItems_of_error {text table : Text} {fault : NamingFault}
    (failed : parse text table = .error fault) : ∃ items, HasItems text table items := by
  cases located : locate? table none text with
  | none =>
      rw [parse_of_missing located] at failed
      cases failed
  | some list => exact exists_hasItems located

theorem suffix_of_mem_routes {text table : Text} {result : RouteTable}
    (parsed : parse text table = .ok result) :
    ∀ route ∈ result.routes, pageSuffix <:+ route.page := by
  cases located : locate? table none text with
  | none =>
      rw [parse_of_missing located] at parsed
      cases parsed
      exact List.forall_mem_nil _
  | some list =>
      obtain ⟨items, hasItems⟩ := exists_hasItems located
      obtain ⟨closed, shape⟩ := hasItems.exists_parse_eq
      rw [shape] at parsed
      obtain ⟨reading, read, rfl⟩ := exists_of_map_eq_ok parsed
      rw [Reading.routes_table]
      split
      · exact Reading.suffix_of_ofItems read
      · exact List.forall_mem_nil _

/-- Reading the table of a text fails exactly if some row of it has a page that breaks the naming
rule, and with the page of the first such row. Every route of a table that is read keeps it. -/
theorem misnamed_iff {text table : Text} :
    ((∃ fault, parse text table = .error fault) ↔
      ∃ items, HasItems text table items ∧
        ∃ route, .row route ∈ items ∧ ¬ pageSuffix <:+ route.page) ∧
      (∀ page, parse text table = .error ⟨page⟩ ↔
        ∃ items, HasItems text table items ∧ FirstMisnamed page items) ∧
      ∀ result, parse text table = .ok result →
        ∀ route ∈ result.routes, pageSuffix <:+ route.page := by
  have byPage (page : Text) : parse text table = .error ⟨page⟩ ↔
      ∃ items, HasItems text table items ∧ FirstMisnamed page items := by
    constructor
    · intro failed
      obtain ⟨items, hasItems⟩ := exists_hasItems_of_error failed
      exact ⟨items, hasItems, hasItems.parse_eq_error_iff.mp failed⟩
    · rintro ⟨items, hasItems, first⟩
      exact hasItems.parse_eq_error_iff.mpr first
  refine ⟨?_, byPage, fun result => suffix_of_mem_routes⟩
  constructor
  · rintro ⟨⟨page⟩, failed⟩
    obtain ⟨items, hasItems, first⟩ := (byPage page).mp failed
    exact ⟨items, hasItems, exists_firstMisnamed_iff.mp ⟨page, first⟩⟩
  · rintro ⟨items, hasItems, misnamed⟩
    obtain ⟨page, first⟩ := exists_firstMisnamed_iff.mpr misnamed
    exact ⟨⟨page⟩, (byPage page).mpr ⟨items, hasItems, first⟩⟩

/-- An unfinished table with a word in front of a row, and a finished one with a row alone. -/
theorem misnamed_iff_unfinished :
    let text : Text := "t = [x,['a''/''Bad'true]"
    let finished : Text := "t = [['a''/''Page'true]]"
    (FirstMisnamed "Bad" [.malformed 5, .row ⟨"a", "/", "Bad", true⟩] ∧
      parse text "t" = .error ⟨"Bad"⟩) ∧
    parse finished "t" = .ok ⟨[⟨"a", "/", "Page", true⟩], true, []⟩ ∧
      pageSuffix <:+ ("Page" : Text) := by
  intro text finished
  have isRow {route : Route} {row : List Token} (read : Row.read? row = some (route, [])) :
      Row.IsRow route row := by
    obtain ⟨_, joined, isRow⟩ := Row.read?_eq_some_iff.mp read
    rwa [← joined, List.append_nil]
  have tokens : tokensFrom text "[x,['a''/''Bad'true]" =
      [⟨.opening, "[", 4⟩, ⟨.other, "x", 5⟩, ⟨.comma, ",", 6⟩, ⟨.opening, "[", 7⟩,
        ⟨.string, "'a'", 8⟩, ⟨.string, "'/'", 11⟩, ⟨.string, "'Bad'", 14⟩, ⟨.flag, "true", 19⟩,
        ⟨.closing, "]", 23⟩] := by
    show Token.ofText none 4 ('[' :: 'x' :: ',' :: '[' :: ('\'' :: "a" ++ '\'' ::
      ('\'' :: "/" ++ '\'' :: ('\'' :: "Bad" ++ '\'' :: (Token.flagWord true ++ [']']))))) = _
    rw [Token.ofText_opening, Token.ofText_other _ (by decide), Token.ofText_comma,
      Token.ofText_opening, Token.ofText_string _ _ _ (.inl rfl) rfl,
      Token.ofText_string _ _ _ (.inl rfl) rfl, Token.ofText_string _ _ _ (.inl rfl) rfl,
      Token.ofText_flagWord true _ (by decide) rfl, Token.ofText_closing, Token.ofText]
    rfl
  have plain : Token.IsPlain ⟨.other, "x", 5⟩ := ⟨by decide, by decide, by decide⟩
  have scan : Scan 0 ((tokensFrom text "[x,['a''/''Bad'true]").drop 1)
      [.malformed 5, .row ⟨"a", "/", "Bad", true⟩] false := by
    rw [tokens]
    refine @Scan.malformed 0 ⟨.other, "x", 5⟩ [] _ _ _ ?_ (.comma rfl ?_)
    · exact .words (List.cons_ne_nil _ []) (List.forall_mem_singleton.mpr plain) (.inl rfl)
    · exact @Scan.row 0 _ [_, _, _, _, _, _] [] _ _ (isRow rfl) .ends
  have items : HasItems text "t" [.malformed 5, .row ⟨"a", "/", "Bad", true⟩] :=
    ⟨_, _, [], false, by decide, List.append_nil _, scan, fun _ => rfl⟩
  have first : FirstMisnamed "Bad" [.malformed 5, .row ⟨"a", "/", "Bad", true⟩] :=
    .behindMalformed (.here rfl (by decide))
  have finishedTokens : tokensFrom finished "[['a''/''Page'true]]" =
      [⟨.opening, "[", 4⟩, ⟨.opening, "[", 5⟩, ⟨.string, "'a'", 6⟩, ⟨.string, "'/'", 9⟩,
        ⟨.string, "'Page'", 12⟩, ⟨.flag, "true", 18⟩, ⟨.closing, "]", 22⟩,
        ⟨.closing, "]", 23⟩] := by
    show Token.ofText none 4 ('[' :: '[' :: ('\'' :: "a" ++ '\'' :: ('\'' :: "/" ++ '\'' ::
      ('\'' :: "Page" ++ '\'' :: (Token.flagWord true ++ [']', ']']))))) = _
    rw [Token.ofText_opening, Token.ofText_opening, Token.ofText_string _ _ _ (.inl rfl) rfl,
      Token.ofText_string _ _ _ (.inl rfl) rfl, Token.ofText_string _ _ _ (.inl rfl) rfl,
      Token.ofText_flagWord true _ (by decide) rfl, Token.ofText_closing, Token.ofText_closing,
      Token.ofText]
    rfl
  have finishedScan : Scan 0 ((tokensFrom finished "[['a''/''Page'true]]").drop 1)
      [.row ⟨"a", "/", "Page", true⟩] true := by
    rw [finishedTokens]
    exact @Scan.row 0 _ [_, _, _, _, _, _] [_] _ _ (isRow rfl) (.close rfl)
  have parsed : parse finished "t" = .ok ⟨[⟨"a", "/", "Page", true⟩], true, []⟩ := by
    have located : locate? "t" none finished = some "[['a''/''Page'true]]" := by decide
    have read := @Scan.read_eq _ _ _ _ finishedScan [] fun _ => rfl
    rw [List.append_nil] at read
    rw [parse_of_located located, read]
    rfl
  refine ⟨⟨first, misnamed_iff.2.1 "Bad" |>.mpr ⟨_, items, first⟩⟩, parsed, ?_⟩
  exact misnamed_iff.2.2 _ parsed ⟨"a", "/", "Page", true⟩ List.mem_cons_self

end RouteTable

end DartRoutes
