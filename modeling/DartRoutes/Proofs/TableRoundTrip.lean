import DartRoutes.Proofs.TableLayout
import DartRoutes.Proofs.TableLocation
import DartRoutes.Source.Literal

/-!
# Round trip of a route table

Every list of routes has a layout, and reading any of its layouts behind a text that holds no
earlier table gives the routes back, whatever follows the table.
-/

namespace DartRoutes.Layout

theorem Escapes.ofCharacters (content : Text) :
    Escapes '\'' content (content.flatMap literalCharacter) := by
  induction content with
  | nil => exact .nil
  | cons character content induction =>
      rw [List.flatMap_cons, literalCharacter]
      split
      · exact .escaped induction
      · rename_i kept
        simp only [needsEscape, Bool.or_eq_true, beq_iff_eq, not_or] at kept
        exact .plain kept.1.2 kept.1.1 induction

/-- The literals of generated sources are one way of writing a text. -/
theorem Literal.ofDartLiteral (content : Text) : Literal content (dartLiteral content) :=
  .quoted (.inl rfl) (Escapes.ofCharacters content)

theorem Elements.exists (routes : List Route) : ∃ text, Elements routes text := by
  induction routes with
  | nil => exact ⟨[], .done (.gap .nil)⟩
  | cons route routes induction =>
      obtain ⟨rest, written⟩ := induction
      have row : Row route _ :=
        .row .nil (.ofDartLiteral route.group) (.gap .nil) (.ofDartLiteral route.path)
          (.gap .nil) (.ofDartLiteral route.page) (.gap .nil) (.gap .nil)
      exact ⟨_, .row (.gap .nil) row written⟩

/-- Reading a table gives its routes back for every layout. -/
theorem parse_layout {table before : Text} {routes : List Route} (following : Text)
    (named : table ≠ []) (name : ∀ character ∈ table, RouteTable.isNameCharacter character = true)
    (printable : ∀ route ∈ routes, Printable route) (free : isWordAt before.getLast? = false)
    (first : RouteTable.locate? table none before = none) :
    (∃ body, Elements routes body) ∧
      ∀ body, Elements routes body →
        RouteTable.parse (before ++ table ++ " = [" ++ body ++ "];" ++ following) table =
          .ok ⟨routes, true, []⟩ := by
  refine ⟨Elements.exists routes, ?_⟩
  intro body elements
  have word : ∀ character ∈ table, isWord character = true :=
    fun character member => RouteTable.isWord_of_isNameCharacter (name character member)
  have starts (rest : Text) : isWordAt (table ++ rest).head? = true := by
    cases table with
    | nil => exact absurd rfl named
    | cons character table => exact word character (by simp)
  let list : Text := '[' :: (body ++ ']' :: (';' :: following))
  have shape : (before ++ table ++ " = [" ++ body ++ "];" ++ following : Text) =
      before ++ (table ++ (" = " ++ list)) := by simp [list]
  have assigned : RouteTable.assignment? table (table ++ (" = " ++ list)) = some list :=
    RouteTable.assignment?_eq_some_iff.mpr ⟨_, ' ' :: list, rfl, rfl, rfl, rfl⟩
  have located : RouteTable.locate? table none (before ++ (table ++ (" = " ++ list))) =
      some list := by
    have neighbour : Text.neighbour none before = before.getLast? := Option.or_none
    rw [RouteTable.locate?_append_of_eq_none word first (neighbour ▸ free) (starts _)]
    exact RouteTable.locate?_of_assignment? assigned (neighbour ▸ free) (starts _)
  obtain ⟨after, further, read⟩ := elements.read_ofText printable 0 (some '[')
    ((before ++ (table ++ (" = " ++ list))).length - list.length + 1)
    (']' :: (';' :: following))
  rw [Token.ofText_closing, RouteTable.read_closing_table rfl] at read
  rw [shape, RouteTable.parse, located]
  simp only [list] at read ⊢
  rw [Token.ofText_opening, List.drop_succ_cons, List.drop_zero, read]
  simp [RouteTable.Reading.addRoutes, Functor.map, Except.map, bind, Except.bind, pure,
    Except.pure]

/-- A table with a comment, repeated commas, a nested list and both kinds of quotes. -/
theorem parse_layout_nested :
    (("table" : Text) ≠ [] ∧
      (∀ character ∈ ("table" : Text), RouteTable.isNameCharacter character = true) ∧
      (∀ route ∈ [(⟨"shop", "/", "ShopPage", true⟩ : Route)], Printable route) ∧
      isWordAt ("final " : Text).getLast? = false ∧
      RouteTable.locate? "table" none "final " = none ∧
      Elements [⟨"shop", "/", "ShopPage", true⟩]
        "/* shop */, [ ['shop',,\"\\/\" 'Shop\\Page'true,]]") ∧
      RouteTable.parse ("final " ++ "table" ++ " = [" ++
        "/* shop */, [ ['shop',,\"\\/\" 'Shop\\Page'true,]]" ++ "];" ++ " // done") "table" =
          .ok ⟨[⟨"shop", "/", "ShopPage", true⟩], true, []⟩ := by
  have printable : ∀ route ∈ [(⟨"shop", "/", "ShopPage", true⟩ : Route)], Printable route := by
    intro route member
    obtain rfl := List.mem_singleton.mp member
    exact ⟨by decide, by decide, by decide, by decide⟩
  have group : Literal "shop" ('\'' :: "shop" ++ ['\'']) :=
    .quoted (.inl rfl) (.plain (by decide) (by decide) (.plain (by decide) (by decide)
      (.plain (by decide) (by decide) (.plain (by decide) (by decide) .nil))))
  have path : Literal "/" ('"' :: "\\/" ++ ['"']) := .quoted (.inr rfl) (.escaped .nil)
  have page : Literal "ShopPage" ('\'' :: "Shop\\Page" ++ ['\'']) :=
    .quoted (.inl rfl) (.plain (by decide) (by decide) (.plain (by decide) (by decide)
      (.plain (by decide) (by decide) (.plain (by decide) (by decide) (.escaped
        (.plain (by decide) (by decide) (.plain (by decide) (by decide)
          (.plain (by decide) (by decide) .nil))))))))
  have space : Gap " " := .blank (by decide) .nil
  have commas : Separation ",," := .comma .nil (.comma .nil (.gap .nil))
  have ending : Ending "," := .comma .nil .nil
  have row : Row ⟨"shop", "/", "ShopPage", true⟩ "['shop',,\"\\/\" 'Shop\\Page'true,]" :=
    @Row.row ⟨"shop", "/", "ShopPage", true⟩ [] _ _ _ _ _ _ _ .nil group commas path (.gap space)
      page (.gap .nil) ending
  have comment : Gap "/* shop */" :=
    .blockComment (show ¬ ("*/" : Text) <:+: " shop " by decide) .nil
  have inner : Elements [⟨"shop", "/", "ShopPage", true⟩]
      " ['shop',,\"\\/\" 'Shop\\Page'true,]" :=
    .row (.gap space) row (.done (.gap .nil))
  have elements : Elements [⟨"shop", "/", "ShopPage", true⟩]
      "/* shop */, [ ['shop',,\"\\/\" 'Shop\\Page'true,]]" :=
    .list (.comma comment (.gap space)) space inner (.done (.gap .nil))
  have name : ∀ character ∈ ("table" : Text), RouteTable.isNameCharacter character = true :=
    List.all_eq_true.mp (by decide)
  refine ⟨⟨by decide, name, printable, by decide, by decide, elements⟩, ?_⟩
  exact (@parse_layout "table" "final " _ " // done" (by decide) name printable
    (by decide) (by decide)).2 _ elements

end DartRoutes.Layout
