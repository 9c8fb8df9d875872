import DartRoutes.Route.Basic
import DartRoutes.Route.Token
import DartRoutes.Text.Lines

/-!
# The route table

A route table is a list of rows `[group, path, page, flag]`; the commas between the cells may be
missing or repeated, and rows may sit inside nested lists. An element that is no row is skipped
with a note. Only a page whose name breaks the naming rule is fatal.
-/

namespace DartRoutes

/-- A page whose class name does not end with `Page`. -/
structure NamingFault where
  page : Text
  deriving DecidableEq, Repr

def NamingFault.message (fault : NamingFault) : Text :=
  "Page class name must end with \"" ++ pageSuffix ++ "\": " ++ fault.page.quoted

def isPageName (page : Text) : Bool :=
  pageSuffix.isSuffixOf page

/-- A page class name that keeps the naming rule. -/
def checkPageName (page : Text) : Except NamingFault Unit :=
  if isPageName page then .ok () else .error ⟨page⟩

/-- Something that was left out while the table was read. -/
inductive TableNote where
  | missing (table : Text)
  | malformedRow (line : Nat)
  | unterminated (table : Text)
  deriving DecidableEq, Repr

def TableNote.message : TableNote → Text
  | .missing table => "Could not find " ++ table ++ " in file"
  | .malformedRow line => "Skipped malformed route row at line " ++ Text.ofNat line
  | .unterminated table => "Unterminated " ++ table ++ " list"

/-- The routes of a source text in source order, and what was left out. -/
structure RouteTable where
  routes : List Route
  found : Bool
  notes : List TableNote
  deriving DecidableEq, Repr

namespace Row

/-- A token of the given kind at the beginning. -/
def expect? (kind : Lexeme.Kind) : List Token → Option (Token × List Token)
  | [] => none
  | token :: rest => if token.kind = kind then some (token, rest) else none

def skipCommas (tokens : List Token) : List Token :=
  tokens.dropWhile (·.kind == .comma)

/-- The tokens behind at most one comma. -/
def skipComma (tokens : List Token) : List Token :=
  match expect? .comma tokens with
  | some (_, rest) => rest
  | none => tokens

/-- A row at the beginning of the tokens, and the tokens behind it. -/
def read? (tokens : List Token) : Option (Route × List Token) := do
  let (_, tokens) ← expect? .opening tokens
  let (group, tokens) ← expect? .string tokens
  let (path, tokens) ← expect? .string (skipCommas tokens)
  let (page, tokens) ← expect? .string (skipCommas tokens)
  let (flag, tokens) ← expect? .flag (skipCommas tokens)
  let (_, tokens) ← expect? .closing (skipComma tokens)
  return (⟨Token.unquote group.lexeme, Token.unquote path.lexeme, Token.unquote page.lexeme,
    flag.lexeme == "true"⟩, tokens)

theorem expect?_length {kind : Lexeme.Kind} {token : Token} {tokens rest : List Token}
    (found : expect? kind tokens = some (token, rest)) : rest.length < tokens.length := by
  cases tokens with
  | nil => simp [expect?] at found
  | cons first others =>
      simp only [expect?] at found
      split at found
      · obtain ⟨-, rfl⟩ := by simpa using found
        simp
      · simp at found

theorem skipCommas_length (tokens : List Token) :
    (skipCommas tokens).length ≤ tokens.length :=
  (List.dropWhile_sublist _).length_le

theorem skipComma_length (tokens : List Token) :
    (skipComma tokens).length ≤ tokens.length := by
  unfold skipComma
  split
  · rename_i found
    exact Nat.le_of_lt (expect?_length found)
  · exact Nat.le_refl _

/-- Reading a row takes tokens away. -/
theorem read?_length {route : Route} {tokens rest : List Token}
    (found : read? tokens = some (route, rest)) : rest.length < tokens.length := by
  simp only [read?, Option.bind_eq_bind, Option.bind_eq_some_iff, Prod.exists, Option.pure_def,
    Option.some.injEq, Prod.mk.injEq] at found
  obtain ⟨_, first, opening, _, second, group, _, third, path, _, fourth, page, _, fifth, flag,
    _, sixth, closing, -, rfl⟩ := found
  have := expect?_length opening
  have := expect?_length group
  have := expect?_length path
  have := expect?_length page
  have := expect?_length flag
  have := expect?_length closing
  have := skipCommas_length second
  have := skipCommas_length third
  have := skipCommas_length fourth
  have := skipComma_length fifth
  omega

end Row

namespace Element

/--
The tokens behind the rest of an element, where `depth` brackets of the element are open. A comma
and the bracket that closes the list around the element end it and are left over; the bracket
that closes the element belongs to it. There is no answer if the tokens end first.
-/
def skip? : (depth : Nat) → List Token → Option (List Token)
  | _, [] => none
  | depth, token :: rest =>
      match token.kind, depth with
      | .opening, depth => skip? (depth + 1) rest
      | .closing, 0 => some (token :: rest)
      | .closing, 1 => some rest
      | .closing, depth + 2 => skip? (depth + 1) rest
      | .comma, 0 => some (token :: rest)
      | _, depth => skip? depth rest

/-- The tokens behind an element that starts with the given token. -/
def skipFrom? (first : Token) (rest : List Token) : Option (List Token) :=
  skip? (if first.kind = .opening then 1 else 0) rest

theorem skip?_length {depth : Nat} {tokens rest : List Token}
    (found : skip? depth tokens = some rest) : rest.length ≤ tokens.length := by
  fun_induction skip? depth tokens with
  | case1 => simp at found
  | case2 => grind
  | case3 => grind
  | case4 => grind
  | case5 => grind
  | case6 => grind
  | case7 => grind

end Element

namespace RouteTable

/-- What reading the tokens of a table gives. -/
structure Reading where
  routes : List Route
  /-- Offsets of the elements that were skipped. -/
  skipped : List Nat
  /-- Was the closing bracket of the table reached? -/
  closed : Bool
  deriving DecidableEq, Repr

def Reading.addRoute (route : Route) (reading : Reading) : Reading :=
  { reading with routes := route :: reading.routes }

/-- The reading with one more skipped element in front. -/
def Reading.addSkipped (offset : Nat) (reading : Reading) : Reading :=
  { reading with skipped := offset :: reading.skipped }

/-- Does a list start here whose first element is a list? -/
def startsNested (token : Token) (rest : List Token) : Bool :=
  token.kind == .opening && rest.head?.any (·.kind == .opening)

/-- Reads the elements of the table, inside which `depth` nested lists are open. -/
def read (depth : Nat) : List Token → Except NamingFault Reading
  | [] => .ok ⟨[], [], false⟩
  | token :: rest =>
      match token.kind, depth with
      | .closing, 0 => .ok ⟨[], [], true⟩
      | .closing, depth + 1 => read depth rest
      | .comma, depth => read depth rest
      | _, depth =>
          if startsNested token rest then read (depth + 1) rest
          else
            match _ : Row.read? (token :: rest) with
            | some (route, rest) =>
                if isPageName route.page then Reading.addRoute route <$> read depth rest
                else .error ⟨route.page⟩
            | none =>
                match _ : Element.skipFrom? token rest with
                | some rest => Reading.addSkipped token.offset <$> read depth rest
                | none => .ok ⟨[], [], false⟩
termination_by tokens => tokens.length
decreasing_by
  · simp
  · simp
  · simp
  · exact Row.read?_length ‹_›
  · exact Nat.lt_succ_of_le (Element.skip?_length ‹_›)

/-- The text behind the blanks at its beginning. -/
def skipBlanks (text : Text) : Text :=
  text.dropWhile isBlank

/-- The text from the opening bracket on, if an assignment of a list starts here. -/
def assignment? (table text : Text) : Option Text := do
  let rest ← Text.withoutBeginning? table text
  let rest ← Text.withoutBeginning? "=" (skipBlanks rest)
  let rest := skipBlanks rest
  if rest.head? = some '[' then some rest else none

/--
The text from the bracket of the table's list on. The place is the first one behind the character
`before` where the table's name starts at a word boundary and a list is assigned to it.
-/
def locate? (table : Text) (before : Option Char) : Text → Option Text
  | [] => if isBoundary before none then assignment? table [] else none
  | character :: rest =>
      match
        if isBoundary before (some character) then assignment? table (character :: rest)
        else none
      with
      | some found => some found
      | none => locate? table (some character) rest

/-- Reads the table of the given name from a source text. -/
def parse (text table : Text) : Except NamingFault RouteTable :=
  match locate? table none text with
  | none => .ok ⟨[], false, [.missing table]⟩
  | some list => do
      let reading ← read 0 ((Token.ofText none (text.length - list.length) list).drop 1)
      let skipped := reading.skipped.map fun offset => .malformedRow (text.lineAt offset)
      return if reading.closed then ⟨reading.routes, true, skipped⟩
        else ⟨[], false, skipped ++ [.unterminated table]⟩

/-- The name of the table where none is given. -/
def defaultName : Text := "routesConfig"

end RouteTable

end DartRoutes
