import DartRoutes.Route.Table

/-!
# Steps of reading a route table

What the reader does at the first token of an element: it leaves a list, passes a comma, enters a
list, takes a row, or gives up on the element.
-/

namespace DartRoutes

namespace Row

/-- A row is read when its strings, its flag and its closing bracket stand where they have to. -/
theorem read?_of_expect? {behindGroup behindPath behindPage behindFlag behind : List Token}
    {opening group path page flag closing : Token}
    (openingKind : opening.kind = .opening) (groupKind : group.kind = .string)
    (pathFound : expect? .string (skipCommas behindGroup) = some (path, behindPath))
    (pageFound : expect? .string (skipCommas behindPath) = some (page, behindPage))
    (flagFound : expect? .flag (skipCommas behindPage) = some (flag, behindFlag))
    (closingFound : expect? .closing (skipComma behindFlag) = some (closing, behind)) :
    read? (opening :: group :: behindGroup) =
      some (⟨Token.unquote group.lexeme, Token.unquote path.lexeme,
        Token.unquote page.lexeme, flag.lexeme == "true"⟩, behind) := by
  have openingFound : expect? .opening (opening :: group :: behindGroup) =
      some (opening, group :: behindGroup) := if_pos openingKind
  have groupFound : expect? .string (group :: behindGroup) = some (group, behindGroup) :=
    if_pos groupKind
  simp only [read?, openingFound, groupFound, pathFound, pageFound, flagFound, closingFound,
    Option.bind_eq_bind, Option.bind_some]
  rfl

end Row

namespace RouteTable

/-- The reading with more routes in front. -/
def Reading.addRoutes (routes : List Route) (reading : Reading) : Reading :=
  { reading with routes := routes ++ reading.routes }

theorem Reading.addRoutes_nil_map {ε : Type} (reading : Except ε Reading) :
    Reading.addRoutes [] <$> reading = reading := by
  cases reading <;> rfl

theorem Reading.addRoutes_cons_map {ε : Type} (route : Route) (routes : List Route)
    (reading : Except ε Reading) :
    Reading.addRoutes (route :: routes) <$> reading =
      Reading.addRoute route <$> Reading.addRoutes routes <$> reading := by
  cases reading <;> rfl

theorem Reading.addRoutes_append_map {ε : Type} (left right : List Route)
    (reading : Except ε Reading) :
    Reading.addRoutes (left ++ right) <$> reading =
      Reading.addRoutes left <$> Reading.addRoutes right <$> reading := by
  cases reading with
  | error fault => rfl
  | ok reading => simp [Functor.map, Except.map, Reading.addRoutes]

variable {depth : Nat} {token : Token} {rest : List Token}

theorem read_nil : read depth [] = .ok ⟨[], [], false⟩ := by
  simp [read]

theorem read_closing_table (closing : token.kind = .closing) :
    read 0 (token :: rest) = .ok ⟨[], [], true⟩ := by
  simp [read, closing]

theorem read_closing_list (closing : token.kind = .closing) :
    read (depth + 1) (token :: rest) = read depth rest := by
  simp [read, closing]

theorem read_comma (comma : token.kind = .comma) :
    read depth (token :: rest) = read depth rest := by
  simp [read, comma]

theorem read_nested (nested : startsNested token rest = true) :
    read depth (token :: rest) = read (depth + 1) rest := by
  have opening : token.kind = .opening := by
    simp only [startsNested, Bool.and_eq_true, beq_iff_eq] at nested
    exact nested.1
  simp [read, opening, nested]

/-- An element that is no list of lists is a row, or is skipped. -/
theorem read_element (notClosing : token.kind ≠ .closing) (notComma : token.kind ≠ .comma)
    (single : startsNested token rest = false) :
    read depth (token :: rest) =
      match Row.read? (token :: rest) with
      | some (route, behind) =>
          if isPageName route.page then Reading.addRoute route <$> read depth behind
          else .error ⟨route.page⟩
      | none =>
          match Element.skipFrom? token rest with
          | some behind => Reading.addSkipped token.offset <$> read depth behind
          | none => .ok ⟨[], [], false⟩ := by
  cases kind : token.kind with
  | closing => contradiction
  | comma => contradiction
  | _ =>
      simp only [read, kind, single, reduceCtorEq, Bool.false_eq_true, if_false,
        false_implies, implies_true]
      cases Row.read? (token :: rest) with
      | some found => rfl
      | none =>
          cases Element.skipFrom? token rest with
          | some behind => rfl
          | none => rfl

/-- A row with a proper page is taken. -/
theorem read_row {route : Route} {behind : List Token}
    (opening : token.kind = .opening) (single : startsNested token rest = false)
    (row : Row.read? (token :: rest) = some (route, behind)) (page : isPageName route.page = true) :
    read depth (token :: rest) = Reading.addRoute route <$> read depth behind := by
  rw [read_element (opening ▸ nofun) (opening ▸ nofun) single, row]
  exact if_pos page

/-- The tokens of a text from a list in it on. -/
def tokensFrom (text list : Text) : List Token :=
  Token.ofText none (text.length - list.length) list

/-- The table that a reading of a text gives. -/
def Reading.table (text name : Text) (reading : Reading) : RouteTable :=
  let skipped := reading.skipped.map fun offset => .malformedRow (text.lineAt offset)
  if reading.closed then ⟨reading.routes, true, skipped⟩
  else ⟨[], false, skipped ++ [.unterminated name]⟩

theorem parse_of_missing {text name : Text} (missing : locate? name none text = none) :
    parse text name = .ok ⟨[], false, [.missing name]⟩ := by
  rw [parse, missing]

theorem parse_of_located {text name list : Text} (located : locate? name none text = some list) :
    parse text name = Reading.table text name <$> read 0 ((tokensFrom text list).drop 1) := by
  rw [parse, located]
  rfl

end RouteTable

end DartRoutes
