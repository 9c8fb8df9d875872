import DartRoutes.Proofs.TableReading

/-!
# Tokens further down in a text

The reader looks at the kinds and lexemes of tokens and never compares their offsets. Tokens that
are moved along a text give the same routes; only the lines of the notes move with them.
-/

namespace DartRoutes

/-- The token that many characters further down. -/
def Token.moved (distance : Nat) (token : Token) : Token :=
  { token with offset := token.offset + distance }

theorem Token.ofText_moved (before : Option Char) (offset distance : Nat) (text : Text) :
    ofText before (offset + distance) text = (ofText before offset text).map (moved distance) := by
  fun_induction ofText before offset text with
  | case1 => rw [ofText, List.map_nil]
  | case2 before offset first rest kind further scanned lexeme tokens separates induction =>
      rw [ofText, scanned, ← induction, Nat.add_right_comm]
      exact if_pos separates
  | case3 before offset first rest kind further scanned lexeme tokens visible induction =>
      rw [ofText, scanned, List.map_cons, ← induction, Nat.add_right_comm]
      exact if_neg visible

variable {distance : Nat}

namespace Row

theorem expect?_moved (kind : Lexeme.Kind) (tokens : List Token) :
    expect? kind (tokens.map (Token.moved distance)) =
      (expect? kind tokens).map
        (Prod.map (Token.moved distance) (List.map (Token.moved distance))) := by
  cases tokens with
  | nil => rfl
  | cons token rest =>
      rw [List.map_cons, expect?, expect?]
      by_cases same : token.kind = kind
      · rw [if_pos same]
        exact if_pos same
      · rw [if_neg same]
        exact if_neg same

theorem skipCommas_moved (tokens : List Token) :
    skipCommas (tokens.map (Token.moved distance)) =
      (skipCommas tokens).map (Token.moved distance) := by
  rw [skipCommas, List.dropWhile_map]
  rfl

theorem skipComma_moved (tokens : List Token) :
    skipComma (tokens.map (Token.moved distance)) =
      (skipComma tokens).map (Token.moved distance) := by
  rw [skipComma, skipComma, expect?_moved]
  cases expect? .comma tokens with
  | none => rfl
  | some found => rfl

theorem read?_moved (tokens : List Token) :
    read? (tokens.map (Token.moved distance)) =
      (read? tokens).map (Prod.map id (List.map (Token.moved distance))) := by
  simp only [read?, expect?_moved, skipCommas_moved, skipComma_moved, Option.bind_eq_bind,
    Option.map_bind, Option.bind_map, Function.comp_def, Prod.map_snd, Prod.map_fst]
  rfl

end Row

theorem Element.skip?_moved (depth : Nat) (tokens : List Token) :
    skip? depth (tokens.map (Token.moved distance)) =
      (skip? depth tokens).map (List.map (Token.moved distance)) := by
  fun_induction skip? depth tokens with
  | case1 => rfl
  | _ => simp_all [skip?, Token.moved]

theorem Element.skipFrom?_moved (first : Token) (rest : List Token) :
    skipFrom? (first.moved distance) (rest.map (Token.moved distance)) =
      (skipFrom? first rest).map (List.map (Token.moved distance)) :=
  skip?_moved _ rest

namespace RouteTable

def Reading.moved (distance : Nat) (reading : Reading) : Reading :=
  { reading with skipped := reading.skipped.map (· + distance) }

theorem startsNested_moved (token : Token) (rest : List Token) :
    startsNested (token.moved distance) (rest.map (Token.moved distance)) =
      startsNested token rest := by
  cases rest with
  | nil => rfl
  | cons next rest => rfl

theorem Reading.moved_addRoute {ε : Type} (route : Route) (reading : Except ε Reading) :
    Reading.moved distance <$> Reading.addRoute route <$> reading =
      Reading.addRoute route <$> Reading.moved distance <$> reading := by
  cases reading with
  | error fault => rfl
  | ok reading => rfl

theorem Reading.moved_addSkipped {ε : Type} (offset : Nat) (reading : Except ε Reading) :
    Reading.moved distance <$> Reading.addSkipped offset <$> reading =
      Reading.addSkipped (offset + distance) <$> Reading.moved distance <$> reading := by
  cases reading with
  | error fault => rfl
  | ok reading => rfl

theorem read_moved (depth : Nat) (tokens : List Token) :
    read depth (tokens.map (Token.moved distance)) =
      Reading.moved distance <$> read depth tokens := by
  match tokens with
  | [] =>
      rw [List.map_nil, read_nil]
      rfl
  | token :: rest =>
      -- Each step of the reader looks at kinds only, and a moved token has the kind it had.
      by_cases closing : token.kind = .closing
      · cases depth with
        | zero =>
            rw [read_closing_table closing]
            exact read_closing_table closing
        | succ depth =>
            rw [read_closing_list closing, ← read_moved depth rest]
            exact read_closing_list closing
      · by_cases comma : token.kind = .comma
        · rw [read_comma comma, ← read_moved depth rest]
          exact read_comma comma
        · cases nested : startsNested token rest with
          | true =>
              rw [read_nested nested, ← read_moved (depth + 1) rest]
              exact read_nested (startsNested_moved token rest ▸ nested)
          | false =>
              have single : startsNested (token.moved distance) (rest.map _) = false :=
                (startsNested_moved token rest).trans nested
              have movedClosing : (token.moved distance).kind ≠ .closing := closing
              rw [List.map_cons, read_element closing comma nested,
                read_element movedClosing comma single, ← List.map_cons, Row.read?_moved,
                Element.skipFrom?_moved]
              cases found : Row.read? (token :: rest) with
              | some element =>
                  obtain ⟨route, behind⟩ := element
                  have shorter : behind.length < rest.length + 1 := Row.read?_length found
                  simp only [Option.map_some, Prod.map_apply, id_eq]
                  by_cases named : isPageName route.page = true
                  · rw [if_pos named, if_pos named, read_moved depth behind,
                      Reading.moved_addRoute]
                  · rw [if_neg named, if_neg named]
                    rfl
              | none =>
                  cases skipped : Element.skipFrom? token rest with
                  | some behind =>
                      have shorter : behind.length < rest.length + 1 :=
                        Nat.lt_succ_of_le (Element.skip?_length skipped)
                      simp only [Option.map_some, read_moved depth behind]
                      exact (Reading.moved_addSkipped _ _).symm
                  | none => rfl
termination_by tokens.length
decreasing_by all_goals (simp only [List.length_cons]; omega)

end RouteTable

theorem Text.lineAt_append (front text : Text) (offset : Nat) :
    (front ++ text).lineAt (offset + front.length) = text.lineAt offset + front.count '\n' := by
  rw [lineAt, lineAt, Nat.add_comm offset, List.take_length_add_append, List.count_append]
  omega

/-- The note of the same element that many lines further down. -/
def TableNote.below (lines : Nat) : TableNote → TableNote
  | .malformedRow line => .malformedRow (line + lines)
  | note => note

namespace RouteTable

def below (lines : Nat) (table : RouteTable) : RouteTable :=
  { table with notes := table.notes.map (TableNote.below lines) }

theorem Reading.table_append (front text name : Text) (reading : Reading) :
    (reading.moved front.length).table (front ++ text) name =
      (reading.table text name).below (front.count '\n') := by
  have notes : (reading.moved front.length).skipped.map
      (fun offset => TableNote.malformedRow ((front ++ text).lineAt offset)) =
        (reading.skipped.map fun offset => TableNote.malformedRow (text.lineAt offset)).map
          (TableNote.below (front.count '\n')) := by
    rw [Reading.moved, List.map_map, List.map_map]
    apply List.map_congr_left
    intro offset _
    exact congrArg TableNote.malformedRow (Text.lineAt_append front text offset)
  rw [Reading.table, Reading.table, notes]
  cases closed : reading.closed with
  | true => simp [Reading.moved, below, closed]
  | false => simp [Reading.moved, below, closed, TableNote.below]

end RouteTable

end DartRoutes
