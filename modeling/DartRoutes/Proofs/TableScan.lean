import DartRoutes.Proofs.TableElement

/-!
# Scanning a route table

A table from behind its opening bracket: its elements up to the bracket that closes it, or up to the
end of the tokens, with the lists around them left and entered on the way. The reader takes the rows
in the order of the scan and stops at the first one with a wrong page.
-/

namespace DartRoutes.RouteTable

/-- What a scan meets: a row, or a malformed element that starts at an offset. -/
inductive Item where
  | row (route : Route)
  | malformed (offset : Nat)
  deriving DecidableEq, Repr

/-- The tokens of a table inside which some nested lists are open, the items among them, and whether
the last token closes the table. -/
inductive Scan : (depth : Nat) → List Token → List Item → (closed : Bool) → Prop where
  | ends {depth : Nat} : Scan depth [] [] false
  | unfinished {depth : Nat} {tokens : List Token} :
      Element.Unfinished tokens → Scan depth tokens [] false
  | close {closing : Token} :
      closing.kind = .closing → Scan 0 [closing] [] true
  | leave {depth : Nat} {closing : Token} {rest : List Token} {items : List Item} {closed : Bool} :
      closing.kind = .closing → Scan depth rest items closed →
      Scan (depth + 1) (closing :: rest) items closed
  | comma {depth : Nat} {comma : Token} {rest : List Token} {items : List Item} {closed : Bool} :
      comma.kind = .comma → Scan depth rest items closed →
      Scan depth (comma :: rest) items closed
  | enter {depth : Nat} {opening : Token} {rest : List Token} {items : List Item} {closed : Bool} :
      startsNested opening rest = true → Scan (depth + 1) rest items closed →
      Scan depth (opening :: rest) items closed
  | row {depth : Nat} {route : Route} {row rest : List Token} {items : List Item}
      {closed : Bool} :
      Row.IsRow route row → Scan depth rest items closed →
      Scan depth (row ++ rest) (.row route :: items) closed
  | malformed {depth : Nat} {first : Token} {others rest : List Token} {items : List Item}
      {closed : Bool} :
      Element.Malformed (first :: others) rest → Scan depth rest items closed →
      Scan depth (first :: others ++ rest) (.malformed first.offset :: items) closed

/-- The reading of a table with these items. -/
def Reading.ofItems (closed : Bool) : List Item → Except NamingFault Reading
  | [] => .ok ⟨[], [], closed⟩
  | .row route :: items =>
      if isPageName route.page then Reading.addRoute route <$> ofItems closed items
      else .error ⟨route.page⟩
  | .malformed offset :: items => Reading.addSkipped offset <$> ofItems closed items

namespace Scan

variable {depth : Nat} {tokens : List Token} {items : List Item} {closed : Bool}

theorem eq_false_of_nil (scan : Scan depth [] items closed) : closed = false := by
  generalize same : ([] : List Token) = tokens at scan
  cases scan with
  | ends => rfl
  | unfinished => rfl
  | row isRow _ =>
      obtain ⟨opening, inside, rfl, -⟩ := isRow.exists_inside
      cases same
  | _ => cases same

theorem startsNested_append_of_scan {token : Token} {behind : List Token}
    (scan : Scan depth tokens items closed) (ends : closed = false → behind = []) :
    startsNested token (tokens ++ behind) = startsNested token tokens := by
  by_cases empty : tokens = []
  · subst empty
    rw [ends scan.eq_false_of_nil]
    rfl
  · exact Element.startsNested_append empty behind

/-- Every list of tokens starts with a scan; only a closed one leaves tokens behind. -/
theorem exists_scan (depth : Nat) (tokens : List Token) :
    ∃ inside behind items closed, inside ++ behind = tokens ∧ Scan depth inside items closed ∧
      (closed = false → behind = []) := by
  match tokens with
  | [] => exact ⟨[], [], [], false, rfl, .ends, fun _ => rfl⟩
  | token :: rest =>
      by_cases closing : token.kind = .closing
      · cases depth with
        | zero => exact ⟨[token], rest, [], true, rfl, .close closing, nofun⟩
        | succ depth =>
            obtain ⟨inside, behind, items, closed, rfl, scan, ends⟩ := exists_scan depth rest
            exact ⟨token :: inside, behind, items, closed, rfl, .leave closing scan, ends⟩
      · by_cases comma : token.kind = .comma
        · obtain ⟨inside, behind, items, closed, rfl, scan, ends⟩ := exists_scan depth rest
          exact ⟨token :: inside, behind, items, closed, rfl, .comma comma scan, ends⟩
        · cases nested : startsNested token rest with
          | true =>
              obtain ⟨inside, behind, items, closed, rfl, scan, ends⟩ :=
                exists_scan (depth + 1) rest
              rw [startsNested_append_of_scan scan ends] at nested
              exact ⟨token :: inside, behind, items, closed, rfl, .enter nested scan, ends⟩
          | false =>
              rcases Element.row_or_malformed_or_unfinished closing comma nested with
                ⟨element, tail, joined, ⟨route, isRow⟩ | malformed⟩ | unfinished
              · have shorter : tail.length < rest.length + 1 := by
                  obtain ⟨opening, inside, rfl, -⟩ := isRow.exists_inside
                  rw [← List.length_cons, ← joined, List.length_append, List.length_cons]
                  omega
                obtain ⟨inside, behind, items, closed, rfl, scan, ends⟩ := exists_scan depth tail
                refine ⟨element ++ inside, behind, .row route :: items, closed, ?_,
                  .row isRow scan, ends⟩
                rw [List.append_assoc, joined]
              · obtain ⟨first, others, rfl, -⟩ := malformed.startsInVain
                have shorter : tail.length < rest.length + 1 := by
                  rw [← List.length_cons, ← joined, List.length_append, List.length_cons]
                  omega
                obtain ⟨inside, behind, items, closed, rfl, scan, ends⟩ := exists_scan depth tail
                have malformedInside : Element.Malformed (first :: others) inside := by
                  by_cases empty : inside = []
                  · subst empty
                    rwa [ends scan.eq_false_of_nil] at malformed
                  · exact malformed.of_append empty
                refine ⟨first :: others ++ inside, behind, .malformed first.offset :: items, closed,
                  ?_, .malformed malformedInside scan, ends⟩
                rw [List.append_assoc, joined]
              · refine ⟨token :: rest, [], [], false, List.append_nil _, .unfinished unfinished,
                  fun _ => rfl⟩
termination_by tokens.length
decreasing_by all_goals (simp only [List.length_cons]; omega)

/-- The reader reads what a scan finds, whatever stands behind a closed table. -/
theorem read_eq (scan : Scan depth tokens items closed) {behind : List Token}
    (ends : closed = false → behind = []) :
    read depth (tokens ++ behind) = Reading.ofItems closed items := by
  induction scan with
  | ends =>
      rw [ends rfl, List.append_nil, read_nil]
      rfl
  | unfinished unfinished =>
      obtain ⟨first, others, rfl, vain⟩ := unfinished.startsInVain
      have skipped := unfinished.skip?_eq
      rw [ends rfl, List.append_nil, read_element vain.notClosing vain.notComma vain.single,
        vain.noRow, Element.skipFrom?_eq vain.notClosing vain.notComma, skipped]
      rfl
  | close closing => exact read_closing_table closing
  | leave closing _ induction =>
      rw [List.cons_append, read_closing_list closing]
      exact induction ends
  | comma comma _ induction =>
      rw [List.cons_append, read_comma comma]
      exact induction ends
  | enter nested scan induction =>
      rw [← startsNested_append_of_scan scan ends] at nested
      rw [List.cons_append, read_nested nested]
      exact induction ends
  | @row depth route row rest items closed isRow _ induction =>
      have found : Row.read? (row ++ (rest ++ behind)) = some (route, rest ++ behind) :=
        Row.read?_eq_some_iff.mpr ⟨row, rfl, isRow⟩
      obtain ⟨opening, inside, rfl, isOpening, single, closes⟩ := isRow.exists_inside
      have nonempty : inside ≠ [] := by
        rintro rfl
        cases closes.ends
      rw [← Element.startsNested_append nonempty (rest ++ behind)] at single
      rw [List.append_assoc]
      rw [List.cons_append] at found ⊢
      rw [read_element (isOpening ▸ nofun) (isOpening ▸ nofun) single, found, Reading.ofItems,
        ← induction ends]
  | @malformed depth first others rest items closed malformed _ induction =>
      have further := malformed.append behind
      have skipped := further.skip?_eq
      obtain ⟨_, _, same, vain⟩ := further.startsInVain
      cases same
      rw [List.append_assoc]
      rw [List.cons_append] at skipped ⊢
      rw [read_element vain.notClosing vain.notComma vain.single, vain.noRow,
        Element.skipFrom?_eq vain.notClosing vain.notComma, skipped, Reading.ofItems,
        ← induction ends]

/-- The brackets of a scan: the last token of a closed table leads out of its own bracket, and
nothing else does. -/
theorem exists_reaches (scan : Scan depth tokens items closed) :
    ∃ last, Token.Reaches (depth + 1) tokens last ∧ (closed = true → last = 0) ∧
      (closed = false → 0 < last) := by
  induction scan with
  | ends => exact ⟨_, .nil _, nofun, fun _ => Int.natCast_succ_pos _⟩
  | unfinished unfinished =>
      obtain ⟨last, above, reaches⟩ := unfinished.exists_reaches (Int.natCast_succ_pos _)
      exact ⟨last, reaches, nofun, fun _ => above⟩
  | close closing =>
      refine ⟨0, ?_, fun _ => rfl, nofun⟩
      apply Token.Reaches.cons Int.one_pos
      rw [Token.weight_closing closing]
      exact .nil 0
  | leave closing _ induction =>
      obtain ⟨last, reaches, ends⟩ := induction
      refine ⟨last, ?_, ends⟩
      apply Token.Reaches.cons (Int.natCast_succ_pos _)
      rw [Token.weight_closing closing, Int.natCast_succ, Int.add_neg_cancel_right]
      exact reaches
  | comma comma _ induction =>
      obtain ⟨last, reaches, ends⟩ := induction
      exact ⟨last, .cons_other (comma ▸ nofun) (comma ▸ nofun) (Int.natCast_succ_pos _) reaches,
        ends⟩
  | @enter depth opening rest items closed nested _ induction =>
      obtain ⟨last, reaches, ends⟩ := induction
      have isOpening : opening.kind = .opening := by
        rw [startsNested, Bool.and_eq_true] at nested
        exact beq_iff_eq.mp nested.1
      refine ⟨last, ?_, ends⟩
      apply Token.Reaches.cons (Int.natCast_succ_pos _)
      rw [Token.weight_opening isOpening]
      exact reaches
  | row isRow _ induction =>
      obtain ⟨last, reaches, ends⟩ := induction
      obtain ⟨opening, inside, rfl, isOpening, -, closes⟩ := isRow.exists_inside
      exact ⟨last, .append_list isOpening closes (Int.natCast_succ_pos _) reaches, ends⟩
  | malformed malformed _ induction =>
      obtain ⟨last, reaches, ends⟩ := induction
      exact ⟨last, malformed.reaches (Int.natCast_succ_pos _) reaches, ends⟩

end Scan

end DartRoutes.RouteTable
