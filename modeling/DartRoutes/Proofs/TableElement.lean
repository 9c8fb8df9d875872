import DartRoutes.Proofs.BracketDepth
import DartRoutes.Proofs.TableReading

/-!
# Elements of a route table

The grammar of rows and of malformed elements beside the functions that read and skip them. An
element is judged by its own tokens; of what stands behind it only the end of a run of words needs a
look at the next token.
-/

namespace DartRoutes

/-- Neither a bracket nor a comma. -/
structure Token.IsPlain (token : Token) : Prop where
  notOpening : token.kind ≠ .opening
  notClosing : token.kind ≠ .closing
  notComma : token.kind ≠ .comma

namespace Row

def AllCommas (tokens : List Token) : Prop :=
  ∀ token ∈ tokens, token.kind = .comma

/-- The tokens of a row. -/
inductive IsRow : Route → List Token → Prop where
  | row {opening group path page flag closing : Token} {first second third last : List Token} :
      opening.kind = .opening → group.kind = .string → AllCommas first → path.kind = .string →
      AllCommas second → page.kind = .string → AllCommas third → flag.kind = .flag →
      AllCommas last → last.length ≤ 1 → closing.kind = .closing →
      IsRow ⟨Token.unquote group.lexeme, Token.unquote path.lexeme, Token.unquote page.lexeme,
          flag.lexeme == "true"⟩
        (opening :: group ::
          (first ++ path :: (second ++ page :: (third ++ flag :: (last ++ [closing])))))

theorem expect?_eq_some_iff {kind : Lexeme.Kind} {token : Token} {tokens rest : List Token} :
    expect? kind tokens = some (token, rest) ↔ tokens = token :: rest ∧ token.kind = kind := by
  cases tokens with
  | nil => simp [expect?]
  | cons first others =>
      rw [expect?]
      by_cases same : first.kind = kind
      · rw [if_pos same]
        constructor
        · intro found
          cases found
          exact ⟨rfl, same⟩
        · rintro ⟨joined, -⟩
          cases joined
          rfl
      · rw [if_neg same]
        constructor
        · intro found
          cases found
        · rintro ⟨joined, kind⟩
          cases joined
          exact absurd kind same

theorem exists_skipCommas (tokens : List Token) :
    ∃ front, AllCommas front ∧ front ++ skipCommas tokens = tokens := by
  induction tokens with
  | nil => exact ⟨[], List.forall_mem_nil _, rfl⟩
  | cons token tokens induction =>
      by_cases isComma : token.kind = .comma
      · obtain ⟨front, commas, joined⟩ := induction
        have passed : skipCommas (token :: tokens) = skipCommas tokens :=
          List.dropWhile_cons_of_pos (by simpa using isComma)
        refine ⟨token :: front, List.forall_mem_cons.mpr ⟨isComma, commas⟩, ?_⟩
        rw [passed]
        exact congrArg (token :: ·) joined
      · have stopped : skipCommas (token :: tokens) = token :: tokens :=
          List.dropWhile_cons_of_neg (by simpa using isComma)
        exact ⟨[], List.forall_mem_nil _, stopped⟩

theorem skipCommas_append {front rest : List Token} {token : Token} (commas : AllCommas front)
    (notComma : token.kind ≠ .comma) : skipCommas (front ++ token :: rest) = token :: rest := by
  rw [skipCommas, List.dropWhile_append_of_pos fun comma member =>
    beq_iff_eq.mpr (commas comma member)]
  exact List.dropWhile_cons_of_neg (by simpa using notComma)

theorem exists_skipComma (tokens : List Token) :
    ∃ front, AllCommas front ∧ front.length ≤ 1 ∧ front ++ skipComma tokens = tokens := by
  rw [skipComma]
  split
  · rename_i comma rest found
    obtain ⟨rfl, isComma⟩ := expect?_eq_some_iff.mp found
    exact ⟨[comma], List.forall_mem_singleton.mpr isComma, Nat.le_refl 1, rfl⟩
  · exact ⟨[], List.forall_mem_nil _, Nat.zero_le 1, rfl⟩

theorem skipComma_append {front rest : List Token} {token : Token} (commas : AllCommas front)
    (single : front.length ≤ 1) (notComma : token.kind ≠ .comma) :
    skipComma (front ++ token :: rest) = token :: rest := by
  match front with
  | [] => simp [skipComma, expect?, notComma]
  | [comma] =>
      have isComma := commas comma List.mem_cons_self
      simp [skipComma, expect?, isComma]
  | _ :: _ :: _ => simp at single

/-- A row is read exactly if the tokens start with one. -/
theorem read?_eq_some_iff {route : Route} {tokens rest : List Token} :
    read? tokens = some (route, rest) ↔ ∃ row, row ++ rest = tokens ∧ IsRow route row := by
  constructor
  · intro found
    simp only [read?, Option.bind_eq_bind, Option.bind_eq_some_iff, Prod.exists, Option.pure_def,
      Option.some.injEq, Prod.mk.injEq, expect?_eq_some_iff] at found
    obtain ⟨opening, behindOpening, ⟨rfl, openingKind⟩, group, behindGroup, ⟨rfl, groupKind⟩,
      path, behindPath, ⟨pathFound, pathKind⟩, page, behindPage, ⟨pageFound, pageKind⟩,
      flag, behindFlag, ⟨flagFound, flagKind⟩, closing, behind, ⟨closingFound, closingKind⟩,
      rfl, rfl⟩ := found
    obtain ⟨first, firstCommas, firstJoined⟩ := exists_skipCommas behindGroup
    obtain ⟨second, secondCommas, secondJoined⟩ := exists_skipCommas behindPath
    obtain ⟨third, thirdCommas, thirdJoined⟩ := exists_skipCommas behindPage
    obtain ⟨last, lastCommas, single, lastJoined⟩ := exists_skipComma behindFlag
    refine ⟨_, ?_, .row openingKind groupKind firstCommas pathKind secondCommas pageKind
      thirdCommas flagKind lastCommas single closingKind⟩
    rw [← firstJoined, pathFound, ← secondJoined, pageFound, ← thirdJoined, flagFound,
      ← lastJoined, closingFound]
    simp
  · rintro ⟨row, rfl, isRow⟩
    cases isRow with
    | @row opening group path page flag closing first second third last openingKind groupKind
        firstCommas pathKind secondCommas pageKind thirdCommas flagKind lastCommas single
        closingKind =>
        have apart {token : Token} {kind : Lexeme.Kind} (isKind : token.kind = kind)
            (notComma : kind ≠ .comma) : token.kind ≠ .comma := isKind ▸ notComma
        have pathFound : expect? .string (skipCommas (first ++ path ::
            (second ++ page :: (third ++ flag :: (last ++ closing :: rest))))) =
              some (path, second ++ page :: (third ++ flag :: (last ++ closing :: rest))) := by
          rw [skipCommas_append firstCommas (apart pathKind (by decide))]
          exact if_pos pathKind
        have pageFound : expect? .string (skipCommas
            (second ++ page :: (third ++ flag :: (last ++ closing :: rest)))) =
              some (page, third ++ flag :: (last ++ closing :: rest)) := by
          rw [skipCommas_append secondCommas (apart pageKind (by decide))]
          exact if_pos pageKind
        have flagFound : expect? .flag (skipCommas
            (third ++ flag :: (last ++ closing :: rest))) =
              some (flag, last ++ closing :: rest) := by
          rw [skipCommas_append thirdCommas (apart flagKind (by decide))]
          exact if_pos flagKind
        have closingFound : expect? .closing (skipComma (last ++ closing :: rest)) =
            some (closing, rest) := by
          rw [skipComma_append lastCommas single (apart closingKind (by decide))]
          exact if_pos closingKind
        have read := read?_of_expect? openingKind groupKind pathFound pageFound flagFound
          closingFound
        simpa using read

theorem isRow_of_read? {route : Route} {row : List Token} (read : read? row = some (route, [])) :
    IsRow route row := by
  obtain ⟨_, joined, isRow⟩ := read?_eq_some_iff.mp read
  rwa [← joined, List.append_nil]

/-- A row opens one bracket and closes it with its last token. -/
theorem IsRow.exists_inside {route : Route} {row : List Token} (isRow : IsRow route row) :
    ∃ opening inside, row = opening :: inside ∧ opening.kind = .opening ∧
      RouteTable.startsNested opening inside = false ∧ Token.Reaches 1 inside 0 := by
  cases isRow with
  | @row opening group path page flag closing first second third last openingKind groupKind
      firstCommas pathKind secondCommas pageKind thirdCommas flagKind lastCommas single
      closingKind =>
      have closes : Token.Reaches 1 [closing] 0 := by
        apply Token.Reaches.cons Int.one_pos
        rw [Token.weight_closing closingKind]
        exact .nil 0
      have other {token : Token} {kind : Lexeme.Kind} (isKind : token.kind = kind)
          (noBracket : kind ≠ .opening ∧ kind ≠ .closing) :
          token.kind ≠ .opening ∧ token.kind ≠ .closing := isKind ▸ noBracket
      have pass {token : Token} {rest : List Token}
          (noBracket : token.kind ≠ .opening ∧ token.kind ≠ .closing)
          (reaches : Token.Reaches 1 rest 0) : Token.Reaches 1 (token :: rest) 0 :=
        .cons_other noBracket.1 noBracket.2 Int.one_pos reaches
      have passCommas {commas rest : List Token} (areCommas : AllCommas commas)
          (reaches : Token.Reaches 1 rest 0) : Token.Reaches 1 (commas ++ rest) 0 :=
        .append_other (fun comma member => other (areCommas comma member) (by decide))
          Int.one_pos reaches
      refine ⟨opening, _, rfl, openingKind, ?_, ?_⟩
      · simp [RouteTable.startsNested, groupKind]
      · apply pass (other groupKind (by decide))
        apply passCommas firstCommas
        apply pass (other pathKind (by decide))
        apply passCommas secondCommas
        apply pass (other pageKind (by decide))
        apply passCommas thirdCommas
        apply pass (other flagKind (by decide))
        exact passCommas lastCommas closes

end Row

namespace Element

/-- An element that is skipped, in front of the tokens behind it: a list, or some words up to a
comma, the end of the list around them or the end of a list behind them. -/
inductive Malformed : List Token → List Token → Prop where
  | list {opening : Token} {inside rest : List Token} :
      opening.kind = .opening → RouteTable.startsNested opening inside = false →
      Token.Reaches 1 inside 0 → (∀ route, ¬ Row.IsRow route (opening :: inside)) →
      Malformed (opening :: inside) rest
  | words {words rest : List Token} {next : Token} :
      words ≠ [] → (∀ word ∈ words, word.IsPlain) → next.kind = .comma ∨ next.kind = .closing →
      Malformed words (next :: rest)
  | wordsAndList {words inside rest : List Token} {opening : Token} :
      words ≠ [] → (∀ word ∈ words, word.IsPlain) → opening.kind = .opening →
      Token.Reaches 1 inside 0 → Malformed (words ++ opening :: inside) rest

/-- An element that the end of the tokens cuts off. -/
inductive Unfinished : List Token → Prop where
  | words {words : List Token} :
      words ≠ [] → (∀ word ∈ words, word.IsPlain) → Unfinished words
  | list {opening : Token} {inside : List Token} {depth : Int} :
      opening.kind = .opening → RouteTable.startsNested opening inside = false → 0 < depth →
      Token.Reaches 1 inside depth → Unfinished (opening :: inside)
  | wordsAndList {words inside : List Token} {opening : Token} {depth : Int} :
      words ≠ [] → (∀ word ∈ words, word.IsPlain) → opening.kind = .opening → 0 < depth →
      Token.Reaches 1 inside depth → Unfinished (words ++ opening :: inside)

theorem Malformed.append {element rest : List Token} (malformed : Malformed element rest)
    (behind : List Token) : Malformed element (rest ++ behind) := by
  cases malformed with
  | list opening single closes noRow => exact .list opening single closes noRow
  | words nonempty plain next => exact .words nonempty plain next
  | wordsAndList nonempty plain opening closes => exact .wordsAndList nonempty plain opening closes

/-- Of what stands behind a malformed element only the next token counts. -/
theorem Malformed.of_append {element rest behind : List Token} (nonempty : rest ≠ [])
    (malformed : Malformed element (rest ++ behind)) : Malformed element rest := by
  obtain ⟨next, more, rfl⟩ := List.exists_cons_of_ne_nil nonempty
  cases malformed with
  | list opening single closes noRow => exact .list opening single closes noRow
  | words nonempty plain next => exact .words nonempty plain next
  | wordsAndList nonempty plain opening closes => exact .wordsAndList nonempty plain opening closes

theorem skip?_words {words : List Token} (plain : ∀ word ∈ words, word.IsPlain)
    (rest : List Token) : skip? 0 (words ++ rest) = skip? 0 rest := by
  induction words with
  | nil => rfl
  | cons word words induction =>
      obtain ⟨⟨notOpening, notClosing, notComma⟩, others⟩ := List.forall_mem_cons.mp plain
      rw [List.cons_append, skip?.eq_def]
      cases kind : word.kind with
      | opening => contradiction
      | closing => contradiction
      | comma => contradiction
      | _ => simp [kind, induction others]

theorem skip?_list {opening : Token} {inside : List Token} (isOpening : opening.kind = .opening)
    (closes : Token.Reaches 1 inside 0) (rest : List Token) :
    skip? 0 (opening :: inside ++ rest) = some rest := by
  rw [List.cons_append, skip?_opening isOpening]
  exact skip?_of_closes closes rest

theorem skip?_unclosed {opening : Token} {inside : List Token} {depth : Int}
    (isOpening : opening.kind = .opening) (above : 0 < depth)
    (stays : Token.Reaches 1 inside depth) : skip? 0 (opening :: inside) = none := by
  rw [skip?_opening isOpening]
  exact skip?_of_stays above stays

theorem skipFrom?_eq {first : Token} (notClosing : first.kind ≠ .closing)
    (notComma : first.kind ≠ .comma) (rest : List Token) :
    skipFrom? first rest = skip? 0 (first :: rest) := by
  rw [skipFrom?]
  by_cases opening : first.kind = .opening
  · rw [if_pos opening, skip?_opening opening]
  · have plain : ∀ word ∈ [first], word.IsPlain :=
      List.forall_mem_singleton.mpr ⟨opening, notClosing, notComma⟩
    rw [if_neg opening]
    exact (skip?_words plain rest).symm

theorem Malformed.skip?_eq {element rest : List Token} (malformed : Malformed element rest) :
    skip? 0 (element ++ rest) = some rest := by
  cases malformed with
  | list opening _ closes _ => exact skip?_list opening closes rest
  | words _ plain next =>
      rw [skip?_words plain]
      rcases next with comma | closing
      · simp [skip?, comma]
      · simp [skip?, closing]
  | wordsAndList _ plain opening closes =>
      rw [List.append_assoc, skip?_words plain]
      exact skip?_list opening closes rest

theorem Unfinished.skip?_eq {tokens : List Token} (unfinished : Unfinished tokens) :
    skip? 0 tokens = none := by
  cases unfinished with
  | words _ plain =>
      have passed := skip?_words plain []
      rw [List.append_nil] at passed
      rw [passed]
      rfl
  | list opening _ above stays => exact skip?_unclosed opening above stays
  | wordsAndList _ plain opening above stays =>
      rw [skip?_words plain]
      exact skip?_unclosed opening above stays

/-- An element that is no row starts with a token at which the reader tries one in vain. -/
structure StartsInVain (first : Token) (others : List Token) : Prop where
  notClosing : first.kind ≠ .closing
  notComma : first.kind ≠ .comma
  single : RouteTable.startsNested first others = false
  noRow : Row.read? (first :: others) = none

theorem startsInVain_of_isPlain {word : Token} (plain : word.IsPlain) (others : List Token) :
    StartsInVain word others where
  notClosing := plain.notClosing
  notComma := plain.notComma
  single := by
    simp [RouteTable.startsNested, plain.notOpening]
  noRow := by
    apply Option.eq_none_iff_forall_ne_some.mpr
    rintro ⟨route, rest⟩ found
    obtain ⟨row, joined, isRow⟩ := Row.read?_eq_some_iff.mp found
    obtain ⟨opening, inside, rfl, isOpening, -, -⟩ := isRow.exists_inside
    obtain ⟨rfl, -⟩ := List.cons_eq_cons.mp joined
    exact plain.notOpening isOpening

theorem startsInVain_of_words {words : List Token} (nonempty : words ≠ [])
    (plain : ∀ word ∈ words, word.IsPlain) (rest : List Token) :
    ∃ first others, words = first :: others ∧ StartsInVain first (others ++ rest) := by
  obtain ⟨first, others, rfl⟩ := List.exists_cons_of_ne_nil nonempty
  exact ⟨first, others, rfl, startsInVain_of_isPlain (plain first List.mem_cons_self) _⟩

theorem startsNested_append {opening : Token} {inside : List Token} (nonempty : inside ≠ [])
    (rest : List Token) : RouteTable.startsNested opening (inside ++ rest) =
      RouteTable.startsNested opening inside := by
  obtain ⟨token, more, rfl⟩ := List.exists_cons_of_ne_nil nonempty
  rfl

theorem Malformed.startsInVain {element rest : List Token} (malformed : Malformed element rest) :
    ∃ first others, element = first :: others ∧ StartsInVain first (others ++ rest) := by
  cases malformed with
  | @list opening inside _ isOpening single closes noRow =>
      have nonempty : inside ≠ [] := by
        rintro rfl
        cases closes.ends
      refine ⟨opening, inside, rfl, isOpening ▸ nofun, isOpening ▸ nofun, ?_, ?_⟩
      · rw [startsNested_append nonempty]
        exact single
      · apply Option.eq_none_iff_forall_ne_some.mpr
        rintro ⟨route, behind⟩ found
        obtain ⟨row, joined, isRow⟩ := Row.read?_eq_some_iff.mp found
        obtain ⟨first, others, rfl, -, -, rowCloses⟩ := isRow.exists_inside
        obtain ⟨rfl, sameRest⟩ := List.cons_eq_cons.mp joined
        obtain rfl := rowCloses.unique closes sameRest
        exact noRow route isRow
  | words nonempty plain _ => exact startsInVain_of_words nonempty plain _
  | @wordsAndList words inside _ opening nonempty plain _ _ =>
      obtain ⟨first, others, rfl, vain⟩ :=
        startsInVain_of_words nonempty plain (opening :: inside ++ rest)
      refine ⟨first, others ++ opening :: inside, rfl, ?_⟩
      rw [List.append_assoc]
      exact vain

theorem Unfinished.startsInVain {tokens : List Token} (unfinished : Unfinished tokens) :
    ∃ first others, tokens = first :: others ∧ StartsInVain first others := by
  cases unfinished with
  | words nonempty plain =>
      obtain ⟨first, others, rfl, vain⟩ := startsInVain_of_words nonempty plain []
      rw [List.append_nil] at vain
      exact ⟨first, others, rfl, vain⟩
  | @list opening inside _ isOpening single above stays =>
      refine ⟨opening, inside, rfl, isOpening ▸ nofun, isOpening ▸ nofun, single, ?_⟩
      apply Option.eq_none_iff_forall_ne_some.mpr
      rintro ⟨route, behind⟩ found
      obtain ⟨row, joined, isRow⟩ := Row.read?_eq_some_iff.mp found
      obtain ⟨first, others, rfl, -, -, rowCloses⟩ := isRow.exists_inside
      obtain ⟨rfl, sameRest⟩ := List.cons_eq_cons.mp joined
      exact stays.not_closes above sameRest rowCloses
  | wordsAndList nonempty plain _ _ _ =>
      obtain ⟨first, others, rfl, vain⟩ := startsInVain_of_words nonempty plain _
      exact ⟨first, _, rfl, vain⟩

theorem reaches_words {words rest : List Token} {depth last : Int}
    (plain : ∀ word ∈ words, word.IsPlain) (positive : 0 < depth)
    (reaches : Token.Reaches depth rest last) : Token.Reaches depth (words ++ rest) last := by
  apply Token.Reaches.append_other _ positive reaches
  intro word member
  exact ⟨(plain word member).notOpening, (plain word member).notClosing⟩

theorem Malformed.reaches {element rest : List Token} {depth last : Int}
    (malformed : Malformed element rest) (positive : 0 < depth)
    (reaches : Token.Reaches depth rest last) : Token.Reaches depth (element ++ rest) last := by
  cases malformed with
  | list opening _ closes _ => exact .append_list opening closes positive reaches
  | words _ plain _ => exact reaches_words plain positive reaches
  | wordsAndList _ plain opening closes =>
      rw [List.append_assoc]
      exact reaches_words plain positive (.append_list opening closes positive reaches)

theorem Unfinished.exists_reaches {tokens : List Token} {depth : Int}
    (unfinished : Unfinished tokens) (positive : 0 < depth) :
    ∃ last, 0 < last ∧ Token.Reaches depth tokens last := by
  have unclosed {opening : Token} {inside : List Token} {last : Int}
      (isOpening : opening.kind = .opening) (stays : Token.Reaches 1 inside last) :
      Token.Reaches depth (opening :: inside) (last + depth) := by
    have raised := stays.raise (Int.le_of_lt positive)
    apply Token.Reaches.cons positive
    rw [Token.weight_opening isOpening, Int.add_comm]
    exact raised
  cases unfinished with
  | words _ plain =>
      have reaches := reaches_words plain positive (.nil depth)
      rw [List.append_nil] at reaches
      exact ⟨depth, positive, reaches⟩
  | @list _ _ last opening _ above stays =>
      exact ⟨last + depth, Int.add_pos above positive, unclosed opening stays⟩
  | @wordsAndList _ _ _ last _ plain opening above stays =>
      exact ⟨last + depth, Int.add_pos above positive,
        reaches_words plain positive (unclosed opening stays)⟩

theorem exists_words (tokens : List Token) :
    ∃ words tail, words ++ tail = tokens ∧ (∀ word ∈ words, word.IsPlain) ∧
      ∀ next rest, tail = next :: rest → ¬ next.IsPlain := by
  induction tokens with
  | nil => exact ⟨[], [], rfl, List.forall_mem_nil _, nofun⟩
  | cons token tokens induction =>
      by_cases isPlain : token.IsPlain
      · obtain ⟨words, tail, rfl, plain, ends⟩ := induction
        exact ⟨token :: words, tail, rfl, List.forall_mem_cons.mpr ⟨isPlain, plain⟩, ends⟩
      · refine ⟨[], token :: tokens, rfl, List.forall_mem_nil _, ?_⟩
        intro next rest same
        cases same
        exact isPlain

/-- Where no list of lists starts, the tokens start with a row or a malformed element, or the rest
of them is an element that they cut off. -/
theorem row_or_malformed_or_unfinished {token : Token} {rest : List Token}
    (notClosing : token.kind ≠ .closing) (notComma : token.kind ≠ .comma)
    (single : RouteTable.startsNested token rest = false) :
    (∃ element behind, element ++ behind = token :: rest ∧
      ((∃ route, Row.IsRow route element) ∨ Malformed element behind)) ∨
        Unfinished (token :: rest) := by
  by_cases opening : token.kind = .opening
  · rcases Token.Reaches.closes_or_stays Int.one_pos rest with
      ⟨inside, behind, rfl, closes⟩ | ⟨last, above, stays⟩
    · refine .inl ⟨token :: inside, behind, rfl, ?_⟩
      by_cases isRow : ∃ route, Row.IsRow route (token :: inside)
      · exact .inl isRow
      · have nonempty : inside ≠ [] := by
          rintro rfl
          cases closes.ends
        rw [startsNested_append nonempty] at single
        exact .inr (.list opening single closes fun route row => isRow ⟨route, row⟩)
    · exact .inr (.list opening single above stays)
  · obtain ⟨words, tail, joined, plain, ends⟩ := exists_words (token :: rest)
    have nonempty : words ≠ [] := by
      rintro rfl
      exact ends token rest joined ⟨opening, notClosing, notComma⟩
    rw [← joined]
    cases tail with
    | nil =>
        rw [List.append_nil]
        exact .inr (.words nonempty plain)
    | cons next tail =>
        have stops := ends next tail rfl
        by_cases nextOpening : next.kind = .opening
        · rcases Token.Reaches.closes_or_stays Int.one_pos tail with
            ⟨inside, behind, rfl, closes⟩ | ⟨last, above, stays⟩
          · refine .inl ⟨words ++ next :: inside, behind, List.append_assoc _ _ _, .inr ?_⟩
            exact .wordsAndList nonempty plain nextOpening closes
          · exact .inr (.wordsAndList nonempty plain nextOpening above stays)
        · have nextEnds : next.kind = .comma ∨ next.kind = .closing := by
            by_cases comma : next.kind = .comma
            · exact .inl comma
            · by_cases closing : next.kind = .closing
              · exact .inr closing
              · exact absurd ⟨nextOpening, closing, comma⟩ stops
          exact .inl ⟨words, next :: tail, rfl, .inr (.words nonempty plain nextEnds)⟩

end Element

end DartRoutes
