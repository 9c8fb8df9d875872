import DartRoutes.Proofs.TablePlace
import DartRoutes.Proofs.TokenOffset

/-!
# Tables in code

A list that is assigned in code is read by the tokens of the whole text, and text in front of it in
which no assignment starts only moves the lines of the notes. An assignment in a comment or a string
counts like any other, so an old table in a comment is read in place of the live one behind it.
-/

namespace DartRoutes

namespace Token

theorem ofText_tail_suffix {before : Option Char} {first : Char} {rest : Text} {kind : Lexeme.Kind}
    {further : Nat} (offset : Nat) (scanned : Lexeme.scan before first rest = (kind, further)) :
    ofText (first :: rest.take further).getLast? (offset + (first :: rest.take further).length)
      (rest.drop further) <:+ ofText before offset (first :: rest) := by
  conv => rhs; rw [ofText]
  rw [scanned]
  cases separates : kind.separates with
  | true => simp [separates]
  | false => simp [separates]

end Token

namespace RouteTable

/-- No comment and no string starts in the text. -/
def OpensNothing (text : Text) : Prop :=
  ∀ character ∈ text, character ≠ '/' ∧ character ≠ '\'' ∧ character ≠ '"'

theorem further_le_of_opensNothing {before : Option Char} {first : Char} {more rest : Text}
    {kind : Lexeme.Kind} {further : Nat} (opensNothing : OpensNothing (first :: more))
    (scanned : Lexeme.scan before first (more ++ '[' :: rest) = (kind, further)) :
    further ≤ more.length := by
  rcases Lexeme.scan_cases scanned with
    ⟨-, opens⟩ | ⟨-, rfl⟩ | ⟨word, member, starts, rfl⟩ | rfl
  · obtain ⟨slash, single, double⟩ := opensNothing first List.mem_cons_self
    rcases opens with same | same | same
    · exact absurd same slash
    · exact absurd same single
    · exact absurd same double
  · rw [List.takeWhile_append]
    split
    · simp [isBlank, blankRanges, CodeRanges.hold]
    · exact (List.takeWhile_sublist _).length_le
  · apply Nat.le_of_not_lt
    intro longer
    have bracket : first :: more ++ ['['] <+: first :: (more ++ '[' :: rest) :=
      ⟨rest, by simp⟩
    have inWord : first :: more ++ ['['] <+: word := by
      apply List.prefix_of_prefix_length_le bracket starts
      simp only [List.length_append, List.length_cons, List.length_nil] at longer ⊢
      omega
    have free : ∀ flag ∈ [("true" : Text), "false"], '[' ∉ flag := by decide
    exact absurd (inWord.subset (List.mem_append_right _ List.mem_cons_self)) (free word member)
  · exact Nat.zero_le _

/-- A bracket behind a text in which no comment and no string starts is a token. -/
theorem suffix_of_opensNothing {quiet : Text} (opensNothing : OpensNothing quiet)
    (before : Option Char) (offset : Nat) (rest : Text) :
    Token.ofText none (offset + quiet.length) ('[' :: rest) <:+
      Token.ofText before offset (quiet ++ '[' :: rest) := by
  match quiet with
  | [] =>
      rw [List.nil_append, Token.ofText_opening, Token.ofText_opening]
      exact List.suffix_refl _
  | first :: more =>
      obtain ⟨kind, further, scanned⟩ : ∃ kind further,
          Lexeme.scan before first (more ++ '[' :: rest) = (kind, further) := ⟨_, _, rfl⟩
      have inside := further_le_of_opensNothing opensNothing scanned
      have tail := Token.ofText_tail_suffix offset scanned
      rw [List.drop_append_of_le_length inside, List.take_append_of_le_length inside] at tail
      have quietRest : OpensNothing (more.drop further) := fun character member =>
        opensNothing character (List.mem_cons_of_mem _ (List.mem_of_mem_drop member))
      have bracket := suffix_of_opensNothing quietRest (first :: more.take further).getLast?
        (offset + (first :: more.take further).length) rest
      have lengths : offset + (first :: more).length =
          offset + (first :: more.take further).length + (more.drop further).length := by
        simp only [List.length_cons, List.length_take, List.length_drop]
        omega
      rw [lengths]
      exact bracket.trans tail
termination_by quiet.length
decreasing_by
  simp only [List.length_drop, List.length_cons]
  omega

variable {table : Text}

/-- Nothing opens between the beginning of an assignment and its list. -/
theorem exists_opensNothing (name : ∀ character ∈ table, isNameCharacter character = true)
    {place : Place} {list : Text} (assigned : place.assigned? table = some list) :
    ∃ quiet rest, place.rest = quiet ++ list ∧ list = '[' :: rest ∧ OpensNothing quiet := by
  rw [Place.assigned?, Option.ite_none_right_eq_some] at assigned
  obtain ⟨behindName, behindSign, shape, sign, rfl, bracket⟩ :=
    assignment?_eq_some_iff.mp assigned.2
  obtain ⟨rest, opening⟩ := List.head?_eq_some_iff.mp bracket
  have blanks {text : Text} : OpensNothing (text.takeWhile isBlank) := by
    intro character member
    have blank := List.all_eq_true.mp List.all_takeWhile character member
    refine ⟨?_, ?_, ?_⟩
    all_goals
      rintro rfl
      exact absurd blank (by decide)
  refine ⟨table ++ (behindName.takeWhile isBlank ++ '=' :: behindSign.takeWhile isBlank), rest, ?_,
    opening, ?_⟩
  · have signs : behindName.takeWhile isBlank ++ '=' :: behindSign = behindName := by
      rw [← sign]
      exact List.takeWhile_append_dropWhile
    have lists : behindSign.takeWhile isBlank ++ skipBlanks behindSign = behindSign :=
      List.takeWhile_append_dropWhile
    rw [shape]
    simp [lists, signs]
  · intro character member
    rcases List.mem_append.mp member with inName | member
    · have isName := name character inName
      refine ⟨?_, ?_, ?_⟩
      all_goals
        rintro rfl
        exact absurd isName (by decide)
    · rcases List.mem_append.mp member with blank | member
      · exact blanks character blank
      · rcases List.mem_cons.mp member with rfl | blank
        · decide
        · exact blanks character blank

theorem exists_suffix_of_tail {before : Option Char} {first : Char} {rest list : Text}
    {kind : Lexeme.Kind} {further : Nat} (offset : Nat)
    (scanned : Lexeme.scan before first rest = (kind, further))
    (inTail : ∃ front, front ++ list = rest.drop further ∧
      Token.ofText none (offset + (first :: rest.take further).length + front.length) list <:+
        Token.ofText (first :: rest.take further).getLast?
          (offset + (first :: rest.take further).length) (rest.drop further)) :
    ∃ front, front ++ list = first :: rest ∧
      Token.ofText none (offset + front.length) list <:+
        Token.ofText before offset (first :: rest) := by
  obtain ⟨front, joined, suffix⟩ := inTail
  refine ⟨first :: rest.take further ++ front, ?_, ?_⟩
  · rw [List.append_assoc, joined, List.cons_append, List.take_append_drop]
  · rw [List.length_append, ← Nat.add_assoc]
    exact suffix.trans (Token.ofText_tail_suffix offset scanned)

/-- The tokens of a list that is assigned in code are tokens of the text. -/
theorem exists_suffix_of_mem_codePlaces
    (name : ∀ character ∈ table, isNameCharacter character = true)
    {before : Option Char} {text list : Text} {place : Place} (offset : Nat)
    (member : place ∈ codePlaces before text) (assigned : place.assigned? table = some list) :
    ∃ front, front ++ list = text ∧
      Token.ofText none (offset + front.length) list <:+ Token.ofText before offset text := by
  fun_induction codePlaces before text generalizing offset with
  | case1 => cases member
  | case2 before first rest kind further scanned lexeme others hides induction =>
      exact exists_suffix_of_tail offset scanned (induction _ member)
  | case3 before first rest kind further scanned lexeme others visible induction =>
      rcases List.mem_append.mp member with here | inTail
      · obtain ⟨front, inside, joined, nonempty, rfl⟩ := mem_places_iff.mp here
        by_cases empty : front = []
        · obtain ⟨quiet, more, shape, rfl, opensNothing⟩ := exists_opensNothing name assigned
          have whole : first :: rest = quiet ++ '[' :: more := by
            rw [← shape, ← List.nil_append inside, ← empty, joined, List.cons_append,
              List.take_append_drop]
          rw [whole]
          exact ⟨quiet, rfl, suffix_of_opensNothing opensNothing before offset more⟩
        · -- A place inside a lexeme is no word boundary.
          have inner := Lexeme.isBoundary_inside scanned (Bool.eq_false_iff.mpr visible) joined
            empty nonempty
          rw [Place.assigned?, Option.ite_none_right_eq_some] at assigned
          have boundary := assigned.1
          rw [List.getLast?_eq_some_getLast empty, List.head?_eq_some_head nonempty] at inner
          rw [Text.neighbour, List.getLast?_eq_some_getLast empty, Option.some_or,
            List.head?_append, List.head?_eq_some_head nonempty, Option.some_or, inner] at boundary
          cases boundary
      · exact exists_suffix_of_tail offset scanned (induction _ inTail)

theorem tokensFrom_append (front list : Text) :
    tokensFrom (front ++ list) list = Token.ofText none front.length list := by
  rw [tokensFrom, List.length_append, Nat.add_sub_cancel]

theorem tokensFrom_suffix (name : ∀ character ∈ table, isNameCharacter character = true)
    {text list : Text} {place : Place} (member : place ∈ codePlaces none text)
    (assigned : place.assigned? table = some list) :
    tokensFrom text list <:+ Token.ofText none 0 text := by
  obtain ⟨front, rfl, suffix⟩ := exists_suffix_of_mem_codePlaces name 0 member assigned
  rw [tokensFrom_append]
  rwa [Nat.zero_add] at suffix

/-- Text in which no assignment starts only moves the lines of the notes. -/
theorem parse_append_of_unassigned {front : Text} (text : Text)
    (free : isWordAt front.getLast? = false)
    (unassigned : ∀ place ∈ places none text front, place.assigned? table = none) :
    parse (front ++ text) table = below (front.count '\n') <$> parse text table := by
  have same := locate?_append_of_unassigned text free unassigned
  cases located : locate? table none text with
  | none =>
      rw [parse_of_missing located, parse_of_missing (same.trans located)]
      rfl
  | some list =>
      obtain ⟨skipped, rfl⟩ := locate?_suffix located
      have tokens : tokensFrom (front ++ (skipped ++ list)) list =
          (tokensFrom (skipped ++ list) list).map (Token.moved front.length) := by
        rw [tokensFrom, tokensFrom, ← Token.ofText_moved]
        congr 1
        simp only [List.length_append]
        omega
      rw [parse_of_located located, parse_of_located (same.trans located), tokens,
        ← List.map_drop, read_moved]
      cases read 0 ((tokensFrom (skipped ++ list) list).drop 1) with
      | error fault => rfl
      | ok reading => exact congrArg Except.ok (Reading.table_append front _ table reading)

/-- A text is read at its first assignment, hidden or not. That is the first one in code exactly if
every hidden assignment stands behind one in code, and then the tokens that are read are tokens of
the text. Text in front of it in which no assignment starts only moves the lines of the notes. -/
theorem parse_in_code_iff (name : ∀ character ∈ table, isNameCharacter character = true)
    (text : Text) :
    parse text table = parseAt text table (firstPlace? table (places none [] text)) ∧
      (firstPlace? table (places none [] text) = firstPlace? table (codePlaces none text) ↔
        HiddenBehindCode text table) ∧
      (HiddenBehindCode text table →
        parse text table = parseAt text table (firstPlace? table (codePlaces none text)) ∧
          ∀ place list, firstPlace? table (codePlaces none text) = some place →
            place.assigned? table = some list →
              tokensFrom text list <:+ Token.ofText none 0 text) ∧
      ∀ front, isWordAt front.getLast? = false →
        (∀ place ∈ places none text front, place.assigned? table = none) →
          parse (front ++ text) table = below (front.count '\n') <$> parse text table := by
  refine ⟨parse_eq_parseAt text table, firstPlace?_eq_code_iff, ?_, ?_⟩
  · intro hiddenBehind
    constructor
    · rw [← firstPlace?_eq_code_iff.mpr hiddenBehind]
      exact parse_eq_parseAt text table
    · intro place list found assigned
      exact tokensFrom_suffix name (mem_of_firstPlace? found).1 assigned
  · intro front free unassigned
    exact parse_append_of_unassigned text free unassigned

/-- The table of a text with a malformed row, an assignment in a comment behind it, and a comment
in front. -/
theorem parse_in_code_iff_comment :
    let text : Text := "t = [x] // t = ["
    ((∀ character ∈ ("t" : Text), isNameCharacter character = true) ∧ HiddenBehindCode text "t" ∧
      isWordAt ("/* old */\n" : Text).getLast? = false ∧
      ∀ place ∈ places none text "/* old */\n", place.assigned? "t" = none) ∧
      firstPlace? "t" (codePlaces none text) = some ⟨none, text⟩ ∧
      tokensFrom text "[x] // t = [" <:+ Token.ofText none 0 text ∧
      parse text "t" = .ok ⟨[], true, [.malformedRow 1]⟩ ∧
      parse ("/* old */\n" ++ text) "t" = .ok ⟨[], true, [.malformedRow 2]⟩ := by
  intro text
  have name : ∀ character ∈ ("t" : Text), isNameCharacter character = true :=
    List.all_eq_true.mp (by decide)
  have assigned : (⟨none, text⟩ : Place).assigned? "t" = some "[x] // t = [" := by decide
  have scanned : Lexeme.scan none 't' " = [x] // t = [" = (.other, 0) := by decide
  have code : firstPlace? "t" (codePlaces none text) = some ⟨none, text⟩ := by
    have shape : codePlaces none text = _ :=
      @codePlaces_of_visible none 't' .other [] " = [x] // t = [" scanned rfl
    rw [shape]
    exact List.find?_cons_of_pos (congrArg Option.isSome assigned)
  have raw : firstPlace? "t" (places none [] text) = some ⟨none, text⟩ :=
    List.find?_cons_of_pos (congrArg Option.isSome assigned)
  have hiddenBehind : HiddenBehindCode text "t" := firstPlace?_eq_code_iff.mp (raw.trans code.symm)
  have free : isWordAt ("/* old */\n" : Text).getLast? = false := by decide
  have unassigned : ∀ place ∈ places none text "/* old */\n", place.assigned? "t" = none := by
    decide
  have tokens : tokensFrom text "[x] // t = [" =
      ⟨.opening, "[", 4⟩ :: ⟨.other, "x", 5⟩ :: ⟨.closing, "]", 6⟩ ::
        Token.ofText (some ']') 7 " // t = [" := by
    show Token.ofText none 4 ('[' :: 'x' :: ']' :: " // t = [") = _
    rw [Token.ofText_opening, Token.ofText_other _ (by decide), Token.ofText_closing]
    rfl
  have parsed : parse text "t" = .ok ⟨[], true, [.malformedRow 1]⟩ := by
    have read (behind : List Token) :
        read 0 (⟨.other, "x", 5⟩ :: ⟨.closing, "]", 6⟩ :: behind) = .ok ⟨[], [5], true⟩ := by
      rw [read_element (by decide) (by decide) rfl]
      show Reading.addSkipped 5 <$> RouteTable.read 0 (⟨.closing, "]", 6⟩ :: behind) = _
      rw [read_closing_table rfl]
      rfl
    have located : locate? "t" none text = some "[x] // t = [" := by
      rw [locate?_eq_firstPlace?, raw]
      exact assigned
    rw [parse_of_located located, tokens, List.drop_succ_cons, List.drop_zero, read]
    rfl
  obtain ⟨-, -, reads, lowers⟩ := parse_in_code_iff name text
  refine ⟨⟨name, hiddenBehind, free, unassigned⟩, code, ?_, parsed, ?_⟩
  · exact (reads hiddenBehind).2 _ _ code assigned
  · rw [lowers _ free unassigned, parsed]
    rfl

/-- An old table in a comment is read in place of the live one behind it. -/
theorem not_parse_in_code :
    let live : Text := "routesConfig = [['shop','/','ShopPage',false]];"
    let text : Text := "// routesConfig = [];\n" ++ live
    (∀ character ∈ defaultName, isNameCharacter character = true) ∧
      parse text defaultName = .ok ⟨[], true, []⟩ ∧
      parseAt text defaultName (firstPlace? defaultName (codePlaces none text)) =
        .ok ⟨[⟨"shop", "/", "ShopPage", false⟩], true, []⟩ := by
  intro live text
  refine ⟨List.all_eq_true.mp (by decide), ?_, ?_⟩
  · have located : locate? defaultName none text = some ("[];\n" ++ live) := by decide
    have shape : text = "// routesConfig = " ++ ("[];\n" ++ live) := by decide
    have opening : ("[];\n" ++ live : Text) = '[' :: ']' :: (";\n" ++ live) := rfl
    rw [parse_of_located located, shape, tokensFrom_append, opening, Token.ofText_opening,
      Token.ofText_closing, List.drop_succ_cons, List.drop_zero, read_closing_table rfl]
    rfl
  · have found : firstPlace? defaultName (codePlaces none text) = some ⟨some '\n', live⟩ := by
      have comment : codePlaces none text = codePlaces (some ';') ('\n' :: live) :=
        @codePlaces_of_hides none '/' .lineComment "/ routesConfig = [];" ('\n' :: live)
          (by decide) rfl
      have blank : codePlaces (some ';') ('\n' :: live) =
          ⟨some ';', '\n' :: live⟩ :: codePlaces (some '\n') live :=
        @codePlaces_of_visible (some ';') '\n' .blank [] live (by decide) rfl
      have letter : codePlaces (some '\n') live =
          ⟨some '\n', live⟩ :: codePlaces (some 'r') (live.drop 1) :=
        @codePlaces_of_visible (some '\n') 'r' .other [] (live.drop 1) (by decide) rfl
      rw [comment, blank, letter, firstPlace?, List.find?_cons_of_neg (by decide),
        List.find?_cons_of_pos (by decide)]
    have assigned : (⟨some '\n', live⟩ : Place).assigned? defaultName =
        some "[['shop','/','ShopPage',false]];" := by decide
    have shape : text = "// routesConfig = [];\nroutesConfig = " ++
        "[['shop','/','ShopPage',false]];" := by decide
    have list : ("[['shop','/','ShopPage',false]];" : Text) = '[' :: '[' :: ('\'' :: "shop" ++
        '\'' :: ',' :: ('\'' :: "/" ++ '\'' :: ',' :: ('\'' :: "ShopPage" ++ '\'' :: ',' ::
          (Token.flagWord false ++ [']', ']', ';'])))) := rfl
    have tokens : tokensFrom text "[['shop','/','ShopPage',false]];" =
        [⟨.opening, "[", 37⟩, ⟨.opening, "[", 38⟩, ⟨.string, "'shop'", 39⟩, ⟨.comma, ",", 45⟩,
          ⟨.string, "'/'", 46⟩, ⟨.comma, ",", 49⟩, ⟨.string, "'ShopPage'", 50⟩, ⟨.comma, ",", 60⟩,
          ⟨.flag, "false", 61⟩, ⟨.closing, "]", 66⟩, ⟨.closing, "]", 67⟩, ⟨.other, ";", 68⟩] := by
      rw [shape, tokensFrom_append, list, Token.ofText_opening, Token.ofText_opening,
        Token.ofText_string _ _ _ (.inl rfl) rfl, Token.ofText_comma,
        Token.ofText_string _ _ _ (.inl rfl) rfl, Token.ofText_comma,
        Token.ofText_string _ _ _ (.inl rfl) rfl, Token.ofText_comma,
        Token.ofText_flagWord false _ (by decide) (by decide), Token.ofText_closing,
        Token.ofText_closing, Token.ofText_other _ (by decide), Token.ofText]
      rfl
    have row : Row.read? [⟨.opening, "[", 38⟩, ⟨.string, "'shop'", 39⟩, ⟨.comma, ",", 45⟩,
        ⟨.string, "'/'", 46⟩, ⟨.comma, ",", 49⟩, ⟨.string, "'ShopPage'", 50⟩, ⟨.comma, ",", 60⟩,
        ⟨.flag, "false", 61⟩, ⟨.closing, "]", 66⟩, ⟨.closing, "]", 67⟩, ⟨.other, ";", 68⟩] =
          some (⟨"shop", "/", "ShopPage", false⟩, [⟨.closing, "]", 67⟩, ⟨.other, ";", 68⟩]) := rfl
    have read : read 0 ((tokensFrom text "[['shop','/','ShopPage',false]];").drop 1) =
        .ok ⟨[⟨"shop", "/", "ShopPage", false⟩], [], true⟩ := by
      rw [tokens, List.drop_succ_cons, List.drop_zero, read_row rfl rfl row rfl,
        read_closing_table rfl]
      rfl
    rw [found, parseAt, Option.bind_some, assigned]
    exact congrArg (Reading.table text defaultName <$> ·) read

end RouteTable

end DartRoutes
