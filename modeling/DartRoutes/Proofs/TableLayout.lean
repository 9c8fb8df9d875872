import DartRoutes.Proofs.TableReading
import DartRoutes.Proofs.TokenReading

/-!
# Layouts of a route table

The ways in which a list of routes can be written as the body of a table: either kind of quotes,
characters with a needless backslash, commas left out or repeated, blanks and comments between the
tokens, and lists around neighbouring elements. The reader takes every layout back to the routes
that were written.
-/

namespace DartRoutes.Layout

/-- Blanks and comments, which may stand between any two tokens. -/
inductive Gap : Text → Prop where
  | nil : Gap []
  | blank {character : Char} {rest : Text} :
      isBlank character = true → Gap rest → Gap (character :: rest)
  | lineComment {content rest : Text} :
      '\n' ∉ content → Gap rest → Gap ("//" ++ content ++ "\n" ++ rest)
  | blockComment {content rest : Text} :
      ¬ ("*/" : Text) <:+: content → Gap rest → Gap ("/*" ++ content ++ "*/" ++ rest)

/-- Gaps with any number of commas between them. -/
inductive Separation : Text → Prop where
  | gap {gap : Text} : Gap gap → Separation gap
  | comma {gap rest : Text} : Gap gap → Separation rest → Separation (gap ++ "," ++ rest)

/-- A gap, or two with a comma between them. -/
inductive Ending : Text → Prop where
  | gap {gap : Text} : Gap gap → Ending gap
  | comma {gap rest : Text} : Gap gap → Gap rest → Ending (gap ++ "," ++ rest)

/-- The quote and the backslash are written with a backslash, and other characters may be. -/
inductive Escapes (quote : Char) : (content written : Text) → Prop where
  | nil : Escapes quote [] []
  | plain {character : Char} {content written : Text} :
      character ≠ quote → character ≠ '\\' → Escapes quote content written →
      Escapes quote (character :: content) (character :: written)
  | escaped {character : Char} {content written : Text} :
      Escapes quote content written →
      Escapes quote (character :: content) ('\\' :: character :: written)

/-- A text between quotes of either kind. -/
inductive Literal : (content literal : Text) → Prop where
  | quoted {quote : Char} {content written : Text} :
      quote = '\'' ∨ quote = '"' → Escapes quote content written →
      Literal content (quote :: written ++ [quote])

/-- A row of the table. -/
inductive Row : Route → Text → Prop where
  | row {route : Route} {start group first path second page third ending : Text} :
      Gap start → Literal route.group group → Separation first → Literal route.path path →
      Separation second → Literal route.page page → Separation third → Ending ending →
      Row route ("[" ++ start ++ group ++ first ++ path ++ second ++ page ++ third
        ++ Token.flagWord route.hasParams ++ ending ++ "]")

/-- Rows and lists with separations around them. A list starts with the bracket of its first
element, so that it cannot be taken for a row. -/
inductive Elements : List Route → Text → Prop where
  | done {separation : Text} : Separation separation → Elements [] separation
  | row {separation row rest : Text} {route : Route} {routes : List Route} :
      Separation separation → Row route row → Elements routes rest →
      Elements (route :: routes) (separation ++ row ++ rest)
  | list {separation gap inner rest : Text} {listed routes : List Route} :
      Separation separation → Gap gap → Elements listed (gap ++ "[" ++ inner) →
      Elements routes rest →
      Elements (listed ++ routes) (separation ++ "[" ++ gap ++ "[" ++ inner ++ "]" ++ rest)

/-- The strings of a route fit on one line each, and the page keeps the naming rule. -/
structure Printable (route : Route) : Prop where
  group : '\n' ∉ route.group
  path : '\n' ∉ route.path
  page : '\n' ∉ route.page
  pageName : isPageName route.page = true

theorem Gap.ofText {text : Text} (gap : Gap text) (before : Option Char) (offset : Nat)
    (rest : Text) :
    Token.ofText before offset (text ++ rest) =
      Token.ofText (Text.neighbour before text) (offset + text.length) rest := by
  induction gap generalizing before offset with
  | nil => rfl
  | @blank character text blank _ induction =>
      rw [List.cons_append, Token.ofText_blank _ _ blank, induction, Text.neighbour_cons]
      congr 1
      simp only [List.length_cons]
      omega
  | @lineComment content text oneLine _ induction =>
      have comment := Token.ofText_lineComment before offset (text ++ rest) oneLine
      have shape : ("//" ++ content ++ "\n" ++ text : Text) ++ rest =
          '/' :: '/' :: content ++ '\n' :: (text ++ rest) := by simp
      rw [shape, comment, induction]
      congr 1
      · simp
      · simp
        omega
  | @blockComment content text open_ _ induction =>
      have comment := Token.ofText_blockComment before offset (text ++ rest) open_
      have shape : ("/*" ++ content ++ "*/" ++ text : Text) ++ rest =
          '/' :: '*' :: content ++ '*' :: '/' :: (text ++ rest) := by simp
      rw [shape, comment, induction]
      congr 1
      · simp
      · simp
        omega

theorem Separation.skipCommas_ofText {text : Text} (separation : Separation text)
    (before : Option Char) (offset : Nat) (rest : Text) :
    Row.skipCommas (Token.ofText before offset (text ++ rest)) =
      Row.skipCommas
        (Token.ofText (Text.neighbour before text) (offset + text.length) rest) := by
  induction separation generalizing before offset with
  | gap gap => rw [gap.ofText]
  | @comma gapText text gap _ induction =>
      have shape : (gapText ++ "," ++ text : Text) ++ rest = gapText ++ ',' :: (text ++ rest) := by
        simp
      rw [shape, gap.ofText, Token.ofText_comma, Row.skipCommas,
        List.dropWhile_cons_of_pos rfl, ← Row.skipCommas, induction]
      simp [Nat.add_assoc, Nat.add_comm 1]

theorem Separation.read_ofText {text : Text} (separation : Separation text) (depth : Nat)
    (before : Option Char) (offset : Nat) (rest : Text) :
    RouteTable.read depth (Token.ofText before offset (text ++ rest)) =
      RouteTable.read depth
        (Token.ofText (Text.neighbour before text) (offset + text.length) rest) := by
  induction separation generalizing before offset with
  | gap gap => rw [gap.ofText]
  | @comma gapText text gap _ induction =>
      have shape : (gapText ++ "," ++ text : Text) ++ rest = gapText ++ ',' :: (text ++ rest) := by
        simp
      rw [shape, gap.ofText, Token.ofText_comma, RouteTable.read_comma rfl,
        induction]
      simp [Nat.add_assoc, Nat.add_comm 1]

theorem Escapes.stringLength? {quote : Char} {content written : Text}
    (escapes : Escapes quote content written) (oneLine : '\n' ∉ content) (rest : Text)
    (isQuote : quote = '\'' ∨ quote = '"') :
    Lexeme.stringLength? quote (written ++ quote :: rest) = some (written.length + 1) := by
  induction escapes with
  | nil => rcases isQuote with rfl | rfl <;> simp [Lexeme.stringLength?]
  | @plain character content written notQuote notBackslash _ induction =>
      have notFeed : character ≠ '\n' := fun same => oneLine (by simp [same])
      have oneLineRest : '\n' ∉ content := fun member => oneLine (by simp [member])
      simp [Lexeme.stringLength?, notQuote, notBackslash, notFeed, induction oneLineRest]
  | @escaped character content written _ induction =>
      have oneLineRest : '\n' ∉ content := fun member => oneLine (by simp [member])
      simp [Lexeme.stringLength?, induction oneLineRest]

theorem Escapes.unescape {quote : Char} {content written : Text}
    (escapes : Escapes quote content written) (oneLine : '\n' ∉ content) :
    Token.unescape written = content := by
  induction escapes with
  | nil => rfl
  | @plain character content written _ notBackslash _ induction =>
      have oneLineRest : '\n' ∉ content := fun member => oneLine (by simp [member])
      simp [Token.unescape, notBackslash, induction oneLineRest]
  | @escaped character content written _ induction =>
      have notFeed : character ≠ '\n' := fun same => oneLine (by simp [same])
      have oneLineRest : '\n' ∉ content := fun member => oneLine (by simp [member])
      simp [Token.unescape, induction oneLineRest]

theorem Literal.unquote {content literal : Text} (written : Literal content literal)
    (oneLine : '\n' ∉ content) : Token.unquote literal = content := by
  cases written with
  | @quoted quote _ written _ escapes =>
      simp [Token.unquote, escapes.unescape oneLine]

theorem Literal.ofText {content literal : Text} (written : Literal content literal)
    (oneLine : '\n' ∉ content) (before : Option Char) (offset : Nat) (rest : Text) :
    Token.ofText before offset (literal ++ rest) =
      ⟨.string, literal, offset⟩ ::
        Token.ofText (Text.neighbour before literal) (offset + literal.length) rest := by
  cases written with
  | @quoted quote _ written isQuote escapes =>
      have closed := escapes.stringLength? oneLine rest isQuote
      have read := Token.ofText_string before offset rest isQuote closed
      simpa using read

theorem Ending.closing {text : Text} (ending : Ending text) (before : Option Char)
    (offset : Nat) (rest : Text) :
    ∃ token further, Row.expect? .closing
        (Row.skipComma (Token.ofText before offset (text ++ ']' :: rest))) =
      some (token, Token.ofText (some ']') further rest) := by
  cases ending with
  | gap gap =>
      rw [gap.ofText, Token.ofText_closing]
      exact ⟨_, _, rfl⟩
  | @comma left right leftGap rightGap =>
      have shape : (left ++ "," ++ right : Text) ++ ']' :: rest =
          left ++ ',' :: (right ++ ']' :: rest) := by simp
      rw [shape, leftGap.ofText, Token.ofText_comma, rightGap.ofText, Token.ofText_closing]
      exact ⟨_, _, rfl⟩

/-- No word character touches what stands behind a gap, if none stands before it. -/
theorem Gap.neighbour_free {text : Text} (gap : Gap text) {before : Option Char}
    (free : isWordAt before = false) : isWordAt (Text.neighbour before text) = false := by
  induction gap generalizing before with
  | nil => exact free
  | blank blank _ induction =>
      rw [Text.neighbour_cons]
      exact induction (isWord_eq_false_of_isBlank blank)
  | lineComment _ _ induction =>
      rw [Text.neighbour_append, Text.neighbour_append]
      exact induction (show isWordAt (some '\n') = false by decide)
  | blockComment _ _ induction =>
      rw [Text.neighbour_append, Text.neighbour_append]
      exact induction (show isWordAt (some '/') = false by decide)

theorem Separation.neighbour_free {text : Text} (separation : Separation text)
    {before : Option Char} (free : isWordAt before = false) :
    isWordAt (Text.neighbour before text) = false := by
  induction separation generalizing before with
  | gap gap => exact gap.neighbour_free free
  | comma _ _ induction =>
      rw [Text.neighbour_append, Text.neighbour_append]
      exact induction (show isWordAt (some ',') = false by decide)

theorem Gap.head_free {text : Text} (gap : Gap text) {rest : Text}
    (free : isWordAt rest.head? = false) : isWordAt (text ++ rest).head? = false := by
  cases gap with
  | nil => exact free
  | blank blank _ => exact isWord_eq_false_of_isBlank blank
  | lineComment _ _ => exact show isWordAt (some '/') = false by decide
  | blockComment _ _ => exact show isWordAt (some '/') = false by decide

theorem Ending.head_free {text : Text} (ending : Ending text) (rest : Text) :
    isWordAt (text ++ ']' :: rest).head? = false := by
  cases ending with
  | gap gap => exact gap.head_free (show isWordAt (some ']') = false by decide)
  | @comma left right leftGap _ =>
      rw [List.append_assoc, List.append_assoc]
      exact leftGap.head_free (show isWordAt (some ',') = false by decide)

theorem Literal.neighbour_free {content literal : Text} (written : Literal content literal)
    (before : Option Char) : isWordAt (Text.neighbour before literal) = false := by
  cases written with
  | @quoted quote _ written isQuote _ =>
      have visible : isWord '\'' = false ∧ isWord '"' = false := by decide
      rcases isQuote with rfl | rfl <;> simp [isWordAt, visible]

theorem Separation.expect?_string {text content literal : Text} (separation : Separation text)
    (written : Literal content literal) (oneLine : '\n' ∉ content) (before : Option Char)
    (offset : Nat) (rest : Text) :
    ∃ token after further, token.lexeme = literal ∧ isWordAt after = false ∧
      Row.expect? .string (Row.skipCommas
          (Token.ofText before offset (text ++ (literal ++ rest)))) =
        some (token, Token.ofText after further rest) := by
  rw [separation.skipCommas_ofText, written.ofText oneLine]
  exact ⟨_, _, _, rfl, written.neighbour_free _, rfl⟩

theorem Separation.expect?_flag {text : Text} (separation : Separation text) (flag : Bool)
    {before : Option Char} (free : isWordAt before = false) (offset : Nat) {rest : Text}
    (freeBehind : isWordAt rest.head? = false) :
    ∃ token after further, token.lexeme = Token.flagWord flag ∧
      Row.expect? .flag (Row.skipCommas
          (Token.ofText before offset (text ++ (Token.flagWord flag ++ rest)))) =
        some (token, Token.ofText after further rest) := by
  rw [separation.skipCommas_ofText,
    Token.ofText_flagWord flag _ (separation.neighbour_free free) freeBehind]
  exact ⟨_, _, _, rfl, rfl⟩

/-- A written row is read back, and is not taken for a list of lists. -/
theorem Row.ofText {route : Route} {text : Text} (row : Row route text)
    (printable : Printable route) (before : Option Char) (offset : Nat) (rest : Text) :
    ∃ token tokens further,
      Token.ofText before offset (text ++ rest) = token :: tokens ∧ token.kind = .opening ∧
      RouteTable.startsNested token tokens = false ∧
      DartRoutes.Row.read? (token :: tokens) =
        some (route, Token.ofText (some ']') further rest) := by
  cases row with
  | @row start group first path second page third ending
      startGap groupWritten firstSeparation pathWritten secondSeparation pageWritten
      thirdSeparation endingShape =>
      have shape : ("[" ++ start ++ group ++ first ++ path ++ second ++ page ++ third
          ++ Token.flagWord route.hasParams ++ ending ++ "]" : Text) ++ rest =
          '[' :: (start ++ (group ++ (first ++ (path ++ (second ++ (page ++ (third ++
            (Token.flagWord route.hasParams ++ (ending ++ ']' :: rest))))))))) := by simp
      rw [shape, Token.ofText_opening, startGap.ofText, groupWritten.ofText printable.group]
      obtain ⟨pathToken, afterPath, pathFurther, pathLexeme, -, pathRead⟩ :=
        firstSeparation.expect?_string pathWritten printable.path
          (Text.neighbour (Text.neighbour (some '[') start) group)
          (offset + 1 + start.length + group.length)
          (second ++ (page ++ (third ++
            (Token.flagWord route.hasParams ++ (ending ++ ']' :: rest)))))
      obtain ⟨pageToken, afterPage, pageFurther, pageLexeme, free, pageRead⟩ :=
        secondSeparation.expect?_string pageWritten printable.page afterPath pathFurther
          (third ++ (Token.flagWord route.hasParams ++ (ending ++ ']' :: rest)))
      obtain ⟨flagToken, afterFlag, flagFurther, flagLexeme, flagRead⟩ :=
        thirdSeparation.expect?_flag route.hasParams free pageFurther
          (endingShape.head_free rest)
      obtain ⟨closing, further, closingRead⟩ := endingShape.closing afterFlag flagFurther rest
      refine ⟨_, _, further, rfl, rfl, rfl, ?_⟩
      have flagValue : (flagToken.lexeme == "true") = route.hasParams := by
        rw [flagLexeme]
        cases route.hasParams <;> rfl
      refine (DartRoutes.Row.read?_of_expect? (by rfl) (by rfl)
        pathRead pageRead flagRead closingRead).trans ?_
      rw [pathLexeme, pageLexeme, flagValue, groupWritten.unquote printable.group,
        pathWritten.unquote printable.path, pageWritten.unquote printable.page]

/-- Written elements are read back as their routes, whatever follows them. -/
theorem Elements.read_ofText {routes : List Route} {text : Text} (elements : Elements routes text)
    (printable : ∀ route ∈ routes, Printable route) (depth : Nat) (before : Option Char)
    (offset : Nat) (rest : Text) :
    ∃ after further, RouteTable.read depth (Token.ofText before offset (text ++ rest)) =
      RouteTable.Reading.addRoutes routes <$>
        RouteTable.read depth (Token.ofText after further rest) := by
  induction elements generalizing depth before offset rest with
  | done separation =>
      rw [separation.read_ofText]
      exact ⟨_, _, (RouteTable.Reading.addRoutes_nil_map _).symm⟩
  | @row gap rowText tail route routes separation row _ induction =>
      have routePrintable := printable route (by simp)
      have tailPrintable : ∀ other ∈ routes, Printable other :=
        fun other member => printable other (by simp [member])
      rw [List.append_assoc, List.append_assoc, separation.read_ofText]
      obtain ⟨token, tokens, behindRow, shape, opening, single, read⟩ :=
        row.ofText routePrintable (Text.neighbour before gap) (offset + gap.length) (tail ++ rest)
      rw [shape, RouteTable.read_row opening single read routePrintable.pageName]
      obtain ⟨after, further, tailRead⟩ :=
        induction tailPrintable depth (some ']') behindRow rest
      rw [tailRead, ← RouteTable.Reading.addRoutes_cons_map]
      exact ⟨after, further, rfl⟩
  | @list leading gap inner tail listed routes separation gapShape _ _ innerInduction induction =>
      have listedPrintable : ∀ other ∈ listed, Printable other :=
        fun other member => printable other (by simp [member])
      have tailPrintable : ∀ other ∈ routes, Printable other :=
        fun other member => printable other (by simp [member])
      have shape : (leading ++ "[" ++ gap ++ "[" ++ inner ++ "]" ++ tail : Text) ++ rest =
          leading ++ '[' :: ((gap ++ "[" ++ inner) ++ ']' :: (tail ++ rest)) := by simp
      have nested (token : Token) (place : Nat) : token.kind = .opening →
          RouteTable.startsNested token (Token.ofText (some '[') place
            ((gap ++ "[" ++ inner) ++ ']' :: (tail ++ rest))) = true := by
        intro opening
        have innerShape : (gap ++ "[" ++ inner : Text) ++ ']' :: (tail ++ rest) =
            gap ++ '[' :: (inner ++ ']' :: (tail ++ rest)) := by simp
        rw [innerShape, gapShape.ofText, Token.ofText_opening]
        simp [RouteTable.startsNested, opening]
      rw [shape, separation.read_ofText, Token.ofText_opening,
        RouteTable.read_nested (nested _ _ rfl)]
      obtain ⟨afterInner, behindInner, innerRead⟩ :=
        innerInduction listedPrintable (depth + 1) (some '[') (offset + leading.length + 1)
          (']' :: (tail ++ rest))
      obtain ⟨after, further, tailRead⟩ :=
        induction tailPrintable depth (some ']') (behindInner + 1) rest
      rw [innerRead, Token.ofText_closing, RouteTable.read_closing_list rfl, tailRead,
        ← RouteTable.Reading.addRoutes_append_map]
      exact ⟨after, further, rfl⟩

end DartRoutes.Layout
