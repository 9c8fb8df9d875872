import DartRoutes.Navigation.Source
import DartRoutes.Proofs.LiteralEscape
import DartRoutes.Proofs.NameCharacters

/-!
# Literals of the page imports

The router writes the URI of an imported page between quotes as it is, while every other text of
the router goes through `dartLiteral`. So an import line holds a literal of its URI exactly if
nothing in the URI needs an escape.
-/

namespace DartRoutes

/-- A literal that is one string, starts no interpolation and stands for a text. -/
structure IsLiteralOf (text literal : Text) : Prop where
  read : Token.ofText none 0 literal = [⟨.string, literal, 0⟩]
  guarded : ∀ front back : Text, literal = front ++ '$' :: back → Odd front.trailingBackslashes
  stands : Token.unquote literal = text

/-- The line by which the router imports a page. -/
def RouterView.importLine (uri : Text) : Text :=
  "import '" ++ uri ++ "';"

/-- The line imports what a literal of the URI stands for. -/
def ImportsUri (line uri : Text) : Prop :=
  ∃ literal, line = "import " ++ literal ++ ";" ∧ IsLiteralOf uri literal

theorem RouterView.importLine_eq (uri : Text) :
    importLine uri = "import " ++ ('\'' :: (uri ++ ['\''])) ++ ";" := by
  have opening : ("import '" : Text) = "import " ++ ['\''] := by decide
  have closing : ("';" : Text) = '\'' :: ";" := by decide
  change "import '" ++ uri ++ "';" = _
  rw [opening, closing]
  simp only [List.append_assoc, List.cons_append, List.nil_append]

/-- Nothing in the text is escaped in a literal. -/
def NeedsNoEscape (text : Text) : Prop :=
  ∀ character ∈ text, ¬ needsEscape character

instance (text : Text) : Decidable (NeedsNoEscape text) :=
  List.decidableBAll (fun character => ¬ needsEscape character) text

theorem not_needsEscape_iff {character : Char} :
    ¬ needsEscape character ↔ character ≠ '\\' ∧ character ≠ '\'' ∧ character ≠ '$' := by
  simp [needsEscape, and_assoc]

theorem NeedsNoEscape.dartLiteral_eq {text : Text} (plain : NeedsNoEscape text) :
    dartLiteral text = '\'' :: text ++ ['\''] := by
  have kept : text.flatMap literalCharacter = text.flatMap fun character => [character] := by
    apply List.flatMap_congr
    intro character member
    exact if_neg (plain character member)
  rw [dartLiteral, kept, List.flatMap_singleton']

theorem Token.length_unescape_le (text : Text) : (Token.unescape text).length ≤ text.length := by
  fun_induction Token.unescape text with
  | case1 => simp
  | case2 rest induction => simpa using induction
  | case3 character rest _ induction =>
      simp only [List.length_cons]
      omega
  | case4 character rest _ _ induction => simpa using induction

/-- A text that is read as it stands up to the last quote has neither escapes nor other quotes. -/
theorem Lexeme.forall_ne_of_stringLength? {content : Text} {length : Nat} (oneLine : '\n' ∉ content)
    (closed : stringLength? '\'' (content ++ ['\'']) = some length)
    (whole : (content ++ ['\'']).take length = content ++ ['\''])
    (same : Token.unescape content = content) :
    ∀ character ∈ content, character ≠ '\\' ∧ character ≠ '\'' := by
  induction content generalizing length with
  | nil => simp
  | cons character content induction =>
      have oneLineBehind : '\n' ∉ content := List.not_mem_of_not_mem_cons oneLine
      by_cases isBackslash : character = '\\'
      · subst isBackslash
        cases content with
        | nil => simp [stringLength?] at closed
        | cons escaped content =>
            -- An escape would make what the literal stands for shorter than the text.
            have notFeed : escaped ≠ '\n' := Ne.symm (List.ne_of_not_mem_cons oneLineBehind)
            have shorter := congrArg List.length same
            simp only [Token.unescape, List.length_cons] at shorter
            have bound := Token.length_unescape_le content
            omega
      · by_cases isQuote : character = '\''
        · subst isQuote
          simp [stringLength?] at closed
          subst closed
          simp at whole
        · have notFeed : character ≠ '\n' := Ne.symm (List.ne_of_not_mem_cons oneLine)
          simp [stringLength?, isQuote, isBackslash, notFeed] at closed
          obtain ⟨further, found, rfl⟩ := closed
          have behind : (content ++ ['\'']).take further = content ++ ['\''] := by
            simpa using whole
          have sameBehind : Token.unescape content = content := by
            simpa [Token.unescape, isBackslash] using same
          exact List.forall_mem_cons.mpr
            ⟨⟨isBackslash, isQuote⟩, induction oneLineBehind found behind sameBehind⟩

/-- A quoted text that is read as one string is closed by its last quote. -/
theorem Token.exists_stringLength? {content : Text}
    (read : ofText none 0 ('\'' :: content) = [⟨.string, '\'' :: content, 0⟩]) :
    ∃ length, Lexeme.stringLength? '\'' content = some length ∧ content.take length = content := by
  have visible : isBlank '\'' = false := by decide
  cases closed : Lexeme.stringLength? '\'' content with
  | none =>
      have scanned : Lexeme.scan none '\'' content = (.other, 0) := by
        simp [Lexeme.scan, visible, closed]
      rw [ofText_other 0 scanned] at read
      simp at read
  | some length =>
      have scanned : Lexeme.scan none '\'' content = (.string, length) := by
        simp [Lexeme.scan, visible, closed]
      rw [ofText, scanned] at read
      have isToken :
          Token.mk .string ('\'' :: content.take length) 0 = ⟨.string, '\'' :: content, 0⟩ :=
        (List.cons.inj read).1
      injection isToken with _ isText _
      exact ⟨length, rfl, (List.cons.inj isText).2⟩

theorem Text.trailingBackslashes_of_not_mem {text : Text} (none : '\\' ∉ text) :
    text.trailingBackslashes = 0 := by
  apply List.length_eq_zero_iff.mpr
  apply List.eq_nil_iff_forall_not_mem.mpr
  intro character member
  have isBackslash : character = '\\' := by simpa using List.mem_rtakeWhile_imp member
  exact none (isBackslash ▸ (List.rtakeWhile_suffix _ _).subset member)

/-- A line imports its URI exactly if the URI can stand between quotes as it is. -/
theorem importsUri_importLine_iff {uri : Text} (oneLine : '\n' ∉ uri) :
    ImportsUri (RouterView.importLine uri) uri ↔ NeedsNoEscape uri := by
  constructor
  · rintro ⟨literal, isLine, isLiteral⟩
    rw [RouterView.importLine_eq] at isLine
    have shape := List.append_cancel_left (List.append_cancel_right isLine)
    subst shape
    obtain ⟨length, closed, whole⟩ := Token.exists_stringLength? isLiteral.read
    have same : Token.unescape uri = uri := by
      simpa [Token.unquote] using isLiteral.stands
    have unmarked := Lexeme.forall_ne_of_stringLength? oneLine closed whole same
    intro character member
    apply not_needsEscape_iff.mpr
    refine ⟨(unmarked character member).1, (unmarked character member).2, ?_⟩
    rintro rfl
    obtain ⟨front, back, rfl⟩ := List.append_of_mem member
    have odd := isLiteral.guarded ('\'' :: front) (back ++ ['\'']) (by simp)
    have none : '\\' ∉ '\'' :: front := by
      intro inside
      have inFront : '\\' ∈ front := List.mem_of_ne_of_mem (by decide) inside
      exact (unmarked '\\' (List.mem_append_left _ inFront)).1 rfl
    rw [Text.trailingBackslashes_of_not_mem none] at odd
    simp at odd
  · intro plain
    refine ⟨dartLiteral uri, ?_, ?_⟩
    · rw [plain.dartLiteral_eq]
      exact RouterView.importLine_eq uri
    constructor
    · exact (Token.ofText_dartLiteral_eq_iff none 0 uri).mpr oneLine
    · intro front back shape
      rw [plain.dartLiteral_eq] at shape
      have member : '$' ∈ '\'' :: uri ++ ['\''] := shape ▸ List.mem_append_right front (by simp)
      have inUri : '$' ∈ uri := by simpa using member
      exact absurd (plain '$' inUri) (by decide)
    · exact Token.unquote_dartLiteral uri

namespace NavigationPlan

/-- What would break an import line comes into it from the names that it is made of. -/
theorem mem_pageImport_iff {mark : Char} {packageName : Text} {route : Route}
    (isMark : mark = '\n' ∨ needsEscape mark) :
    mark ∈ pageImport packageName route ↔
      mark ∈ packageName ∨ mark ∈ route.group ∨ mark ∈ route.page := by
  have isOneOf : mark = '\n' ∨ mark = '\\' ∨ mark = '\'' ∨ mark = '$' := by
    simpa [needsEscape, or_assoc] using isMark
  have checked :
      (mark.toNat ≤ 94 ∧ mark ≠ '\x00' ∧ mark.isAlpha = false ∧ mark ∉ ("page" : Text)) ∧
      mark ∉ ("package:" : Text) ∧ mark ∉ ("/features/" : Text) ∧ mark ∉ ("/" : Text) ∧
      mark ∉ (".dart" : Text) := by
    obtain rfl | rfl | rfl | rfl := isOneOf <;> decide
  obtain ⟨⟨low, visible, noLetter, notInLayer⟩, fixed⟩ := checked
  have stem : mark ∈ route.fileStem ↔ mark ∈ route.page :=
    mem_layerStem_iff low visible noLetter notInLayer
  change mark ∈ "package:" ++ packageName ++ "/features/" ++ route.group ++ "/" ++ route.fileStem
    ++ ".dart" ↔ _
  simp only [List.mem_append, fixed, stem, false_or, or_false, or_assoc]

theorem needsNoEscape_pageImport_iff {packageName : Text} {route : Route} :
    NeedsNoEscape (pageImport packageName route) ↔
      NeedsNoEscape packageName ∧ NeedsNoEscape route.group ∧ NeedsNoEscape route.page := by
  have parts : ∀ mark, needsEscape mark → (mark ∈ pageImport packageName route ↔
      mark ∈ packageName ∨ mark ∈ route.group ∨ mark ∈ route.page) :=
    fun mark needs => mem_pageImport_iff (.inr needs)
  constructor
  · intro plain
    refine ⟨?_, ?_, ?_⟩
    · intro mark member needs
      exact plain mark ((parts mark needs).mpr (.inl member)) needs
    · intro mark member needs
      exact plain mark ((parts mark needs).mpr (.inr (.inl member))) needs
    · intro mark member needs
      exact plain mark ((parts mark needs).mpr (.inr (.inr member))) needs
  · rintro ⟨package, group, page⟩ mark member needs
    rcases (parts mark needs).mp member with inPackage | inGroup | inPage
    · exact package mark inPackage needs
    · exact group mark inGroup needs
    · exact page mark inPage needs

theorem mem_pageImportsOf_iff {packageName uri : Text} {routes : List Route} :
    uri ∈ pageImportsOf packageName routes ↔
      ∃ route ∈ routes, route.group ≠ [] ∧ pageImport packageName route = uri := by
  rw [pageImportsOf, mem_firsts_id_iff, List.mem_map]
  simp [and_assoc]

end NavigationPlan

theorem RouterView.exists_lines_eq (view : RouterView) :
    ∃ front back, front.length = 7 ∧
      view.lines = front ++ view.customImports ++ view.pageImports.map importLine ++ back := by
  obtain ⟨front, middle, length, imports⟩ : ∃ front middle : List Text, front.length = 7 ∧
      view.importLines = front ++ (view.customImports ++
        (view.pageImports.map importLine ++ (middle ++ []))) := ⟨_, _, rfl, rfl⟩
  refine ⟨front, middle ++ (view.constantLines ++ view.quickLines ++ view.branchOrderLines
    ++ view.gateLines ++ view.authRoutes.flatMap authLines ++ view.shellLines), length, ?_⟩
  rw [lines, imports]
  simp only [List.append_nil, List.append_assoc]

namespace NavigationPlan

/--
Each page import of the router is a line of it. It holds a literal of its URI exactly if nothing in
the URI needs an escape, so all of them do exactly if nothing in the package name and in the groups
and pages of the imported routes needs one.
-/
theorem pageImports_written_iff {routes : List Route} {packageName : Text}
    (options : BuilderOptions) (oneLine : ∀ route ∈ routes, '\n' ∉ route.group ∧ '\n' ∉ route.page)
    (oneLinePackage : '\n' ∉ packageName) :
    let plan := ofRoutes routes packageName
    (∃ front back, front.length = 7 + options.customImports.length ∧
        (plan.view options).lines =
          front ++ plan.pageImports.map RouterView.importLine ++ back) ∧
      (∀ uri ∈ plan.pageImports,
        ImportsUri (RouterView.importLine uri) uri ↔ NeedsNoEscape uri) ∧
      ((∀ uri ∈ plan.pageImports, ImportsUri (RouterView.importLine uri) uri) ↔
        ∀ route ∈ routes, route.group ≠ [] →
          NeedsNoEscape packageName ∧ NeedsNoEscape route.group ∧ NeedsNoEscape route.page) := by
  intro plan
  have written : ∀ uri ∈ plan.pageImports,
      (ImportsUri (RouterView.importLine uri) uri ↔ NeedsNoEscape uri) := by
    intro uri member
    obtain ⟨route, isRoute, -, rfl⟩ := mem_pageImportsOf_iff.mp member
    apply importsUri_importLine_iff
    rw [mem_pageImport_iff (.inl rfl)]
    simp [oneLinePackage, oneLine route isRoute]
  refine ⟨?_, written, ?_⟩
  · obtain ⟨front, back, length, shown⟩ := (plan.view options).exists_lines_eq
    refine ⟨front ++ options.customImports, back, ?_, shown⟩
    rw [List.length_append, length]
  · constructor
    · intro all route isRoute isFeature
      have member : pageImport packageName route ∈ plan.pageImports :=
        mem_pageImportsOf_iff.mpr ⟨route, isRoute, isFeature, rfl⟩
      exact needsNoEscape_pageImport_iff.mp ((written _ member).mp (all _ member))
    · intro all uri member
      obtain ⟨route, isRoute, isFeature, rfl⟩ := mem_pageImportsOf_iff.mp member
      exact (written _ member).mpr (needsNoEscape_pageImport_iff.mpr (all route isRoute isFeature))

/-- A group without marks, and one whose quote ends the literal of its page early. -/
def quotedRoutes : List Route :=
  [⟨"shop", "/", "CartPage", false⟩, ⟨"it's", "/", "CartPage", false⟩]

theorem pageImports_quotedRoutes :
    (ofRoutes quotedRoutes "app").pageImports =
      ["package:app/features/shop/cart_page.dart", "package:app/features/it's/cart_page.dart"] := by
  decide +kernel

theorem pageImports_written_iff_quoted :
    ImportsUri (RouterView.importLine "package:app/features/shop/cart_page.dart")
        "package:app/features/shop/cart_page.dart" ∧
      ¬ ImportsUri (RouterView.importLine "package:app/features/it's/cart_page.dart")
        "package:app/features/it's/cart_page.dart" := by
  have oneLine : ∀ route ∈ quotedRoutes, '\n' ∉ route.group ∧ '\n' ∉ route.page := by decide
  have written := (@pageImports_written_iff _ "app" .default oneLine (by decide)).2.1
  rw [pageImports_quotedRoutes] at written
  constructor
  · exact (written _ List.mem_cons_self).mpr (by decide)
  · intro imports
    have plain := (written _ (List.mem_cons_of_mem _ List.mem_cons_self)).mp imports
    exact plain '\'' (by decide) rfl

/-- Routes on one line have a page import that holds no literal of its URI. -/
theorem not_forall_pageImports_written :
    ¬ ∀ (routes : List Route) (packageName : Text),
      (∀ route ∈ routes, '\n' ∉ route.group ∧ '\n' ∉ route.path ∧ '\n' ∉ route.page) →
      '\n' ∉ packageName →
      ∀ uri ∈ (ofRoutes routes packageName).pageImports,
        ImportsUri (RouterView.importLine uri) uri := by
  intro claim
  have written := claim quotedRoutes "app" (by decide) (by decide)
    "package:app/features/it's/cart_page.dart" (by rw [pageImports_quotedRoutes]; decide)
  exact (importsUri_importLine_iff (by decide)).mp written '\'' (by decide) rfl

end NavigationPlan

end DartRoutes
