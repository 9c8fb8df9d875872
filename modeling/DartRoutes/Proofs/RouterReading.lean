import DartRoutes.Proofs.LineReading
import DartRoutes.Proofs.ReferenceValue

/-!
# Reading the router source

One decoder for every router source, line by line. A section is found by its opening line, and a
list of items ends at its closing line. Paths are read as literals, which stay on their lines, so
that no path can pass for a line of another kind. Each reader takes exactly the lines that are
written for its item.
-/

namespace DartRoutes

namespace Text

/-- The text between a beginning and an ending. -/
def between? (beginning ending text : Text) : Option Text :=
  (withoutBeginning? beginning text).bind (withoutEnding? ending)

theorem between?_append (beginning content ending : Text) :
    between? beginning ending (beginning ++ content ++ ending) = some content := by
  have start : withoutBeginning? beginning (beginning ++ content ++ ending) =
      some (content ++ ending) :=
    withoutBeginning?_eq_some_iff.mpr (List.append_assoc _ _ _)
  have ended : ending.isSuffixOf (content ++ ending) = true :=
    List.isSuffixOf_iff_suffix.mpr (List.suffix_append content ending)
  rw [between?, start, Option.bind_some, withoutEnding?, if_pos ended, List.length_append,
    Nat.add_sub_cancel, List.take_left]

end Text

/-- What a router source says: its constants, its lists and its routes. -/
structure RouterReading where
  constants : List (Text × Text)
  quickEntries : List QuickEntry
  branchRefs : List Text
  authRoutes : List MountedRoute
  branches : List MountedBranch
  deriving DecidableEq, Repr

/-- How the builder of a page is written: its opening line where the page needs parameters, and what
stands around the page with parameters and without. -/
structure PageForm where
  opening : Text
  paramsBeginning : Text
  paramsEnding : Text
  plainBeginning : Text
  plainEnding : Text
  apart : ¬ plainBeginning <+: opening := by decide
  fitsLine : ∀ text ∈ [opening, paramsBeginning, paramsEnding, plainBeginning, plainEnding],
    '\n' ∉ text := by decide

namespace RouterReading

open LineReader

def constant? (text : Text) : Option (Text × Text) := do
  let declared ← Text.between? "  static const String " ";" text
  let literal ← Text.withoutBeginning? " = " (declared.dropWhile (· != ' '))
  let path ← literalValue? literal
  return (declared.takeWhile (· != ' '), path)

def quickReference? (text : Text) : Option QuickEntry := do
  let expression ← Text.between? "    " "," text
  match Text.withoutBeginning? "RouteNames." expression with
  | some name => return .constant name
  | none => return .location (← literalValue? expression)

def loginForm : PageForm where
  opening := "builder: (context, state) \x7b"
  paramsBeginning := "  return "
  paramsEnding := "(params: params);"
  plainBeginning := "builder: (context, state) => const "
  plainEnding := "(),"

def shellForm : PageForm where
  opening := "pageBuilder: (context, state) \x7b"
  paramsBeginning := "  return NoTransitionPage(child: "
  paramsEnding := "(params: params));"
  plainBeginning := "pageBuilder: (context, state) => NoTransitionPage(child: const "
  plainEnding := "()),"

/-- The page of a route and its need for parameters. -/
def page (indent : Text) (form : PageForm) : LineReader (Text × Bool) := do
  let first ← line some
  if first = indent ++ form.opening then
    skipPast (indent ++ "  final params = (state.extra as Map<String, dynamic>?) ?? \x7b\x7d;")
    let page ← line (Text.between? (indent ++ form.paramsBeginning) form.paramsEnding)
    skipPast (indent ++ "\x7d,")
    return (page, true)
  else
    let page ← Text.between? (indent ++ form.plainBeginning) form.plainEnding first
    return (page, false)

/-- A route up to its page. -/
def goRoute (indent : Text) (form : PageForm) : LineReader MountedRoute := do
  skipPast (indent ++ "GoRoute(")
  let path ← line fun text => (Text.between? (indent ++ "  path: ") "," text).bind literalValue?
  let (page, hasParams) ← page (indent ++ "  ") form
  return ⟨path, page, hasParams⟩

def loginRoute : LineReader MountedRoute := do
  let route ← goRoute "    " loginForm
  skipPast "    ),"
  return route

def child : LineReader MountedRoute := do
  let route ← goRoute "                " shellForm
  skipPast "                ),"
  return route

/-- The children of a route, and the end of the route. -/
def children : LineReader (List MountedRoute) := do
  let first ← line some
  if first = "              routes: [" then
    let children ← itemsUntil "              ]," child
    skipPast "            ),"
    return children
  else return []

def branch : LineReader MountedBranch := do
  skipPast "          routes: ["
  let root ← goRoute "            " shellForm
  let children ← children
  skipPast "        ),"
  return ⟨root, children⟩

def ofLines? : LineReader RouterReading := do
  skipPast "class RouteNames \x7b"
  let constants ← itemsUntil "\x7d" (line constant?)
  skipPast "  static const List<String> routes = ["
  let quickEntries ← itemsUntil "  ];" (line quickReference?)
  skipPast "  static const List<String> branchRootPaths = ["
  let branchRefs ← itemsUntil "  ];" (line (Text.between? "    " ","))
  skipPast "  routes: ["
  let authRoutes ← itemsUntil "    StatefulShellRoute.indexedStack(" loginRoute
  skipPast "      branches: ["
  let branches ← itemsUntil "      ]," branch
  return ⟨constants, quickEntries, branchRefs, authRoutes, branches⟩

/-- The decoder. -/
def ofSource? (source : Text) : Option RouterReading :=
  Prod.fst <$> ofLines? (source.splitOn '\n')

theorem constant?_constantLine {name : Text} (spaceless : ' ' ∉ name) (path : Text) :
    constant? (RouterView.constantLine (name, path)) = some (name, path) := by
  have written : RouterView.constantLine (name, path) =
      "  static const String " ++ name ++ " = " ++ dartLiteral path ++ ";" := rfl
  have shape : RouterView.constantLine (name, path) =
      "  static const String " ++ (name ++ (" = " ++ dartLiteral path)) ++ ";" := by
    rw [written]
    simp only [List.append_assoc]
  have blank : (" = " ++ dartLiteral path : Text) = ' ' :: '=' :: ' ' :: dartLiteral path := rfl
  have inName : ∀ character ∈ name, (character != ' ') = true :=
    fun character member => bne_iff_ne.mpr fun same => spaceless (same ▸ member)
  have literal : Text.withoutBeginning? " = " (' ' :: '=' :: ' ' :: dartLiteral path) =
      some (dartLiteral path) := Text.withoutBeginning?_eq_some_iff.mpr rfl
  rw [constant?, shape, Text.between?_append, Option.bind_eq_bind, Option.bind_some, blank,
    List.dropWhile_append_of_pos inName, List.takeWhile_append_of_pos inName,
    List.dropWhile_cons_of_neg (by decide), List.takeWhile_cons_of_neg (by decide),
    List.append_nil, literal, Option.bind_some, literalValue?_dartLiteral]
  rfl

theorem quickReference?_quickLine (entry : QuickEntry) :
    quickReference? (RouterView.quickLine entry) = some entry := by
  rw [quickReference?, RouterView.quickLine_eq, Text.between?_append, Option.bind_eq_bind,
    Option.bind_some]
  cases entry with
  | constant name =>
      have named : Text.withoutBeginning? "RouteNames." (constantRef name) = some name :=
        Text.withoutBeginning?_eq_some_iff.mpr rfl
      rw [QuickEntry.expression, named]
      rfl
  | location path =>
      have unnamed : Text.withoutBeginning? "RouteNames." (dartLiteral path) = none := rfl
      rw [QuickEntry.expression, unnamed, literalValue?_dartLiteral]
      rfl

/-- The lines that say the page of a route in a form. -/
def pageLines (indent : Text) (form : PageForm) (route : MountedRoute) : List Text :=
  if route.hasParams then
    [indent ++ form.opening,
      indent ++ "  final params = (state.extra as Map<String, dynamic>?) ?? \x7b\x7d;",
      indent ++ form.paramsBeginning ++ route.page ++ form.paramsEnding, indent ++ "\x7d,"]
  else [indent ++ form.plainBeginning ++ route.page ++ form.plainEnding]

theorem reads_page (indent : Text) (form : PageForm) (route : MountedRoute) :
    Reads (page indent form) (pageLines indent form route) (route.page, route.hasParams) := by
  rw [pageLines]
  cases route.hasParams with
  | true =>
      refine .step (.line rfl) ?_
      rw [if_pos rfl]
      exact .step (.skip _) (.step (.line (Text.between?_append _ _ _))
        (.step (.skip _) (.pure _)))
  | false =>
      have other : indent ++ form.plainBeginning ++ route.page ++ form.plainEnding ≠
          indent ++ form.opening := by
        rw [List.append_assoc, List.append_assoc]
        intro same
        exact form.apart ⟨_, List.append_cancel_left same⟩
      refine .step (.line rfl) ?_
      rw [if_neg other]
      exact (Reads.lift (Text.between?_append _ _ _)).bind (.pure _)

/-- The lines of a route up to its page. -/
def goRouteLines (indent : Text) (form : PageForm) (route : MountedRoute) : List Text :=
  (indent ++ "GoRoute(") :: (indent ++ "  path: " ++ dartLiteral route.path ++ ",") ::
    pageLines (indent ++ "  ") form route

theorem reads_goRoute (indent : Text) (form : PageForm) (route : MountedRoute) :
    Reads (goRoute indent form) (goRouteLines indent form route) route := by
  have path : (Text.between? (indent ++ "  path: ") ","
      (indent ++ "  path: " ++ dartLiteral route.path ++ ",")).bind literalValue? =
        some route.path := by
    rw [Text.between?_append]
    exact literalValue?_dartLiteral route.path
  rw [goRouteLines, ← List.append_nil (pageLines _ _ _)]
  exact .step (.skip _) (.step (.line path) ((reads_page _ _ _).bind (.pure _)))

theorem authLines_eq (route : MountedRoute) :
    RouterView.authLines route = goRouteLines "    " loginForm route ++ [("    )," : Text)] := by
  rw [RouterView.authLines, goRouteLines, pageLines]
  cases route.hasParams with
  | true => rfl
  | false => rfl

theorem shellPageLines_eq (indent : Text) (route : MountedRoute) :
    RouterView.pageLines indent route = pageLines indent shellForm route :=
  rfl

theorem childLines_eq (route : MountedRoute) :
    RouterView.childLines route =
      goRouteLines "                " shellForm route ++ [("                )," : Text)] := by
  rw [RouterView.childLines, goRouteLines, shellPageLines_eq]
  simp only [List.flatten_cons, List.flatten_nil, List.append_nil, List.cons_append,
    List.nil_append]
  rfl

/-- The lines from the children of a branch to the end of its root. -/
def childrenLines (children : List MountedRoute) : List Text :=
  if children.isEmpty then ["            ),"]
  else
    "              routes: [" :: (children.flatMap RouterView.childLines ++
      (["              ],", "            ),"] : List Text))

theorem branchLines_eq (branch : MountedBranch) :
    RouterView.branchLines branch =
      (["        StatefulShellBranch(", "          navigatorKey: GlobalKey<NavigatorState>(),",
        "          routes: ["] : List Text) ++
        (goRouteLines "            " shellForm branch.root ++
          (childrenLines branch.children ++ (["          ],", "        ),"] : List Text))) := by
  rw [RouterView.branchLines, goRouteLines, shellPageLines_eq, childrenLines]
  simp only [List.flatten_cons, List.flatten_nil, List.append_nil, List.cons_append,
    List.nil_append]
  cases branch.children.isEmpty with
  | true => rfl
  | false =>
      rw [if_neg Bool.false_ne_true, if_neg Bool.false_ne_true]
      simp only [List.append_assoc, List.cons_append, List.nil_append]
      rfl

theorem reads_loginRoute (route : MountedRoute) :
    Reads loginRoute (RouterView.authLines route) route := by
  rw [authLines_eq]
  exact (reads_goRoute _ _ _).bind (.step (.skip _) (.pure _))

theorem reads_child (route : MountedRoute) :
    Reads child (RouterView.childLines route) route := by
  rw [childLines_eq]
  exact (reads_goRoute _ _ _).bind (.step (.skip _) (.pure _))

theorem childLines_starts (route : MountedRoute) :
    ∃ first more, RouterView.childLines route = first :: more ∧ first ≠ "              ]," :=
  ⟨_, _, childLines_eq route, by decide⟩

theorem reads_children (routes : List MountedRoute) :
    Reads children (childrenLines routes) routes := by
  rw [childrenLines]
  cases routes with
  | nil =>
      refine .step (.line rfl) ?_
      rw [if_neg (by decide)]
      exact .pure _
  | cons route others =>
      have peopled : ¬ (route :: others).isEmpty = true := Bool.false_ne_true
      have items : Reads (itemsUntil "              ]," child) _ (route :: others) :=
        .itemsUntil (fun other _ => reads_child other) fun other _ => childLines_starts other
      rw [if_neg peopled, List.append_cons]
      refine .step (.line rfl) ?_
      rw [if_pos rfl]
      exact items.bind (.step (.skip _) (.pure _))

theorem reads_branch (branch : MountedBranch) :
    Reads RouterReading.branch (RouterView.branchLines branch) branch := by
  have foreign : ("          routes: [" : Text) ∉ (["        StatefulShellBranch(",
      "          navigatorKey: GlobalKey<NavigatorState>(),"] : List Text) := by
    decide
  rw [branchLines_eq]
  refine (Reads.skipPast foreign).bind ((reads_goRoute _ _ _).bind ((reads_children _).bind ?_))
  have foreign : ("        )," : Text) ∉ (["          ],"] : List Text) := by decide
  exact (Reads.skipPast foreign).bind (.pure _)

end RouterReading

end DartRoutes
