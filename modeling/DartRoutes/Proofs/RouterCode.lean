import DartRoutes.Proofs.SourceCode
import Mathlib.Data.List.Basic

/-!
# Code of the router source

Which constants the text of a router refers to and which it declares, when the names in its view
are identifiers. Paths may hold anything, because they stand in literals. Each section of the text
is judged by its lines, and most lines hold no point, so that no reference can stand in them.
-/

namespace DartRoutes

def IsName (text : Text) : Prop :=
  ∀ character ∈ text, isNamePart character = true

instance (text : Text) : Decidable (IsName text) :=
  decidable_of_iff (text.all isNamePart = true) List.all_eq_true

theorem IsName.not_mem {name : Text} (isName : IsName name) {character : Char}
    (noPart : isNamePart character = false) : character ∉ name :=
  fun member => Bool.noConfusion (noPart.symm.trans (isName character member))

/-- Does the text end no literal that it is written into as it is? -/
def StaysQuoted (text : Text) : Prop :=
  ∀ character ∈ text, character ≠ '\'' ∧ character ≠ '\\'

namespace StaysQuoted

theorem append {left right : Text} (first : StaysQuoted left) (second : StaysQuoted right) :
    StaysQuoted (left ++ right) :=
  List.forall_mem_append.mpr ⟨first, second⟩

theorem ofList {characters : List Char}
    (checked : characters.all (fun character => character != '\'' && character != '\\') = true) :
    StaysQuoted (String.ofList characters).toList := by
  rw [String.toList_ofList]
  intro character member
  have quoted := List.all_eq_true.mp checked character member
  rw [Bool.and_eq_true, bne_iff_ne, bne_iff_ne] at quoted
  exact quoted

theorem of_isName {name : Text} (isName : IsName name) : StaysQuoted name :=
  fun _ member => ⟨ne_of_mem_of_not_mem member (isName.not_mem rfl),
    ne_of_mem_of_not_mem member (isName.not_mem rfl)⟩

theorem escapes {text : Text} (quoted : StaysQuoted text) : Layout.Escapes '\'' text text := by
  induction text with
  | nil => exact .nil
  | cons character text induction =>
      obtain ⟨first, others⟩ := List.forall_mem_cons.mp quoted
      exact .plain first.1 first.2 (induction others)

end StaysQuoted

/-- The names that the lines refer to, each line read by itself. -/
structure Mentions (lines names : List Text) : Prop where
  closed : ∀ line ∈ lines, Region.outside.after line = .outside
  single : ∀ line ∈ lines, '\n' ∉ Region.outside.code line
  names_eq : (lines.flatMap fun line => referencesIn (Region.outside.code line)) = names

instance (lines names : List Text) : Decidable (Mentions lines names) :=
  decidable_of_iff
    ((∀ line ∈ lines, Region.outside.after line = .outside) ∧
      (∀ line ∈ lines, '\n' ∉ Region.outside.code line) ∧
      (lines.flatMap fun line => referencesIn (Region.outside.code line)) = names)
    ⟨fun ⟨closed, single, names_eq⟩ => ⟨closed, single, names_eq⟩,
      fun ⟨closed, single, names_eq⟩ => ⟨closed, single, names_eq⟩⟩

/-- Is the character plain code that stands in no reference? -/
def joinsNothing (character : Char) : Bool :=
  !isNamePart character && character != '.' && character != '\'' && character != '\n'

namespace Mentions

theorem nil : Mentions [] [] :=
  ⟨nofun, nofun, rfl⟩

theorem append {left right leftNames rightNames : List Text} (first : Mentions left leftNames)
    (second : Mentions right rightNames) :
    Mentions (left ++ right) (leftNames ++ rightNames) := by
  constructor
  · exact List.forall_mem_append.mpr ⟨first.closed, second.closed⟩
  · exact List.forall_mem_append.mpr ⟨first.single, second.single⟩
  · rw [List.flatMap_append, first.names_eq, second.names_eq]

theorem behind {left right names : List Text} (silent : Mentions left [])
    (mentions : Mentions right names) : Mentions (left ++ right) names :=
  silent.append mentions

theorem before {left right names : List Text} (mentions : Mentions left names)
    (silent : Mentions right []) : Mentions (left ++ right) names := by
  have joined := mentions.append silent
  rwa [List.append_nil] at joined

theorem cons {line : Text} {lines names : List Text} (silent : Mentions [line] [])
    (mentions : Mentions lines names) : Mentions (line :: lines) names :=
  silent.append mentions

theorem cons_reference {line name : Text} {lines names : List Text}
    (reference : Mentions [line] [name]) (mentions : Mentions lines names) :
    Mentions (line :: lines) (name :: names) :=
  reference.append mentions

theorem ofList {characters : List Char} {names : List Text}
    (mentions : Mentions [characters] names) :
    Mentions [(String.ofList characters).toList] names := by
  rw [String.toList_ofList]
  exact mentions

theorem flatMap {α : Type} {items : List α} {lines names : α → List Text}
    (each : ∀ item ∈ items, Mentions (lines item) (names item)) :
    Mentions (items.flatMap lines) (items.flatMap names) := by
  induction items with
  | nil => exact nil
  | cons item items induction =>
      obtain ⟨first, others⟩ := List.forall_mem_cons.mp each
      exact first.append (induction others)

theorem map {α : Type} {items : List α} {line : α → Text} {names : α → List Text}
    (each : ∀ item ∈ items, Mentions [line item] (names item)) :
    Mentions (items.map line) (items.flatMap names) := by
  rw [List.map_eq_flatMap]
  exact flatMap each

theorem silent_flatMap {α : Type} {items : List α} {lines : α → List Text}
    (each : ∀ item ∈ items, Mentions (lines item) []) : Mentions (items.flatMap lines) [] := by
  have silent := flatMap each
  rwa [List.flatMap_eq_nil_iff.mpr fun _ _ => rfl] at silent

theorem silent_map {α : Type} {items : List α} {line : α → Text}
    (each : ∀ item ∈ items, Mentions [line item] []) : Mentions (items.map line) [] := by
  rw [List.map_eq_flatMap]
  exact silent_flatMap each

theorem of_hasCode {line code : Text} (has : HasCode line code) (single : '\n' ∉ code) :
    Mentions [line] (referencesIn code) := by
  constructor
  · exact List.forall_mem_singleton.mpr has.closed
  · exact List.forall_mem_singleton.mpr (has.code_eq ▸ single)
  · rw [List.flatMap_singleton, has.code_eq]

theorem join {left right : Text} {leftNames rightNames : List Text} {separator : Char}
    (separates : joinsNothing separator = true) (first : Mentions [left] leftNames)
    (second : Mentions [right] rightNames) :
    Mentions [left ++ separator :: right] (leftNames ++ rightNames) := by
  simp only [joinsNothing, Bool.and_eq_true, Bool.not_eq_true', bne_iff_ne] at separates
  obtain ⟨⟨⟨noPart, noPoint⟩, noQuote⟩, noFeed⟩ := separates
  have leftClosed := List.forall_mem_singleton.mp first.closed
  have leftSingle := List.forall_mem_singleton.mp first.single
  have rightClosed := List.forall_mem_singleton.mp second.closed
  have rightSingle := List.forall_mem_singleton.mp second.single
  have leftNames_eq := first.names_eq
  have rightNames_eq := second.names_eq
  rw [List.flatMap_singleton] at leftNames_eq rightNames_eq
  have step : Region.outside.next separator = .outside := if_neg noQuote
  have code : Region.outside.code (left ++ separator :: right) =
      Region.outside.code left ++ separator :: Region.outside.code right := by
    rw [Region.code_append, leftClosed, Region.code, if_pos (.inl rfl), step]
  constructor
  · refine List.forall_mem_singleton.mpr ?_
    rw [Region.after_append, leftClosed, Region.after, List.foldl_cons, step]
    exact rightClosed
  · refine List.forall_mem_singleton.mpr ?_
    rw [code, List.mem_append, List.mem_cons]
    rintro (member | same | member)
    · exact leftSingle member
    · exact noFeed same.symm
    · exact rightSingle member
  · rw [List.flatMap_singleton, code, referencesIn_append_cons noPart noPoint, leftNames_eq,
      rightNames_eq]

end Mentions

/-- A piece of a line with no point in its code. -/
structure IsQuiet (piece : Text) : Prop where
  closed : Region.outside.after piece = .outside
  single : '\n' ∉ Region.outside.code piece
  noPoint : '.' ∉ Region.outside.code piece

instance (piece : Text) : Decidable (IsQuiet piece) :=
  decidable_of_iff
    (Region.outside.after piece = .outside ∧ '\n' ∉ Region.outside.code piece ∧
      '.' ∉ Region.outside.code piece)
    ⟨fun ⟨closed, single, noPoint⟩ => ⟨closed, single, noPoint⟩,
      fun ⟨closed, single, noPoint⟩ => ⟨closed, single, noPoint⟩⟩

namespace IsQuiet

theorem ofList {characters : List Char} (quiet : IsQuiet characters) :
    IsQuiet (String.ofList characters).toList := by
  rw [String.toList_ofList]
  exact quiet

theorem append {left right : Text} (first : IsQuiet left) (second : IsQuiet right) :
    IsQuiet (left ++ right) := by
  have code : Region.outside.code (left ++ right) =
      Region.outside.code left ++ Region.outside.code right := by
    rw [Region.code_append, first.closed]
  constructor
  · rw [Region.after_append, first.closed]
    exact second.closed
  · rw [code]
    exact fun member => (List.mem_append.mp member).elim first.single second.single
  · rw [code]
    exact fun member => (List.mem_append.mp member).elim first.noPoint second.noPoint

theorem fill {head tail : List Char} {piece : Text} (headQuiet : IsQuiet head)
    (quiet : IsQuiet piece) (tailQuiet : IsQuiet tail) :
    IsQuiet ((String.ofList head).toList ++ piece ++ (String.ofList tail).toList) :=
  (headQuiet.ofList.append quiet).append tailQuiet.ofList

theorem of_hasCode {piece code : Text} (has : HasCode piece code) (single : '\n' ∉ code)
    (noPoint : '.' ∉ code) : IsQuiet piece :=
  ⟨has.closed, has.code_eq ▸ single, has.code_eq ▸ noPoint⟩

theorem dartLiteral (content : Text) : IsQuiet (dartLiteral content) :=
  of_hasCode (.dartLiteral content) (by decide) (by decide)

theorem of_isName {name : Text} (isName : IsName name) : IsQuiet name :=
  of_hasCode (.plain (isName.not_mem rfl)) (isName.not_mem rfl) (isName.not_mem rfl)

theorem mentions {line : Text} (quiet : IsQuiet line) : Mentions [line] [] := by
  have mentioned := Mentions.of_hasCode ⟨quiet.closed, rfl⟩ quiet.single
  rwa [referencesIn_eq_nil quiet.noPoint] at mentioned

end IsQuiet

def QuickEntry.names : QuickEntry → List Text
  | .constant name => [name]
  | .location _ => []

namespace RouterView

/-- The names in the view are identifiers, the page imports stay in their quotes, and no line is
written verbatim. -/
structure IsNamed (view : RouterView) : Prop where
  customImports : view.customImports = []
  pageImports : ∀ uri ∈ view.pageImports, StaysQuoted uri
  constants : ∀ constant ∈ view.constants, IsName constant.1
  quickEntries : ∀ name, QuickEntry.constant name ∈ view.quickEntries → IsName name
  branchRefs : ∀ reference ∈ view.branchRefs,
    reference = "'/'" ∨ ∃ name, IsName name ∧ reference = "RouteNames." ++ name
  fallbackPage : IsName view.fallbackPage
  shellWidget : IsName view.shellWidget
  authRoutes : ∀ route ∈ view.authRoutes, IsName route.page
  branches : ∀ branch ∈ view.branches,
    IsName branch.root.page ∧ ∀ child ∈ branch.children, IsName child.page

variable {view : RouterView}

theorem pageImport_hasCode {uri : Text} (quoted : StaysQuoted uri) :
    HasCode ("import '" ++ uri ++ "';") ("import " ++ "''" ++ ";") := by
  have shape : ("import '" ++ uri ++ "';" : Text) =
      "import " ++ ('\'' :: uri ++ ['\'']) ++ ";" := by
    simp
  rw [shape]
  exact .append (.append (.ofList (by decide)) (.escapes quoted.escapes)) (.ofList (by decide))

-- In each section the fixed lines are judged one by one, and what is left are the lines that
-- depend on the view.

theorem importLines_mentions (named : view.IsNamed) : Mentions view.importLines [] := by
  rw [importLines, named.customImports]
  simp only [List.flatten_cons, List.flatten_nil, List.nil_append, List.append_nil,
    List.cons_append]
  repeat refine .cons (.ofList (by decide)) ?_
  refine .behind ?_ ?_
  · apply Mentions.silent_map
    intro uri member
    have has := pageImport_hasCode (named.pageImports uri member)
    exact (IsQuiet.of_hasCode has (by decide) (by decide)).mentions
  · repeat refine .cons (.ofList (by decide)) ?_
    exact .nil

theorem constantLine_isQuiet {constant : Text × Text} (isName : IsName constant.1) :
    IsQuiet (constantLine constant) := by
  have declared : IsQuiet ("  static const String " ++ constant.1 ++ " = ") :=
    .fill (by decide) (.of_isName isName) (by decide)
  exact .append (declared.append (.dartLiteral _)) (.ofList (by decide))

theorem constantLines_mentions (named : view.IsNamed) : Mentions view.constantLines [] := by
  rw [constantLines]
  simp only [List.flatten_cons, List.flatten_nil, List.append_nil, List.cons_append,
    List.nil_append]
  refine .cons (.ofList (by decide)) (.behind ?_ ?_)
  · apply Mentions.silent_map
    intro constant member
    exact (constantLine_isQuiet (named.constants constant member)).mentions
  · repeat refine .cons (.ofList (by decide)) ?_
    exact .nil

theorem reference_mentions {name : Text} (isName : IsName name) :
    Mentions ["    " ++ ("RouteNames." ++ name) ++ ","] [name] := by
  have foreign (character : Char) (noPart : isNamePart character = false)
      (noMarker : character ∉ ("RouteNames." : Text)) :
      character ∉ ("RouteNames." ++ name : Text) := by
    exact List.not_mem_append noMarker (isName.not_mem noPart)
  have reference : Mentions ["RouteNames." ++ name] [name] := by
    have mentions := Mentions.of_hasCode (.plain (foreign '\'' rfl (by decide)))
      (foreign '\n' rfl (by decide))
    rwa [referencesIn_routeNames isName] at mentions
  have indent : Mentions ["   "] [] := .ofList (by decide)
  have ending : Mentions [[]] [] := by decide
  exact (indent.join (by rfl) reference).join (by rfl) ending

theorem quickLines_mentions (named : view.IsNamed) :
    Mentions view.quickLines (view.quickEntries.flatMap QuickEntry.names) := by
  rw [quickLines]
  simp only [List.flatten_cons, List.flatten_nil, List.append_nil, List.cons_append,
    List.nil_append]
  repeat refine .cons (.ofList (by decide)) ?_
  refine .before ?_ ?_
  · apply Mentions.map
    intro entry member
    cases entry with
    | constant name => exact reference_mentions (named.quickEntries name member)
    | location path =>
        have quiet : IsQuiet (quickLine (.location path)) :=
          .fill (by decide) (.dartLiteral path) (by decide)
        exact quiet.mentions
  · repeat refine .cons (.ofList (by decide)) ?_
    exact .nil

/-- The name that an expression of the branch order refers to. -/
def referenceNames (reference : Text) : List Text :=
  (Text.withoutBeginning? "RouteNames." reference).toList

theorem referenceNames_routeNames (name : Text) :
    referenceNames ("RouteNames." ++ name) = [name] :=
  congrArg Option.toList (Text.withoutBeginning?_eq_some_iff.mpr rfl)

theorem branchOrderLines_mentions (named : view.IsNamed) :
    Mentions view.branchOrderLines (view.branchRefs.flatMap referenceNames) := by
  have widget : IsQuiet ("/// Used by " ++ view.shellWidget) :=
    .append (.ofList (by decide)) (.of_isName named.shellWidget)
  have behind : Mentions ["to map a location to its navigation index."] [] :=
    .ofList (by decide)
  have comment : Mentions
      ["/// Used by " ++ view.shellWidget ++ " to map a location to its navigation index."] [] :=
    widget.mentions.join (by rfl) behind
  rw [branchOrderLines]
  simp only [List.flatten_cons, List.flatten_nil, List.append_nil, List.cons_append,
    List.nil_append]
  refine .cons (.ofList (by decide)) (.cons comment ?_)
  repeat refine .cons (.ofList (by decide)) ?_
  refine .before ?_ ?_
  · apply Mentions.map
    intro reference member
    rcases named.branchRefs reference member with rfl | ⟨name, isName, rfl⟩
    · have quiet : IsQuiet ("    " ++ "'/'" ++ ",") :=
        .fill (by decide) (.ofList (by decide)) (by decide)
      exact quiet.mentions
    · rw [referenceNames_routeNames]
      exact reference_mentions isName
  · repeat refine .cons (.ofList (by decide)) ?_
    exact .nil

def gateReferences : List Text :=
  ["auth", "auth", "home"]

theorem gateLines_mentions (named : view.IsNamed) :
    Mentions view.gateLines gateReferences := by
  have page : IsQuiet ("  errorBuilder: (context, state) => " ++ view.fallbackPage) :=
    .append (.ofList (by decide)) (.of_isName named.fallbackPage)
  have behind : Mentions ["missingRoute: state.uri.toString()),"] [] :=
    .ofList (by decide)
  have fallback : Mentions ["  errorBuilder: (context, state) => " ++ view.fallbackPage
      ++ "(missingRoute: state.uri.toString()),"] [] :=
    page.mentions.join (by rfl) behind
  rw [gateLines, gateReferences]
  repeat refine .cons (.ofList (by decide)) ?_
  refine .cons_reference (.ofList (by decide)) ?_
  repeat refine .cons (.ofList (by decide)) ?_
  refine .cons_reference (.ofList (by decide)) ?_
  repeat refine .cons (.ofList (by decide)) ?_
  refine .cons_reference (.ofList (by decide)) ?_
  repeat refine .cons (.ofList (by decide)) ?_
  exact .cons fallback (.ofList (by decide))

theorem authLines_mentions {route : MountedRoute} (isName : IsName route.page) :
    Mentions (authLines route) [] := by
  have path : IsQuiet ("      path: " ++ dartLiteral route.path ++ ",") :=
    .fill (by decide) (.dartLiteral _) (by decide)
  have opened : IsQuiet ("        return " ++ route.page ++ "(params: params);") :=
    .fill (by decide) (.of_isName isName) (by decide)
  have plain : IsQuiet ("      builder: (context, state) => const " ++ route.page ++ "(),") :=
    .fill (by decide) (.of_isName isName) (by decide)
  rw [authLines]
  simp only [List.flatten_cons, List.flatten_nil, List.append_nil, List.cons_append,
    List.nil_append]
  refine .cons (.ofList (by decide)) (.cons path.mentions (.behind ?_ ?_))
  · split
    · repeat refine .cons (.ofList (by decide)) ?_
      exact .cons opened.mentions (.ofList (by decide))
    · exact plain.mentions
  · exact .ofList (by decide)

theorem pageLines_mentions {indent : Text} {route : MountedRoute} (quiet : IsQuiet indent)
    (isName : IsName route.page) : Mentions (pageLines indent route) [] := by
  have page : IsQuiet route.page := .of_isName isName
  rw [pageLines]
  split
  · have head : IsQuiet (indent ++ "pageBuilder: (context, state) \x7b") :=
      quiet.append (.ofList (by decide))
    have behind : Mentions
        [" final params = (state.extra as Map<String, dynamic>?) ?? \x7b\x7d;"] [] :=
      .ofList (by decide)
    have parameters : Mentions
        [indent ++ "  final params = (state.extra as Map<String, dynamic>?) ?? \x7b\x7d;"] [] :=
      quiet.mentions.join (by rfl) behind
    have opening : IsQuiet (indent ++ "  return NoTransitionPage(child: ") :=
      quiet.append (.ofList (by decide))
    have opened : IsQuiet
        (indent ++ "  return NoTransitionPage(child: " ++ route.page ++ "(params: params));") :=
      (opening.append page).append (.ofList (by decide))
    have tail : IsQuiet (indent ++ "\x7d,") := quiet.append (.ofList (by decide))
    exact .cons head.mentions (.cons parameters (.cons opened.mentions tail.mentions))
  · have opening : IsQuiet
        (indent ++ "pageBuilder: (context, state) => NoTransitionPage(child: const ") :=
      quiet.append (.ofList (by decide))
    have line : IsQuiet (indent ++ "pageBuilder: (context, state) => NoTransitionPage(child: const "
        ++ route.page ++ "()),") :=
      (opening.append page).append (.ofList (by decide))
    exact line.mentions

theorem childLines_mentions {route : MountedRoute} (isName : IsName route.page) :
    Mentions (childLines route) [] := by
  have path : IsQuiet ("                  path: " ++ dartLiteral route.path ++ ",") :=
    .fill (by decide) (.dartLiteral _) (by decide)
  rw [childLines]
  simp only [List.flatten_cons, List.flatten_nil, List.append_nil, List.cons_append,
    List.nil_append]
  refine .cons (.ofList (by decide)) (.cons path.mentions (.behind ?_ ?_))
  · exact pageLines_mentions (.ofList (by decide)) isName
  · exact .ofList (by decide)

theorem branchLines_mentions {branch : MountedBranch} (isName : IsName branch.root.page)
    (children : ∀ child ∈ branch.children, IsName child.page) :
    Mentions (branchLines branch) [] := by
  have path : IsQuiet ("              path: " ++ dartLiteral branch.root.path ++ ",") :=
    .fill (by decide) (.dartLiteral _) (by decide)
  rw [branchLines]
  simp only [List.flatten_cons, List.flatten_nil, List.append_nil, List.cons_append,
    List.nil_append]
  repeat refine .cons (.ofList (by decide)) ?_
  refine .cons path.mentions (.behind ?_ (.behind ?_ ?_))
  · exact pageLines_mentions (.ofList (by decide)) isName
  · split
    · exact .nil
    · refine .cons (.ofList (by decide)) (.behind ?_ ?_)
      · exact .silent_flatMap fun child member => childLines_mentions (children child member)
      · exact .ofList (by decide)
  · repeat refine .cons (.ofList (by decide)) ?_
    exact .nil

theorem shellLines_mentions (named : view.IsNamed) : Mentions view.shellLines [] := by
  have builder : IsQuiet ("      builder: (context, state, shell) => " ++ view.shellWidget
      ++ "(navigationShell: shell),") :=
    .fill (by decide) (.of_isName named.shellWidget) (by decide)
  rw [shellLines]
  simp only [List.flatten_cons, List.flatten_nil, List.append_nil, List.cons_append,
    List.nil_append]
  refine .cons (.ofList (by decide)) (.cons builder.mentions ?_)
  refine .cons (.ofList (by decide)) (.behind ?_ ?_)
  · apply Mentions.silent_flatMap
    intro branch member
    obtain ⟨root, children⟩ := named.branches branch member
    exact branchLines_mentions root children
  · repeat refine .cons (.ofList (by decide)) ?_
    exact .nil

/-- All names that a router refers to: those in its two lists and those in its login gate. -/
def referenced (view : RouterView) : List Text :=
  view.quickEntries.flatMap QuickEntry.names ++ view.branchRefs.flatMap referenceNames ++
    gateReferences

theorem lines_mentions (named : view.IsNamed) : Mentions view.lines view.referenced := by
  have imports := importLines_mentions named
  have constants := constantLines_mentions named
  have quick := quickLines_mentions named
  have order := branchOrderLines_mentions named
  have gate := gateLines_mentions named
  have auth : Mentions (view.authRoutes.flatMap authLines) [] :=
    .silent_flatMap fun route member => authLines_mentions (named.authRoutes route member)
  have shell := shellLines_mentions named
  rw [lines, referenced]
  have lists := ((imports.append constants).behind quick).append order
  exact ((lists.append gate).before auth).before shell

theorem codeLines_source (named : view.IsNamed) :
    codeLines view.source = view.lines.map Region.outside.code ++ [[]] := by
  have mentions := lines_mentions named
  exact codeLines_ofLines mentions.closed mentions.single

theorem references_source (named : view.IsNamed) :
    references view.source = view.referenced := by
  rw [references, codeLines_source named, List.flatMap_append, List.flatMap_map,
    (lines_mentions named).names_eq]
  exact List.append_nil _

theorem constantLine_hasCode {constant : Text × Text} (isName : IsName constant.1) :
    HasCode (constantLine constant)
      ("  static const String " ++ constant.1 ++ " = " ++ "''" ++ ";") := by
  have quoteless : '\'' ∉ constant.1 := isName.not_mem rfl
  have declared : HasCode ("  static const String " ++ constant.1 ++ " = ")
      ("  static const String " ++ constant.1 ++ " = ") :=
    .append (.append (.ofList (by decide)) (.plain quoteless)) (.ofList (by decide))
  exact .append (declared.append (.dartLiteral _)) (.ofList (by decide))

theorem declaredIn?_constantLine {constant : Text × Text} (isName : IsName constant.1) :
    declaredIn? (Region.outside.code (constantLine constant)) = some constant.1 := by
  have shape : ("  static const String " ++ constant.1 ++ " = " ++ "''" ++ ";" : Text) =
      "  static const String " ++ (constant.1 ++ ' ' :: "= '';") := by
    simp
  have read : Text.withoutBeginning? "  static const String "
      ("  static const String " ++ (constant.1 ++ ' ' :: "= '';")) =
        some (constant.1 ++ ' ' :: "= '';") :=
    Text.withoutBeginning?_eq_some_iff.mpr rfl
  rw [declaredIn?, (constantLine_hasCode isName).code_eq, shape, read, Option.map_some,
    takeWhile_append_cons (by rfl), List.takeWhile_eq_self_iff.mpr isName]

theorem classOpening_not_mem_imports (named : view.IsNamed) :
    classOpening ∉ view.importLines.map Region.outside.code := by
  rw [importLines, named.customImports]
  simp only [List.flatten_cons, List.flatten_nil, List.nil_append, List.append_nil, List.map_append,
    List.mem_append, not_or]
  refine ⟨by decide, ?_, by decide⟩
  intro member
  obtain ⟨line, lineMember, same⟩ := List.mem_map.mp member
  obtain ⟨uri, uriMember, rfl⟩ := List.mem_map.mp lineMember
  rw [(pageImport_hasCode (named.pageImports uri uriMember)).code_eq] at same
  revert same
  decide

theorem classClosing_not_mem_constants (named : view.IsNamed) :
    classClosing ∉ (view.constants.map constantLine).map Region.outside.code := by
  intro member
  obtain ⟨line, lineMember, same⟩ := List.mem_map.mp member
  obtain ⟨constant, constantMember, rfl⟩ := List.mem_map.mp lineMember
  rw [(constantLine_hasCode (named.constants constant constantMember)).code_eq] at same
  cases same

def declared (view : RouterView) : List Text :=
  view.constants.map Prod.fst

theorem declarations_source (named : view.IsNamed) :
    declarations view.source = view.declared := by
  -- Of the lines only those of the class are read; all others stand before or behind it.
  have shape : codeLines view.source = view.importLines.map Region.outside.code ++ classOpening ::
      ((view.constants.map constantLine).map Region.outside.code ++ classClosing ::
        (([] : Text) :: (view.quickLines ++ view.branchOrderLines ++ view.gateLines ++
          view.authRoutes.flatMap authLines ++ view.shellLines).map Region.outside.code ++
            [[]])) := by
    rw [codeLines_source named, lines, constantLines]
    simp only [List.flatten_cons, List.flatten_nil, List.append_nil, List.map_append,
      List.map_cons, List.append_assoc, List.cons_append, List.nil_append]
    rfl
  rw [declarations, constantClass, shape, takeWhile_dropWhile_between
    (classOpening_not_mem_imports named) (classClosing_not_mem_constants named)]
  rw [List.filterMap_map, List.filterMap_map, declared]
  apply List.filterMap_eq_map_iff_forall_eq_some.mpr
  intro constant member
  exact declaredIn?_constantLine (named.constants constant member)

end RouterView

end DartRoutes
