import DartRoutes.Feature.Scaffold
import DartRoutes.Proofs.FeaturePath
import DartRoutes.Proofs.RouterRoundTrip
import DartRoutes.Proofs.SourceEncoding

/-!
# Reading feature sources

What the source of a feature page says, read line by line: the files that its imports name, the
classes and providers that it declares, and the words of its code.
-/

namespace DartRoutes

/-- The words of a text: its longest runs of characters that can stand in a name. -/
def wordsOf (text : Text) : List Text :=
  (text.splitOnP (!isNamePart ·)).filter (!·.isEmpty)

theorem wordsOf_append_cons {separator : Char} (apart : isNamePart separator = false)
    (left right : Text) : wordsOf (left ++ separator :: right) = wordsOf left ++ wordsOf right := by
  rw [wordsOf, List.splitOnP_append_cons _ _ (by rw [apart]; rfl), List.filter_append]
  rfl

/-- A text that is one word. -/
structure IsWord (text : Text) : Prop where
  isName : IsName text
  nonempty : text ≠ []

theorem wordsOf_word {word : Text} (isWord : IsWord word) : wordsOf word = [word] := by
  have whole : word.splitOnP (!isNamePart ·) = [word] :=
    List.splitOnP_eq_singleton fun character member => by rw [isWord.isName character member]; rfl
  have counts : (!word.isEmpty) = true := by simpa using isWord.nonempty
  rw [wordsOf, whole]
  exact List.filter_cons_of_pos counts

theorem IsName.isWord_append {name ending : Text} (isName : IsName name)
    (isWord : IsWord ending) : IsWord (name ++ ending) :=
  ⟨List.forall_mem_append.mpr ⟨isName, isWord.isName⟩,
    List.append_ne_nil_of_right_ne_nil _ isWord.nonempty⟩

theorem isWord_ofList {characters : List Char}
    (checked : (characters.all isNamePart && !characters.isEmpty) = true) :
    IsWord (String.ofList characters).toList := by
  rw [String.toList_ofList]
  rw [Bool.and_eq_true, Bool.not_eq_true', List.isEmpty_eq_false_iff] at checked
  exact ⟨List.all_eq_true.mp checked.1, checked.2⟩

/-- Nothing joins the end of the left text to the beginning of the right one. -/
def Apart (left right : Text) : Prop :=
  left.getLast?.all (!isNamePart ·) = true ∨ right.head?.all (!isNamePart ·) = true

theorem wordsOf_append {left right : Text} (apart : Apart left right) :
    wordsOf (left ++ right) = wordsOf left ++ wordsOf right := by
  have unjoined : wordsOf [] = [] := rfl
  rcases apart with ended | started
  · rcases List.eq_nil_or_concat left with rfl | ⟨front, last, rfl⟩
    · rfl
    · have separator : isNamePart last = false := by simpa using ended
      have front_eq := wordsOf_append_cons separator front []
      rw [List.concat_eq_append, List.append_assoc, List.singleton_append,
        wordsOf_append_cons separator, front_eq, unjoined, List.append_nil]
  · cases right with
    | nil => rw [List.append_nil, unjoined, List.append_nil]
    | cons first rest =>
        have separator : isNamePart first = false := by simpa using started
        have rest_eq := wordsOf_append_cons separator [] rest
        rw [List.nil_append, unjoined, List.nil_append] at rest_eq
        rw [wordsOf_append_cons separator, rest_eq]

theorem wordsOf_fill {front word rest : Text} (isWord : IsWord word)
    (ended : front.getLast?.all (!isNamePart ·) = true)
    (started : rest.head?.all (!isNamePart ·) = true) :
    wordsOf (front ++ (word ++ rest)) = wordsOf front ++ word :: wordsOf rest := by
  rw [wordsOf_append (.inl ended), wordsOf_append (.inr started), wordsOf_word isWord]
  rfl

namespace FeatureReading

/-- The URIs that the lines of a source import. -/
def importUris (lines : List Text) : List Text :=
  lines.filterMap (Text.between? "import '" "';")

/-- The words of a line that is no import. -/
def statementWords (line : Text) : List Text :=
  if List.isPrefixOf "import " line then [] else wordsOf line

/-- The words of the lines of a source without its imports. -/
def words (lines : List Text) : List Text :=
  lines.flatMap statementWords

/-- The words that come right behind a word. -/
def behind (keyword : Text) : List Text → List Text
  | word :: next :: rest =>
      if word = keyword then next :: behind keyword (next :: rest)
      else behind keyword (next :: rest)
  | _ => []

theorem statementWords_last {front word : Text} (isWord : IsWord word)
    (noImport : List.isPrefixOf "import " (front ++ word) = false)
    (ended : front.getLast?.all (!isNamePart ·) = true) :
    statementWords (front ++ word) = wordsOf front ++ [word] := by
  rw [statementWords, noImport, if_neg Bool.false_ne_true, wordsOf_append (.inl ended),
    wordsOf_word isWord]

theorem statementWords_fill {front word rest : Text} (isWord : IsWord word)
    (noImport : List.isPrefixOf "import " (front ++ (word ++ rest)) = false)
    (ended : front.getLast?.all (!isNamePart ·) = true)
    (started : rest.head?.all (!isNamePart ·) = true) :
    statementWords (front ++ word ++ rest) = wordsOf front ++ word :: wordsOf rest := by
  rw [List.append_assoc, statementWords, noImport, if_neg Bool.false_ne_true,
    wordsOf_fill isWord ended started]

theorem statementWords_fill_fill {front word middle other rest : Text} (isWord : IsWord word)
    (otherIsWord : IsWord other)
    (noImport : List.isPrefixOf "import " (front ++ (word ++ (middle ++ (other ++ rest)))) = false)
    (ended : front.getLast?.all (!isNamePart ·) = true)
    (restarted : (middle ++ (other ++ rest)).head?.all (!isNamePart ·) = true)
    (reended : middle.getLast?.all (!isNamePart ·) = true)
    (started : rest.head?.all (!isNamePart ·) = true) :
    statementWords (front ++ (word ++ (middle ++ (other ++ rest)))) =
      wordsOf front ++ word :: (wordsOf middle ++ other :: wordsOf rest) := by
  rw [statementWords, noImport, if_neg Bool.false_ne_true, wordsOf_fill isWord ended restarted,
    wordsOf_fill otherIsWord reended started]

end FeatureReading

open FeatureReading

namespace FeatureView

def controllerProvider (view : FeatureView) : Text :=
  view.routeName ++ "ControllerProvider"

def repositoryProvider (view : FeatureView) : Text :=
  view.routeName ++ "RepositoryProvider"

/-- The class of the state of a view itself. -/
def widgetStateClass (view : FeatureView) : Text :=
  "_" ++ (view.page ++ "State")

/-- The words of the constructor of a view. -/
def constructorWords (view : FeatureView) : List Text :=
  if view.hasParams then
    ["final", "Map", "String", "dynamic", "params", "const", view.page, "super", "key", "required",
      "this", "params"]
  else ["const", view.page, "super", "key"]

-- The words of each source, line by line.

def viewWords (view : FeatureView) : List Text :=
  List.flatten [
    ["class", view.page, "extends", "ConsumerStatefulWidget"],
    view.constructorWords,
    ["override"],
    ["ConsumerState", view.page, "createState", view.widgetStateClass],
    ["class", view.widgetStateClass, "extends", "ConsumerState", view.page],
    ["override"],
    ["Widget", "build", "BuildContext", "context"],
    ["final", "state", "ref", "watch", view.controllerProvider],
    ["return", "CommonScaffold"],
    ["titleStr", view.page],
    ["body", "state", "when"],
    ["loading", "const", "Center", "child", "CircularProgressIndicator"],
    ["success", "const", "Center", "child", "Text", view.page],
    ["error", "message", "Center", "child", "Text", "Error", "$message"]]

def controllerWords (view : FeatureView) : List Text :=
  List.flatten [
    ["Page", "controller", "for", view.page],
    ["final", view.controllerProvider, "StateNotifierProvider", "autoDispose"],
    [view.controllerClass],
    [view.stateClass],
    ["ref", view.controllerClass, "ref"],
    ["class", view.controllerClass, "extends", "StateNotifier", view.stateClass],
    ["final", "Ref", "_ref"],
    [view.controllerClass, "this", "_ref", "super", "const", view.stateClass, "loading"],
    ["_loadData"],
    ["Load", "initial", "data"],
    ["Future", "void", "_loadData", "async"],
    ["try"],
    ["final", "repository", "_ref", "read", view.repositoryProvider],
    ["state", "const", view.stateClass, "success"],
    ["catch", "e"],
    ["state", view.stateClass, "error", "message", "e", "toString"],
    ["Refresh", "data"],
    ["Future", "void", "refresh", "_loadData"]]

def stateWords (view : FeatureView) : List Text :=
  List.flatten [
    ["part", view.stem "state", "freezed", "dart"],
    ["State", "for", view.page],
    ["freezed"],
    ["sealed", "class", view.stateClass, "with", "_$" ++ view.stateClass],
    ["const", view.stateClass, "_"],
    ["const", "factory", view.stateClass, "loading", "_Loading"],
    ["const", "factory", view.stateClass, "success", "_Success"],
    ["const", "factory", view.stateClass, "error", "required", "String", "message", "_Error"],
    ["bool", "get", "isLoading", "this", "is", "_Loading"],
    ["bool", "get", "isSuccess", "this", "is", "_Success"],
    ["bool", "get", "isError", "this", "is", "_Error"]]

def repositoryWords (view : FeatureView) : List Text :=
  List.flatten [
    ["Repository", "for", view.page],
    ["final", view.repositoryProvider, "Provider", "ref", view.repositoryClass],
    ["class", view.repositoryClass]]

variable {view : FeatureView}

/-- If no name brings a line of its own, a source has the lines that it is written from. -/
theorem splitOn_source (consists : view.Consists (· ≠ '\n')) (layer : Layer) :
    (layer.source view).splitOn '\n' = (layer.lines view).1 ++ [[]] := by
  have closed : SourceClosed (· ≠ '\n') :=
    ⟨(caseStable_ne (by decide) (by decide)).toCaseClosed, by
      rintro character first - rfl
      exact absurd first (by decide)⟩
  have fit := layer.lines_consist closed consists
  refine (congrArg _ (layer.lines view).2).trans (Text.splitOn_ofLines ?_)
  exact fun line member inside => fit line member _ inside rfl

theorem words_splitOn_source (consists : view.Consists (· ≠ '\n')) (layer : Layer) :
    words ((layer.source view).splitOn '\n') = words (layer.lines view).1 := by
  rw [splitOn_source consists, words, List.flatMap_append]
  exact List.append_nil _

section Words

variable (isWord : IsWord view.page)

include isWord

theorem isWord_controllerProvider : IsWord view.controllerProvider :=
  IsName.isWord_append (caseClosed_isNamePart.toRouteName isWord.isName) (isWord_ofList rfl)

theorem isWord_repositoryProvider : IsWord view.repositoryProvider :=
  IsName.isWord_append (caseClosed_isNamePart.toRouteName isWord.isName) (isWord_ofList rfl)

theorem isWord_controllerClass : IsWord view.controllerClass :=
  IsName.isWord_append (forall_mem_stripPageSuffix isWord.isName) (isWord_ofList rfl)

theorem isWord_stateClass : IsWord view.stateClass :=
  IsName.isWord_append (forall_mem_stripPageSuffix isWord.isName) (isWord_ofList rfl)

theorem isWord_repositoryClass : IsWord view.repositoryClass :=
  IsName.isWord_append (forall_mem_stripPageSuffix isWord.isName) (isWord_ofList rfl)

theorem isWord_widgetStateClass : IsWord view.widgetStateClass := by
  have underscore : IsWord "_" := isWord_ofList rfl
  exact underscore.isName.isWord_append (isWord.isName.isWord_append (isWord_ofList rfl))

theorem constructorLines_words :
    view.constructorLines.flatMap statementWords = view.constructorWords := by
  rw [constructorLines, constructorWords]
  split
  · have opening : statementWords ("  const " ++ view.page ++ "(\x7b") =
        (["const", view.page] : List Text) :=
      statementWords_fill isWord rfl rfl rfl
    rw [List.flatMap_cons, List.flatMap_cons, List.flatMap_cons, opening]
    rfl
  · have plain : statementWords ("  const " ++ view.page ++ "(\x7bsuper.key\x7d);") =
        (["const", view.page, "super", "key"] : List Text) :=
      statementWords_fill isWord rfl rfl rfl
    rw [List.flatMap_singleton, plain]

theorem words_viewLines : words (Layer.view.lines view).1 = view.viewWords := by
  have widget : statementWords ("class " ++ view.page ++ " extends ConsumerStatefulWidget \x7b") =
      (["class", view.page, "extends", "ConsumerStatefulWidget"] : List Text) :=
    statementWords_fill isWord rfl rfl rfl
  have creation : statementWords ("  ConsumerState<" ++ view.page ++ "> createState() => _" ++
      view.page ++ "State();") =
        (["ConsumerState", view.page, "createState", view.widgetStateClass] : List Text) := by
    have shape : ("  ConsumerState<" ++ view.page ++ "> createState() => _" ++ view.page ++
        "State();" : Text) = "  ConsumerState<" ++ (view.page ++ ("> createState() => " ++
          (view.widgetStateClass ++ "();"))) := by
      simp only [widgetStateClass, List.append_assoc]
      rfl
    rw [shape]
    exact statementWords_fill_fill isWord (isWord_widgetStateClass isWord) rfl rfl rfl rfl rfl
  have widgetState : statementWords ("class _" ++ view.page ++ "State extends ConsumerState<" ++
      view.page ++ "> \x7b") =
        (["class", view.widgetStateClass, "extends", "ConsumerState", view.page] : List Text) := by
    have shape : ("class _" ++ view.page ++ "State extends ConsumerState<" ++ view.page ++
        "> \x7b" : Text) = "class " ++ (view.widgetStateClass ++ (" extends ConsumerState<" ++
          (view.page ++ "> \x7b"))) := by
      simp only [widgetStateClass, List.append_assoc]
      rfl
    rw [shape]
    exact statementWords_fill_fill (isWord_widgetStateClass isWord) isWord rfl rfl rfl rfl rfl
  have watching : statementWords ("    final state = ref.watch(" ++ view.routeName ++
      "ControllerProvider);") =
        (["final", "state", "ref", "watch", view.controllerProvider] : List Text) := by
    have shape : ("    final state = ref.watch(" ++ view.routeName ++ "ControllerProvider);" : Text)
        = "    final state = ref.watch(" ++ view.controllerProvider ++ ");" := by
      simp only [controllerProvider, List.append_assoc]
      rfl
    rw [shape]
    exact statementWords_fill (isWord_controllerProvider isWord) rfl rfl rfl
  have title : statementWords ("      titleStr: '" ++ view.page ++ "',") =
      (["titleStr", view.page] : List Text) :=
    statementWords_fill isWord rfl rfl rfl
  have success : statementWords ("        success: () => const Center(child: Text('" ++ view.page ++
      "')),") = (["success", "const", "Center", "child", "Text", view.page] : List Text) :=
    statementWords_fill isWord rfl rfl rfl
  rw [words]
  simp only [Layer.lines, List.flatten_cons, List.flatten_nil, List.append_nil, List.flatMap_append,
    List.flatMap_cons, List.flatMap_nil, constructorLines_words isWord, widget, creation,
    widgetState, watching, title, success]
  simp only [viewWords, List.flatten_cons, List.flatten_nil, List.append_assoc]
  rfl

theorem words_controllerLines : words (Layer.controller.lines view).1 = view.controllerWords := by
  have comment : statementWords ("/// Page controller for " ++ view.page) =
      (["Page", "controller", "for", view.page] : List Text) :=
    statementWords_last isWord rfl rfl
  have provider : statementWords ("final " ++ view.routeName ++
      "ControllerProvider = StateNotifierProvider.autoDispose<") =
        (["final", view.controllerProvider, "StateNotifierProvider", "autoDispose"] :
          List Text) := by
    have shape : ("final " ++ view.routeName ++
        "ControllerProvider = StateNotifierProvider.autoDispose<" : Text) =
          "final " ++ view.controllerProvider ++ " = StateNotifierProvider.autoDispose<" := by
      simp only [controllerProvider, List.append_assoc]
      rfl
    rw [shape]
    exact statementWords_fill (isWord_controllerProvider isWord) rfl rfl rfl
  have notifierArgument : statementWords ("    " ++ view.controllerClass ++ ",") =
      [view.controllerClass] :=
    statementWords_fill (isWord_controllerClass isWord) rfl rfl rfl
  have stateArgument : statementWords ("    " ++ view.stateClass) = [view.stateClass] :=
    statementWords_last (isWord_stateClass isWord) rfl rfl
  have creation : statementWords ("  (ref) => " ++ view.controllerClass ++ "(ref),") =
      (["ref", view.controllerClass, "ref"] : List Text) :=
    statementWords_fill (isWord_controllerClass isWord) rfl rfl rfl
  have notifier : statementWords ("class " ++ view.controllerClass ++ " extends StateNotifier<" ++
      view.stateClass ++ "> \x7b") =
        (["class", view.controllerClass, "extends", "StateNotifier", view.stateClass] :
          List Text) := by
    simp only [List.append_assoc]
    exact statementWords_fill_fill (isWord_controllerClass isWord) (isWord_stateClass isWord)
      rfl rfl rfl rfl rfl
  have constructor : statementWords ("  " ++ view.controllerClass ++
      "(this._ref) : super(const " ++ view.stateClass ++ ".loading()) \x7b") =
        ([view.controllerClass, "this", "_ref", "super", "const", view.stateClass, "loading"] :
          List Text) := by
    simp only [List.append_assoc]
    exact statementWords_fill_fill (isWord_controllerClass isWord) (isWord_stateClass isWord)
      rfl rfl rfl rfl rfl
  have reading : statementWords ("      final repository = _ref.read(" ++ view.routeName ++
      "RepositoryProvider);") =
        (["final", "repository", "_ref", "read", view.repositoryProvider] : List Text) := by
    have shape : ("      final repository = _ref.read(" ++ view.routeName ++
        "RepositoryProvider);" : Text) =
          "      final repository = _ref.read(" ++ view.repositoryProvider ++ ");" := by
      simp only [repositoryProvider, List.append_assoc]
      rfl
    rw [shape]
    exact statementWords_fill (isWord_repositoryProvider isWord) rfl rfl rfl
  have success : statementWords ("      state = const " ++ view.stateClass ++ ".success();") =
      (["state", "const", view.stateClass, "success"] : List Text) :=
    statementWords_fill (isWord_stateClass isWord) rfl rfl rfl
  have failure : statementWords ("      state = " ++ view.stateClass ++
      ".error(message: e.toString());") =
        (["state", view.stateClass, "error", "message", "e", "toString"] : List Text) :=
    statementWords_fill (isWord_stateClass isWord) rfl rfl rfl
  rw [words]
  simp only [Layer.lines, List.flatten_cons, List.flatten_nil, List.append_nil, List.flatMap_append,
    List.flatMap_cons, List.flatMap_nil, comment, provider, notifierArgument, stateArgument,
    creation, notifier, constructor, reading, success, failure]
  rfl

theorem words_stateLines : words (Layer.state.lines view).1 = view.stateWords := by
  have isMixin : IsWord ("_$" ++ view.stateClass) := by
    have marks : IsWord "_$" := isWord_ofList rfl
    exact marks.isName.isWord_append (isWord_stateClass isWord)
  have isStem : IsWord (view.stem "state") :=
    IsName.isWord_append (List.forall_mem_append.mpr
      ⟨caseClosed_isNamePart.ofClass (forall_mem_stripPageSuffix isWord.isName),
        (isWord_ofList rfl : IsWord "_").isName⟩) (isWord_ofList rfl)
  have part : statementWords ("part '" ++ view.stem "state" ++ ".freezed.dart';") =
      (["part", view.stem "state", "freezed", "dart"] : List Text) :=
    statementWords_fill isStem rfl rfl rfl
  have comment : statementWords ("/// State for " ++ view.page) =
      (["State", "for", view.page] : List Text) :=
    statementWords_last isWord rfl rfl
  have declaration : statementWords ("sealed class " ++ view.stateClass ++ " with _$" ++
      view.stateClass ++ " \x7b") =
        (["sealed", "class", view.stateClass, "with", "_$" ++ view.stateClass] : List Text) := by
    have shape : ("sealed class " ++ view.stateClass ++ " with _$" ++ view.stateClass ++
        " \x7b" : Text) = "sealed class " ++ (view.stateClass ++ (" with " ++
          ("_$" ++ view.stateClass ++ " \x7b"))) := by
      simp only [List.append_assoc]
      rfl
    rw [shape]
    exact statementWords_fill_fill (isWord_stateClass isWord) isMixin rfl rfl rfl rfl rfl
  have constructor : statementWords ("  const " ++ view.stateClass ++ "._();") =
      (["const", view.stateClass, "_"] : List Text) :=
    statementWords_fill (isWord_stateClass isWord) rfl rfl rfl
  have loading : statementWords ("  const factory " ++ view.stateClass ++
      ".loading() = _Loading;") =
        (["const", "factory", view.stateClass, "loading", "_Loading"] : List Text) :=
    statementWords_fill (isWord_stateClass isWord) rfl rfl rfl
  have success : statementWords ("  const factory " ++ view.stateClass ++
      ".success() = _Success;") =
        (["const", "factory", view.stateClass, "success", "_Success"] : List Text) :=
    statementWords_fill (isWord_stateClass isWord) rfl rfl rfl
  have failure : statementWords ("  const factory " ++ view.stateClass ++
      ".error(\x7brequired String message\x7d) = _Error;") =
        (["const", "factory", view.stateClass, "error", "required", "String", "message",
          "_Error"] : List Text) :=
    statementWords_fill (isWord_stateClass isWord) rfl rfl rfl
  rw [words]
  simp only [Layer.lines, List.flatMap_cons, List.flatMap_nil, part, comment, declaration,
    constructor, loading, success, failure]
  rfl

theorem words_repositoryLines : words (Layer.repository.lines view).1 = view.repositoryWords := by
  have comment : statementWords ("/// Repository for " ++ view.page) =
      (["Repository", "for", view.page] : List Text) :=
    statementWords_last isWord rfl rfl
  have provider : statementWords ("final " ++ view.routeName ++
      "RepositoryProvider = Provider((ref) => " ++ view.repositoryClass ++ "());") =
        (["final", view.repositoryProvider, "Provider", "ref", view.repositoryClass] :
          List Text) := by
    have shape : ("final " ++ view.routeName ++ "RepositoryProvider = Provider((ref) => " ++
        view.repositoryClass ++ "());" : Text) = "final " ++ (view.repositoryProvider ++
          (" = Provider((ref) => " ++ (view.repositoryClass ++ "());"))) := by
      simp only [repositoryProvider, List.append_assoc]
      rfl
    rw [shape]
    exact statementWords_fill_fill (isWord_repositoryProvider isWord)
      (isWord_repositoryClass isWord) rfl rfl rfl rfl rfl
  have declaration : statementWords ("class " ++ view.repositoryClass ++ " \x7b") =
      (["class", view.repositoryClass] : List Text) :=
    statementWords_fill (isWord_repositoryClass isWord) rfl rfl rfl
  rw [words]
  simp only [Layer.lines, List.flatMap_cons, List.flatMap_nil, comment, provider, declaration]
  rfl

end Words

end FeatureView

end DartRoutes
