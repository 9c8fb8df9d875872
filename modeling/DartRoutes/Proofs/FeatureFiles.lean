import DartRoutes.Proofs.FeatureImports

/-!
# Files of a feature page

The files of a feature page refer to each other by paths, by providers and by classes, and the
router refers to the view. All these names are made from the group and the page in their own ways,
and they agree: an import names the path of the file that it is meant for, and what is used in one
file is declared in the other.
-/

namespace DartRoutes

open FeatureReading

theorem ne_of_ending {ending word other : Text} (ends : ending <:+ word)
    (apart : ending.isSuffixOf other = false) : word ≠ other := by
  rintro rfl
  rw [List.isSuffixOf_iff_suffix.mpr ends] at apart
  cases apart

/-- A word has no ending that does not fit the ending that it has. -/
theorem not_isSuffixOf_of_ending {ending word other : Text} (ends : ending <:+ word)
    (apart : ending.isSuffixOf other = false) (otherApart : other.isSuffixOf ending = false) :
    ¬ other.isSuffixOf word = true := by
  intro otherEnds
  rcases List.suffix_or_suffix_of_suffix ends (List.isSuffixOf_iff_suffix.mp otherEnds) with
    shorter | longer
  · rw [List.isSuffixOf_iff_suffix.mpr shorter] at apart
    cases apart
  · rw [List.isSuffixOf_iff_suffix.mpr longer] at otherApart
    cases otherApart

namespace FeatureReading

theorem behind_cons_of_ne {keyword word : Text} (words : List Text) (other : word ≠ keyword) :
    behind keyword (word :: words) = behind keyword words := by
  cases words with
  | nil => rfl
  | cons next rest => exact if_neg other

theorem behind_cons_self (keyword next : Text) (words : List Text) :
    behind keyword (keyword :: next :: words) = next :: behind keyword (next :: words) :=
  if_pos rfl

/-- The classes that the lines of a source declare. -/
def declaredClasses (lines : List Text) : List Text :=
  behind "class" (words lines)

/-- The providers that the lines of a source declare. -/
def declaredProviders (lines : List Text) : List Text :=
  (behind "final" (words lines)).filter (List.isSuffixOf "Provider" ·)

/-- The providers whose changes the lines of a source watch. -/
def watchedProviders (lines : List Text) : List Text :=
  behind "watch" (words lines)

/-- The providers that the lines of a source read once. -/
def readProviders (lines : List Text) : List Text :=
  behind "read" (words lines)

/-- The classes of states that the lines of a source name. -/
def stateClasses (lines : List Text) : List Text :=
  (words lines).filter (List.isSuffixOf "State" ·)

end FeatureReading

namespace FeatureView

variable {view : FeatureView}

theorem suffix_controllerProvider (view : FeatureView) :
    ("Provider" : Text) <:+ view.controllerProvider :=
  List.IsSuffix.trans (by decide) (List.suffix_append _ ("ControllerProvider" : Text))

theorem suffix_repositoryProvider (view : FeatureView) :
    ("Provider" : Text) <:+ view.repositoryProvider :=
  List.IsSuffix.trans (by decide) (List.suffix_append _ ("RepositoryProvider" : Text))

theorem suffix_controllerClass (view : FeatureView) :
    ("Controller" : Text) <:+ view.controllerClass :=
  List.suffix_append _ _

theorem suffix_repositoryClass (view : FeatureView) :
    ("Repository" : Text) <:+ view.repositoryClass :=
  List.suffix_append _ _

theorem suffix_stateClass (view : FeatureView) : ("State" : Text) <:+ view.stateClass :=
  List.suffix_append _ _

theorem suffix_stateStem (view : FeatureView) : ("_state" : Text) <:+ view.stem "state" := by
  rw [stem, layerStem, List.append_assoc]
  exact List.suffix_append _ ("_state" : Text)

theorem suffix_widgetStateClass (view : FeatureView) :
    ("State" : Text) <:+ view.widgetStateClass :=
  (List.suffix_append view.page ("State" : Text)).trans (List.suffix_append _ _)

/-- A word that is none of the names that are made for a page. -/
structure IsForeign (view : FeatureView) (word : Text) : Prop where
  page : view.page ≠ word
  controllerProvider : view.controllerProvider ≠ word
  repositoryProvider : view.repositoryProvider ≠ word
  controllerClass : view.controllerClass ≠ word
  stateClass : view.stateClass ≠ word
  repositoryClass : view.repositoryClass ≠ word
  widgetStateClass : view.widgetStateClass ≠ word
  mixin : ("_$" ++ view.stateClass : Text) ≠ word
  stateStem : view.stem "state" ≠ word

variable (isPage : ("Page" : Text) <:+ view.page)

include isPage

theorem isForeign (word : Text)
    (apart : (["Page", "Provider", "Controller", "State", "Repository", "_state"] : List Text).all
      (fun ending => !ending.isSuffixOf word) = true) : view.IsForeign word := by
  simp only [List.all_cons, List.all_nil, Bool.and_true, Bool.and_eq_true,
    Bool.not_eq_true'] at apart
  obtain ⟨page, provider, controller, state, repository, stem⟩ := apart
  exact
    { page := ne_of_ending isPage page
      controllerProvider := ne_of_ending view.suffix_controllerProvider provider
      repositoryProvider := ne_of_ending view.suffix_repositoryProvider provider
      controllerClass := ne_of_ending view.suffix_controllerClass controller
      stateClass := ne_of_ending view.suffix_stateClass state
      repositoryClass := ne_of_ending view.suffix_repositoryClass repository
      widgetStateClass := ne_of_ending view.suffix_widgetStateClass state
      mixin := ne_of_ending (view.suffix_stateClass.trans (List.suffix_append _ _)) state
      stateStem := ne_of_ending view.suffix_stateStem stem }

theorem behind_class_viewWords :
    behind "class" view.viewWords = [view.page, view.widgetStateClass] := by
  obtain ⟨_, _, _, _, _, _, _, _, _⟩ := view.isForeign isPage "class" (by decide)
  rw [viewWords, constructorWords]
  split
  all_goals
    simp (disch := first | assumption | decide) only [List.flatten_cons, List.flatten_nil,
      List.cons_append, List.nil_append, behind_cons_self, behind_cons_of_ne]
    rfl

theorem behind_watch_viewWords :
    behind "watch" view.viewWords = [view.controllerProvider] := by
  obtain ⟨_, _, _, _, _, _, _, _, _⟩ := view.isForeign isPage "watch" (by decide)
  rw [viewWords, constructorWords]
  split
  all_goals
    simp (disch := first | assumption | decide) only [List.flatten_cons, List.flatten_nil,
      List.cons_append, List.nil_append, behind_cons_self, behind_cons_of_ne]
    rfl

theorem behind_final_controllerWords :
    behind "final" view.controllerWords =
      ([view.controllerProvider, "Ref", "repository"] : List Text) := by
  obtain ⟨_, _, _, _, _, _, _, _, _⟩ := view.isForeign isPage "final" (by decide)
  simp (disch := first | assumption | decide) only [controllerWords, List.flatten_cons,
    List.flatten_nil, List.cons_append, List.nil_append, behind_cons_self, behind_cons_of_ne]
  rfl

theorem behind_read_controllerWords :
    behind "read" view.controllerWords = [view.repositoryProvider] := by
  obtain ⟨_, _, _, _, _, _, _, _, _⟩ := view.isForeign isPage "read" (by decide)
  simp (disch := first | assumption | decide) only [controllerWords, List.flatten_cons,
    List.flatten_nil, List.cons_append, List.nil_append, behind_cons_self, behind_cons_of_ne]
  rfl

theorem behind_class_stateWords : behind "class" view.stateWords = [view.stateClass] := by
  obtain ⟨_, _, _, _, _, _, _, _, _⟩ := view.isForeign isPage "class" (by decide)
  simp (disch := first | assumption | decide) only [stateWords, List.flatten_cons,
    List.flatten_nil, List.cons_append, List.nil_append, behind_cons_self, behind_cons_of_ne]
  rfl

theorem behind_final_repositoryWords :
    behind "final" view.repositoryWords = [view.repositoryProvider] := by
  obtain ⟨_, _, _, _, _, _, _, _, _⟩ := view.isForeign isPage "final" (by decide)
  simp (disch := first | assumption | decide) only [repositoryWords, List.flatten_cons,
    List.flatten_nil, List.cons_append, List.nil_append, behind_cons_self, behind_cons_of_ne]
  rfl

theorem filter_state_controllerWords :
    view.controllerWords.filter (List.isSuffixOf "State" ·) = List.replicate 5 view.stateClass := by
  have page : ¬ List.isSuffixOf "State" view.page = true :=
    not_isSuffixOf_of_ending isPage (by decide) (by decide)
  have provider : ¬ List.isSuffixOf "State" view.controllerProvider = true :=
    not_isSuffixOf_of_ending view.suffix_controllerProvider (by decide) (by decide)
  have repository : ¬ List.isSuffixOf "State" view.repositoryProvider = true :=
    not_isSuffixOf_of_ending view.suffix_repositoryProvider (by decide) (by decide)
  have controller : ¬ List.isSuffixOf "State" view.controllerClass = true :=
    not_isSuffixOf_of_ending view.suffix_controllerClass (by decide) (by decide)
  have state : List.isSuffixOf "State" view.stateClass = true :=
    List.isSuffixOf_iff_suffix.mpr view.suffix_stateClass
  simp (disch := first | assumption | decide) only [controllerWords, List.flatten_cons,
    List.flatten_nil, List.cons_append, List.nil_append, List.filter_cons_of_neg,
    List.filter_cons_of_pos, List.filter_nil]
  rfl

end FeatureView

namespace FeatureView

section Reading

variable {view : FeatureView} (isName : IsName view.page) (isPage : ("Page" : Text) <:+ view.page)

include isName isPage

theorem isWord_page : IsWord view.page :=
  ⟨isName, isPage.ne_nil (by decide)⟩

theorem declaredClasses_viewLines :
    declaredClasses (Layer.view.lines view).1 = [view.page, view.widgetStateClass] := by
  rw [declaredClasses, words_viewLines (isWord_page isName isPage)]
  exact behind_class_viewWords isPage

theorem watchedProviders_viewLines :
    watchedProviders (Layer.view.lines view).1 = [view.controllerProvider] := by
  rw [watchedProviders, words_viewLines (isWord_page isName isPage)]
  exact behind_watch_viewWords isPage

theorem declaredProviders_controllerLines :
    declaredProviders (Layer.controller.lines view).1 = [view.controllerProvider] := by
  have provider : List.isSuffixOf "Provider" view.controllerProvider = true :=
    List.isSuffixOf_iff_suffix.mpr view.suffix_controllerProvider
  rw [declaredProviders, words_controllerLines (isWord_page isName isPage),
    behind_final_controllerWords isPage, List.filter_cons_of_pos provider]
  rfl

theorem readProviders_controllerLines :
    readProviders (Layer.controller.lines view).1 = [view.repositoryProvider] := by
  rw [readProviders, words_controllerLines (isWord_page isName isPage)]
  exact behind_read_controllerWords isPage

theorem stateClasses_controllerLines :
    stateClasses (Layer.controller.lines view).1 = List.replicate 5 view.stateClass := by
  rw [stateClasses, words_controllerLines (isWord_page isName isPage)]
  exact filter_state_controllerWords isPage

theorem declaredClasses_stateLines : declaredClasses (Layer.state.lines view).1 = [view.stateClass] := by
  rw [declaredClasses, words_stateLines (isWord_page isName isPage)]
  exact behind_class_stateWords isPage

theorem declaredProviders_repositoryLines :
    declaredProviders (Layer.repository.lines view).1 = [view.repositoryProvider] := by
  have provider : List.isSuffixOf "Provider" view.repositoryProvider = true :=
    List.isSuffixOf_iff_suffix.mpr view.suffix_repositoryProvider
  rw [declaredProviders, words_repositoryLines (isWord_page isName isPage),
    behind_final_repositoryWords isPage, List.filter_cons_of_pos provider]
  rfl

end Reading

end FeatureView

/-- The files of a feature page fit together. The router imports the view by its path, the view
imports the controller and the state, and the controller imports the state and the repository. The
view watches the provider that the controller declares, and the controller reads the one that the
repository declares. The states that the controller names are those of the class that the state's
file declares, and the page that the router shows is a class that the view's file declares. Each file
is read by the lines that it is written from, which are its own unless the package name has a line
feed in it: such a name could bring statements of its own into the file. -/
theorem feature_files_agree (library : Path) (packageName : Text) {route : Route}
    (isGroup : IsGroup route.group) (isName : IsName route.page)
    (isPage : isPageName route.page = true) :
    let scaffold : Scaffold := ⟨library.child "features", packageName⟩
    let seenFrom (layer : Layer) : ImportScope :=
      ⟨packageName, library, (scaffold.path route layer).parent⟩
    let lines (layer : Layer) := (layer.lines (.ofRoute packageName route)).1
    (∀ layer, scaffold.source route layer = Text.ofLines (lines layer) ∧
      ('\n' ∉ packageName → (scaffold.source route layer).splitOn '\n' = lines layer ++ [[]])) ∧
    (∀ routes : List Route, route ∈ routes → ∀ directory,
      ∃ uri ∈ (NavigationPlan.ofRoutes routes packageName).pageImports,
        ImportScope.file? ⟨packageName, library, directory⟩ uri =
          some (scaffold.path route .view)) ∧
    (seenFrom .view).featureFiles (importUris (lines .view)) =
      [scaffold.path route .controller, scaffold.path route .state] ∧
    (seenFrom .controller).featureFiles (importUris (lines .controller)) =
      [scaffold.path route .state, scaffold.path route .repository] ∧
    (∃ provider, watchedProviders (lines .view) = [provider] ∧
      declaredProviders (lines .controller) = [provider]) ∧
    (∃ provider, readProviders (lines .controller) = [provider] ∧
      declaredProviders (lines .repository) = [provider]) ∧
    (∃ state, stateClasses (lines .controller) ≠ [] ∧
      (∀ named ∈ stateClasses (lines .controller), named = state) ∧
      declaredClasses (lines .state) = [state]) ∧
    ∀ indent path rest,
      ∃ page ∈ declaredClasses (lines .view),
        RouterReading.page indent RouterReading.shellForm
          (RouterView.pageLines indent (route.mountedAt path) ++ rest) =
            some ((page, route.hasParams), rest) := by
  have ends : ("Page" : Text) <:+ (FeatureView.ofRoute packageName route).page :=
    List.isSuffixOf_iff_suffix.mp isPage
  have states := FeatureView.stateClasses_controllerLines isName ends
  have classes := FeatureView.declaredClasses_viewLines isName ends
  refine ⟨fun layer => ⟨(layer.lines _).2, fun oneLine => ?_⟩,
    fun routes member directory => ?_,
    featureFiles_viewLines library packageName isGroup isName,
    featureFiles_controllerLines library packageName isGroup isName _,
    ⟨_, FeatureView.watchedProviders_viewLines isName ends,
      FeatureView.declaredProviders_controllerLines isName ends⟩,
    ⟨_, FeatureView.readProviders_controllerLines isName ends,
      FeatureView.declaredProviders_repositoryLines isName ends⟩,
    ⟨_, ?_, ?_, FeatureView.declaredClasses_stateLines isName ends⟩,
    fun indent path rest => ⟨route.page, ?_, ?_⟩⟩
  · exact FeatureView.splitOn_source (consists_ofRoute packageName isGroup isName oneLine) layer
  · exact exists_pageImport library packageName isGroup isName member directory
  · exact fun none => absurd (states.symm.trans none) (by simp)
  · exact fun named member => List.eq_of_mem_replicate (states ▸ member)
  · exact classes ▸ List.mem_cons_self
  · exact RouterReading.reads_page indent RouterReading.shellForm (route.mountedAt path) rest

/-- A page of a nested group whose name has an acronym, a digit and an underscore. -/
theorem feature_files_agree_nested :
    let route : Route := ⟨"shop/cart_items2", "/scan", "HTTPQR2_ItemPage", true⟩
    let library : Path := ⟨.relative, ["lib"]⟩
    let scaffold : Scaffold := ⟨library.child "features", "my_app"⟩
    ImportScope.featureFiles ⟨"my_app", library, (scaffold.path route .view).parent⟩
        (importUris ((scaffold.source route .view).splitOn '\n')) =
      [⟨.relative, ["lib", "features", "shop", "cart_items2", "controllers",
          "httpqr2_item_controller.dart"]⟩,
        ⟨.relative, ["lib", "features", "shop", "cart_items2", "models",
          "httpqr2_item_state.dart"]⟩] := by
  intro route library scaffold
  obtain ⟨written, -, imports, -⟩ := @feature_files_agree library "my_app" route (by decide)
    (List.all_eq_true.mp (by decide)) (by decide)
  rw [(written .view).2 (by decide), importUris, List.filterMap_append]
  exact (congrArg _ (List.append_nil _)).trans (imports.trans (by decide +kernel))

end DartRoutes
