import DartRoutes.Navigation.Source
import DartRoutes.Proofs.FeatureReading

/-!
# Imports of feature files

An import stands for a file: one that starts in the package leads to its library, and others are
seen from the file that imports. So read, the router imports the view of each page, a view imports
its controller and its state, and a controller its state and its repository, and nothing else of the
features.
-/

namespace DartRoutes

open FeatureReading

namespace Path

/-- The file that the segments of a place name below a path. -/
def below (path : Path) (place : Text) : Path :=
  { path with parts := path.parts ++ place.splitOn '/' }

end Path

/-- What the imports of a file stand for: `package:` with the name of the package leads to its
library, and other places are seen from the directory of the file. -/
structure ImportScope where
  packageName : Text
  library : Path
  directory : Path

namespace ImportScope

/-- The directory of the features of the package. -/
def featuresDir (scope : ImportScope) : Path :=
  scope.library.child "features"

/-- The file that an import names, unless it is one of another package. -/
def file? (scope : ImportScope) (uri : Text) : Option Path :=
  match Text.withoutBeginning? ("package:" ++ scope.packageName ++ "/") uri with
  | some place => some (scope.library.below place)
  | none => if List.isPrefixOf "package:" uri then none else some (scope.directory.below uri)

/-- Does the path lie below the features of the package? -/
def isFeature (scope : ImportScope) (path : Path) : Bool :=
  (path.relativeTo? scope.featuresDir).isSome

/-- The files of features that imports name. -/
def featureFiles (scope : ImportScope) (uris : List Text) : List Path :=
  (uris.filterMap scope.file?).filter scope.isFeature

variable (scope : ImportScope)

theorem file?_package (place : Text) :
    scope.file? ("package:" ++ scope.packageName ++ "/" ++ place) =
      some (scope.library.below place) := by
  have found : Text.withoutBeginning? ("package:" ++ scope.packageName ++ "/")
      ("package:" ++ scope.packageName ++ "/" ++ place) = some place :=
    Text.withoutBeginning?_eq_some_iff.mpr rfl
  rw [file?, found]

theorem file?_relative {uri : Text} (noPackage : List.isPrefixOf "package:" uri = false) :
    scope.file? uri = some (scope.directory.below uri) := by
  have unread : Text.withoutBeginning? ("package:" ++ scope.packageName ++ "/") uri = none := by
    apply Option.eq_none_iff_forall_ne_some.mpr
    intro place read
    rw [Text.withoutBeginning?_eq_some_iff, List.append_assoc, List.append_assoc] at read
    have isPackage : List.isPrefixOf "package:" uri = true :=
      List.isPrefixOf_iff_prefix.mpr ⟨_, read.symm⟩
    rw [noPackage] at isPackage
    cases isPackage
  rw [file?, unread, noPackage]
  rfl

theorem isFeature_below_iff (place : Text) :
    scope.isFeature (scope.library.below place) = true ↔
      (place.splitOn '/').head? = some ("features" : Text) := by
  have seen : (scope.library.below place).relativeTo? scope.featuresDir =
      (Path.partsBehind? (["features"] : List Text) (place.splitOn '/')).map (⟨.relative, ·⟩) := by
    have sameAnchor : (scope.library.below place).anchor = scope.featuresDir.anchor := rfl
    rw [Path.relativeTo?, if_pos sameAnchor]
    exact congrArg _ (Path.partsBehind?_append _ _ _)
  rw [isFeature, seen, Option.isSome_map]
  cases place.splitOn '/' with
  | nil => simp [Path.partsBehind?]
  | cons segment rest =>
      rw [Path.partsBehind?, List.head?_cons, Option.some_inj, eq_comm]
      split
      · rename_i same
        exact iff_of_true rfl same.symm
      · rename_i different
        exact iff_of_false (by simp) (Ne.symm different)

/-- An import by a package that has no segment `features` names no file of a feature. -/
theorem isFeature_file?_eq_false {uri : Text} (isPackage : List.isPrefixOf "package:" uri = true)
    (foreign : ("features" : Text) ∉ uri.splitOn '/') :
    ∀ path, scope.file? uri = some path → scope.isFeature path = false := by
  intro path named
  rw [file?] at named
  split at named
  · rename_i place read
    cases named
    have written := Text.withoutBeginning?_eq_some_iff.mp read
    rw [Bool.eq_false_iff]
    intro isFeature
    have first := (scope.isFeature_below_iff place).mp isFeature
    have split : uri.splitOn '/' =
        ("package:" ++ scope.packageName : Text).splitOn '/' ++ place.splitOn '/' := by
      rw [written, List.append_assoc]
      exact List.splitOnP_append_cons _ _ rfl
    rw [split] at foreign
    exact foreign (List.mem_append_right _ (List.mem_of_head? first))
  · rw [isPackage] at named
    cases named

theorem isFeature_path {route : Route} (isGroup : IsGroup route.group) (isName : IsName route.page)
    (layer : Layer) : scope.isFeature (layer.path scope.featuresDir route) = true := by
  have behind := Path.partsBehind?_append scope.featuresDir.parts []
    (route.group.splitOn '/' ++ (layer.folder ++ [layer.fileName route]))
  rw [List.append_nil] at behind
  rw [layer.path_eq scope.featuresDir isGroup isName, isFeature, Path.relativeTo?, if_pos rfl,
    behind]
  rfl

variable {scope}

theorem featureFiles_cons_of_feature {uri : Text} {uris : List Text} {path : Path}
    (named : scope.file? uri = some path) (isFeature : scope.isFeature path = true) :
    scope.featureFiles (uri :: uris) = path :: scope.featureFiles uris := by
  rw [featureFiles, List.filterMap_cons_some named, List.filter_cons_of_pos isFeature]
  rfl

theorem featureFiles_cons_of_package {uri : Text} {uris : List Text}
    (isPackage : List.isPrefixOf "package:" uri = true)
    (foreign : ("features" : Text) ∉ uri.splitOn '/') :
    scope.featureFiles (uri :: uris) = scope.featureFiles uris := by
  cases named : scope.file? uri with
  | none =>
      rw [featureFiles, List.filterMap_cons_none named]
      rfl
  | some path =>
      have outside := scope.isFeature_file?_eq_false isPackage foreign path named
      rw [featureFiles, List.filterMap_cons_some named,
        List.filter_cons_of_neg (Bool.eq_false_iff.mp outside)]
      rfl

/-- An import that starts in the package names no file of a feature if it starts elsewhere. -/
theorem featureFiles_cons_of_library {place : Text} {uris : List Text}
    (foreign : (place.splitOn '/').head? ≠ some ("features" : Text)) :
    scope.featureFiles (("package:" ++ scope.packageName ++ "/" ++ place) :: uris) =
      scope.featureFiles uris := by
  have outside : ¬ scope.isFeature (scope.library.below place) = true :=
    fun isFeature => foreign ((scope.isFeature_below_iff place).mp isFeature)
  rw [featureFiles, List.filterMap_cons_some (scope.file?_package place),
    List.filter_cons_of_neg outside]
  rfl

end ImportScope

namespace FeatureView

variable {view : FeatureView}

theorem importUris_viewLines :
    importUris (Layer.view.lines view).1 =
      (["package:flutter/material.dart", "package:flutter_riverpod/flutter_riverpod.dart",
        "package:" ++ view.packageName ++ "/" ++ "widgets/common_scaffold.dart",
        "controllers/" ++ view.stem "controller" ++ ".dart",
        "models/" ++ view.stem "state" ++ ".dart"] : List Text) := by
  have scaffoldImport : Text.between? "import '" "';"
      ("import 'package:" ++ view.packageName ++ "/widgets/common_scaffold.dart';") =
        some ("package:" ++ view.packageName ++ "/" ++ "widgets/common_scaffold.dart") := by
    rw [← Text.between?_append "import '" _ "';"]
    simp only [List.append_assoc]
    rfl
  have controllerImport : Text.between? "import '" "';"
      ("import 'controllers/" ++ view.stem "controller" ++ ".dart';") =
        some ("controllers/" ++ view.stem "controller" ++ ".dart") := by
    rw [← Text.between?_append "import '" _ "';"]
    simp only [List.append_assoc]
    rfl
  have stateImport : Text.between? "import '" "';"
      ("import 'models/" ++ view.stem "state" ++ ".dart';") =
        some ("models/" ++ view.stem "state" ++ ".dart") := by
    rw [← Text.between?_append "import '" _ "';"]
    simp only [List.append_assoc]
    rfl
  have constructed : view.constructorLines.filterMap (Text.between? "import '" "';") = [] := by
    rw [constructorLines]
    split <;> rfl
  rw [importUris]
  simp only [Layer.lines, List.flatten_cons, List.flatten_nil, List.append_nil,
    List.filterMap_append, List.filterMap_cons, constructed, scaffoldImport, controllerImport,
    stateImport]
  rfl

theorem importUris_controllerLines :
    importUris (Layer.controller.lines view).1 =
      (["package:flutter_riverpod/flutter_riverpod.dart",
        "package:" ++ view.packageName ++ "/" ++
          ("features/" ++ view.group ++ "/models/" ++ view.stem "state" ++ ".dart"),
        "package:" ++ view.packageName ++ "/" ++
          ("features/" ++ view.group ++ "/repositories/" ++ view.stem "repository" ++ ".dart")] :
        List Text) := by
  have stateImport : Text.between? "import '" "';"
      ("import 'package:" ++ view.packageName ++ "/features/" ++ view.group ++ "/models/" ++
        view.stem "state" ++ ".dart';") =
          some ("package:" ++ view.packageName ++ "/" ++
            ("features/" ++ view.group ++ "/models/" ++ view.stem "state" ++ ".dart")) := by
    rw [← Text.between?_append "import '" _ "';"]
    simp only [List.append_assoc]
    rfl
  have repositoryImport : Text.between? "import '" "';"
      ("import 'package:" ++ view.packageName ++ "/features/" ++ view.group ++ "/repositories/" ++
        view.stem "repository" ++ ".dart';") =
          some ("package:" ++ view.packageName ++ "/" ++
            ("features/" ++ view.group ++ "/repositories/" ++ view.stem "repository" ++
              ".dart")) := by
    rw [← Text.between?_append "import '" _ "';"]
    simp only [List.append_assoc]
    rfl
  rw [importUris]
  simp only [Layer.lines, List.flatten_cons, List.flatten_nil, List.append_nil,
    List.filterMap_append, List.filterMap_cons, stateImport, repositoryImport]
  rfl

end FeatureView

theorem splitOn_append_slash (left right : Text) :
    (left ++ '/' :: right).splitOn '/' = left.splitOn '/' ++ right.splitOn '/' :=
  List.splitOnP_append_cons _ _ rfl

section Imports

variable (library : Path) (packageName : Text) {route : Route} (isGroup : IsGroup route.group)
  (isName : IsName route.page)

include isGroup isName

theorem below_library (layer : Layer) {place : Text}
    (segments : place.splitOn '/' = ("features" : Text) :: (route.group.splitOn '/' ++
      (layer.folder ++ [layer.fileName route]))) :
    library.below place = layer.path (library.child "features") route := by
  rw [layer.path_eq _ isGroup isName, Path.below, segments, Path.child, List.append_assoc]
  rfl

theorem below_view (layer : Layer) {place : Text}
    (segments : place.splitOn '/' = layer.folder ++ [layer.fileName route]) :
    (Layer.view.path (library.child "features") route).parent.below place =
      layer.path (library.child "features") route := by
  rw [layer.path_eq _ isGroup isName, Layer.view.path_eq _ isGroup isName, Path.below, segments,
    Path.parent]
  have noFolder : Layer.view.folder = [] := rfl
  rw [noFolder, List.nil_append, ← List.append_assoc, List.dropLast_concat, List.append_assoc,
    List.append_assoc]

theorem file?_pageImport (directory : Path) :
    ImportScope.file? ⟨packageName, library, directory⟩
        (NavigationPlan.pageImport packageName route) =
      some (Layer.view.path (library.child "features") route) := by
  have written : NavigationPlan.pageImport packageName route =
      "package:" ++ packageName ++ "/features/" ++ route.group ++ "/" ++ route.fileStem ++
        ".dart" := rfl
  have opening : ("/features/" : Text) = "/" ++ ("features" ++ ['/']) := rfl
  have slash : ("/" : Text) = ['/'] := rfl
  have shape : NavigationPlan.pageImport packageName route = "package:" ++ packageName ++ "/" ++
      ("features" ++ '/' :: (route.group ++ '/' :: Layer.view.fileName route)) := by
    rw [written, opening, slash]
    simp only [List.append_assoc, List.cons_append, List.nil_append]
    rfl
  rw [shape, ImportScope.file?_package, below_library library isGroup isName .view]
  rw [splitOn_append_slash, splitOn_append_slash,
    splitOn_eq_singleton (Layer.view.slashless_fileName isName)]
  rfl

/-- The imports of the router name the view of each page. -/
theorem exists_pageImport {routes : List Route} (member : route ∈ routes) (directory : Path) :
    ∃ uri ∈ (NavigationPlan.ofRoutes routes packageName).pageImports,
      ImportScope.file? ⟨packageName, library, directory⟩ uri =
        some (Layer.view.path (library.child "features") route) := by
  have named : (!route.group.isEmpty) = true := by
    rw [Bool.not_eq_true', List.isEmpty_eq_false_iff]
    exact isGroup.ne_nil
  have kept : route ∈ routes.filter (!·.group.isEmpty) := List.mem_filter.mpr ⟨member, named⟩
  exact ⟨_, NavigationPlan.mem_firsts_id_iff.mpr (List.mem_map_of_mem kept),
    file?_pageImport library packageName isGroup isName directory⟩

theorem consists_ofRoute (oneLine : '\n' ∉ packageName) :
    (FeatureView.ofRoute packageName route).Consists (· ≠ '\n') where
  packageName := fun _ member => ne_of_mem_of_not_mem member oneLine
  group := fun _ member => ne_of_mem_of_not_mem member (isGroup.not_mem rfl (by decide))
  page := fun _ member => ne_of_mem_of_not_mem member (isName.not_mem rfl)

theorem featureFiles_viewLines :
    ImportScope.featureFiles ⟨packageName, library,
        (Layer.view.path (library.child "features") route).parent⟩
        (importUris (Layer.view.lines (.ofRoute packageName route)).1) =
      [Layer.controller.path (library.child "features") route,
        Layer.state.path (library.child "features") route] := by
  let scope : ImportScope := ⟨packageName, library,
    (Layer.view.path (library.child "features") route).parent⟩
  let view := FeatureView.ofRoute packageName route
  have controller : scope.file? ("controllers/" ++ view.stem "controller" ++ ".dart") =
      some (Layer.controller.path scope.featuresDir route) := by
    have shape : ("controllers/" ++ view.stem "controller" ++ ".dart" : Text) =
        "controllers" ++ '/' :: Layer.controller.fileName route := by
      simp only [List.append_assoc]
      rfl
    rw [ImportScope.file?_relative scope rfl, below_view library isGroup isName .controller]
    · rfl
    · rw [shape, splitOn_append_slash, splitOn_eq_singleton (Layer.slashless_fileName isName _)]
      rfl
  have state : scope.file? ("models/" ++ view.stem "state" ++ ".dart") =
      some (Layer.state.path scope.featuresDir route) := by
    have shape : ("models/" ++ view.stem "state" ++ ".dart" : Text) =
        "models" ++ '/' :: Layer.state.fileName route := by
      simp only [List.append_assoc]
      rfl
    rw [ImportScope.file?_relative scope rfl, below_view library isGroup isName .state]
    · rfl
    · rw [shape, splitOn_append_slash, splitOn_eq_singleton (Layer.slashless_fileName isName _)]
      rfl
  rw [FeatureView.importUris_viewLines, ImportScope.featureFiles_cons_of_package rfl (by decide),
    ImportScope.featureFiles_cons_of_package rfl (by decide)]
  refine (@ImportScope.featureFiles_cons_of_library scope _ _ (by decide)).trans ?_
  rw [ImportScope.featureFiles_cons_of_feature controller (scope.isFeature_path isGroup isName _),
    ImportScope.featureFiles_cons_of_feature state (scope.isFeature_path isGroup isName _)]
  rfl

theorem featureFiles_controllerLines (directory : Path) :
    ImportScope.featureFiles ⟨packageName, library, directory⟩
        (importUris (Layer.controller.lines (.ofRoute packageName route)).1) =
      [Layer.state.path (library.child "features") route,
        Layer.repository.path (library.child "features") route] := by
  let scope : ImportScope := ⟨packageName, library, directory⟩
  let view := FeatureView.ofRoute packageName route
  have state : scope.file? ("package:" ++ view.packageName ++ "/" ++
      ("features/" ++ view.group ++ "/models/" ++ view.stem "state" ++ ".dart")) =
        some (Layer.state.path scope.featuresDir route) := by
    have shape : ("features/" ++ view.group ++ "/models/" ++ view.stem "state" ++ ".dart" : Text) =
        "features" ++ '/' :: (route.group ++ '/' :: ("models" ++ '/' ::
          Layer.state.fileName route)) := by
      simp only [List.append_assoc]
      rfl
    refine (ImportScope.file?_package scope _).trans ?_
    rw [below_library library isGroup isName .state]
    · rfl
    · rw [shape, splitOn_append_slash, splitOn_append_slash, splitOn_append_slash,
        splitOn_eq_singleton (Layer.slashless_fileName isName _)]
      rfl
  have repository : scope.file? ("package:" ++ view.packageName ++ "/" ++
      ("features/" ++ view.group ++ "/repositories/" ++ view.stem "repository" ++ ".dart")) =
        some (Layer.repository.path scope.featuresDir route) := by
    have shape : ("features/" ++ view.group ++ "/repositories/" ++ view.stem "repository" ++
        ".dart" : Text) = "features" ++ '/' :: (route.group ++ '/' :: ("repositories" ++ '/' ::
          Layer.repository.fileName route)) := by
      simp only [List.append_assoc]
      rfl
    refine (ImportScope.file?_package scope _).trans ?_
    rw [below_library library isGroup isName .repository]
    · rfl
    · rw [shape, splitOn_append_slash, splitOn_append_slash, splitOn_append_slash,
        splitOn_eq_singleton (Layer.slashless_fileName isName _)]
      rfl
  rw [FeatureView.importUris_controllerLines, ImportScope.featureFiles_cons_of_package rfl (by decide)]
  rw [ImportScope.featureFiles_cons_of_feature state (scope.isFeature_path isGroup isName _),
    ImportScope.featureFiles_cons_of_feature repository (scope.isFeature_path isGroup isName _)]
  rfl

end Imports

end DartRoutes
