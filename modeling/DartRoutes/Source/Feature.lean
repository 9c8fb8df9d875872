import DartRoutes.Naming
import DartRoutes.Text.Lines

/-!
# Feature sources

The texts of the four files of a feature page: the view, its controller, the state that the
controller holds and the repository that it reads. Class, provider and file names are all derived
from the page class name, so that the files refer to each other.
-/

namespace DartRoutes

/-- Everything that the files of a feature page depend on. -/
structure FeatureView where
  packageName : Text
  group : Text
  page : Text
  hasParams : Bool
  deriving DecidableEq, Repr

namespace FeatureView

/-- The file stem of the page's companion file for a layer. -/
def stem (view : FeatureView) (layer : Text) : Text :=
  layerStem view.page layer

/-- The name from which the providers are named. -/
def routeName (view : FeatureView) : Text :=
  toRouteName view.page

def controllerClass (view : FeatureView) : Text :=
  stripPageSuffix view.page ++ "Controller"

def stateClass (view : FeatureView) : Text :=
  stripPageSuffix view.page ++ "State"

def repositoryClass (view : FeatureView) : Text :=
  stripPageSuffix view.page ++ "Repository"

def constructorLines (view : FeatureView) : List Text :=
  if view.hasParams then
    ["  final Map<String, dynamic> params;",
      "",
      "  const " ++ view.page ++ "(\x7b",
      "    super.key,",
      "    required this.params,",
      "  \x7d);"]
  else ["  const " ++ view.page ++ "(\x7bsuper.key\x7d);"]

def viewSource (view : FeatureView) : Text :=
  Text.ofLines <| List.flatten [
    ["import 'package:flutter/material.dart';",
      "import 'package:flutter_riverpod/flutter_riverpod.dart';",
      "import 'package:" ++ view.packageName ++ "/widgets/common_scaffold.dart';",
      "import 'controllers/" ++ view.stem "controller" ++ ".dart';",
      "import 'models/" ++ view.stem "state" ++ ".dart';",
      "",
      "class " ++ view.page ++ " extends ConsumerStatefulWidget \x7b"],
    view.constructorLines,
    ["",
      "  @override",
      "  ConsumerState<" ++ view.page ++ "> createState() => _" ++ view.page ++ "State();",
      "\x7d",
      "",
      "class _" ++ view.page ++ "State extends ConsumerState<" ++ view.page ++ "> \x7b",
      "  @override",
      "  Widget build(BuildContext context) \x7b",
      "    final state = ref.watch(" ++ view.routeName ++ "ControllerProvider);",
      "",
      "    return CommonScaffold(",
      "      titleStr: '" ++ view.page ++ "',",
      "      body: state.when(",
      "        loading: () => const Center(child: CircularProgressIndicator()),",
      "        success: () => const Center(child: Text('" ++ view.page ++ "')),",
      "        error: (message) => Center(child: Text('Error: $message')),",
      "      ),",
      "    );",
      "  \x7d",
      "\x7d"]]

def controllerSource (view : FeatureView) : Text :=
  Text.ofLines <| List.flatten [
    ["import 'package:flutter_riverpod/flutter_riverpod.dart';",
      "import 'package:" ++ view.packageName ++ "/features/" ++ view.group ++ "/models/"
        ++ view.stem "state" ++ ".dart';",
      "import 'package:" ++ view.packageName ++ "/features/" ++ view.group ++ "/repositories/"
        ++ view.stem "repository" ++ ".dart';",
      "",
      "/// Page controller for " ++ view.page,
      "final " ++ view.routeName ++ "ControllerProvider = StateNotifierProvider.autoDispose<",
      "    " ++ view.controllerClass ++ ",",
      "    " ++ view.stateClass,
      ">(",
      "  (ref) => " ++ view.controllerClass ++ "(ref),",
      ");",
      ""],
    ["class " ++ view.controllerClass ++ " extends StateNotifier<" ++ view.stateClass ++ "> \x7b",
      "  final Ref _ref;",
      "",
      "  " ++ view.controllerClass ++ "(this._ref) : super(const " ++ view.stateClass
        ++ ".loading()) \x7b",
      "    _loadData();",
      "  \x7d",
      ""],
    ["  /// Load initial data",
      "  Future<void> _loadData() async \x7b",
      "    try \x7b",
      "      final repository = _ref.read(" ++ view.routeName ++ "RepositoryProvider);",
      "",
      "      state = const " ++ view.stateClass ++ ".success();",
      "    \x7d catch (e) \x7b",
      "      state = " ++ view.stateClass ++ ".error(message: e.toString());",
      "    \x7d",
      "  \x7d",
      "",
      "  /// Refresh data",
      "  Future<void> refresh() => _loadData();",
      "\x7d"]]

def stateSource (view : FeatureView) : Text :=
  Text.ofLines
    ["import 'package:freezed_annotation/freezed_annotation.dart';",
      "",
      "part '" ++ view.stem "state" ++ ".freezed.dart';",
      "",
      "/// State for " ++ view.page,
      "@freezed",
      "sealed class " ++ view.stateClass ++ " with _$" ++ view.stateClass ++ " \x7b",
      "  const " ++ view.stateClass ++ "._();",
      "",
      "  const factory " ++ view.stateClass ++ ".loading() = _Loading;",
      "  const factory " ++ view.stateClass ++ ".success() = _Success;",
      "  const factory " ++ view.stateClass ++ ".error(\x7brequired String message\x7d) = _Error;",
      "",
      "  bool get isLoading => this is _Loading;",
      "  bool get isSuccess => this is _Success;",
      "  bool get isError => this is _Error;",
      "\x7d"]

def repositorySource (view : FeatureView) : Text :=
  Text.ofLines
    ["import 'package:flutter_riverpod/flutter_riverpod.dart';",
      "",
      "/// Repository for " ++ view.page,
      "final " ++ view.routeName ++ "RepositoryProvider = Provider((ref) => "
        ++ view.repositoryClass ++ "());",
      "",
      "class " ++ view.repositoryClass ++ " \x7b",
      "\x7d"]

end FeatureView

end DartRoutes
