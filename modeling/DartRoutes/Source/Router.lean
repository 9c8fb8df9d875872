import DartRoutes.Source.Literal
import DartRoutes.Text.Lines

/-!
# Router source

The text of the generated router: imports, the class of location constants, the quick navigation
list, the branch order and the router with its login gate, its login routes and its shell.
-/

namespace DartRoutes

/-- A route of the router: its path where it is mounted, its page, and its need for parameters. -/
structure MountedRoute where
  path : Text
  page : Text
  hasParams : Bool
  deriving DecidableEq, Repr

/-- An entry of the quick navigation list: a constant, or a location as a literal. -/
inductive QuickEntry where
  | constant (name : Text)
  | location (path : Text)
  deriving DecidableEq, Repr

structure MountedBranch where
  root : MountedRoute
  children : List MountedRoute
  deriving DecidableEq, Repr

/-- Everything that the text of the router depends on. -/
structure RouterView where
  customImports : List Text
  pageImports : List Text
  /-- Names and locations of the constants. -/
  constants : List (Text × Text)
  quickEntries : List QuickEntry
  branchRefs : List Text
  fallbackPage : Text
  shellWidget : Text
  authRoutes : List MountedRoute
  branches : List MountedBranch
  deriving DecidableEq, Repr

namespace RouterView

def importLines (view : RouterView) : List Text :=
  List.flatten [
    ["// GENERATED CODE - DO NOT MODIFY BY HAND",
      "// **************************************************************************",
      "// Router Auto Generated",
      "// **************************************************************************",
      "",
      "import 'package:flutter/material.dart';",
      "import 'package:go_router/go_router.dart';"],
    view.customImports,
    view.pageImports.map fun uri => "import '" ++ uri ++ "';",
    ["", "import 'core/di/providers.dart';", ""]]

def constantLine : Text × Text → Text
  | (name, path) => "  static const String " ++ name ++ " = " ++ dartLiteral path ++ ";"

/-- The class of location constants. -/
def constantLines (view : RouterView) : List Text :=
  List.flatten [["class RouteNames \x7b"], view.constants.map constantLine, ["\x7d", ""]]

def quickLine : QuickEntry → Text
  | .constant name => "    RouteNames." ++ name ++ ","
  | .location path => "    " ++ dartLiteral path ++ ","

def quickLines (view : RouterView) : List Text :=
  List.flatten [
    ["/// Routes that can be opened without parameters (quick navigation menu).",
      "class RouteNoParamList \x7b",
      "  static const List<String> routes = ["],
    view.quickEntries.map quickLine,
    ["  ];", "\x7d", ""]]

def branchOrderLines (view : RouterView) : List Text :=
  List.flatten [
    ["/// Branch root paths, in the same order as the StatefulShellRoute branches.",
      "/// Used by " ++ view.shellWidget ++ " to map a location to its navigation index.",
      "class RouterBranchPaths \x7b",
      "  static const List<String> branchRootPaths = ["],
    view.branchRefs.map fun reference => "    " ++ reference ++ ",",
    ["  ];", "\x7d", ""]]

/-- The router up to its routes, with the login gate. -/
def gateLines (view : RouterView) : List Text :=
  ["final GoRouter router = GoRouter(",
    "  navigatorKey: GlobalKey<NavigatorState>(),",
    "  refreshListenable: authStatus,",
    "  redirect: (context, state) \x7b",
    "    final loggedIn = authStatus.value;",
    "    final isLoggingIn = state.matchedLocation == RouteNames.auth;",
    "",
    "    if (!loggedIn) \x7b",
    "      return isLoggingIn ? null : RouteNames.auth;",
    "    \x7d",
    "    if (isLoggingIn) return RouteNames.home;",
    "",
    "    return null;",
    "  \x7d,",
    "  errorBuilder: (context, state) => " ++ view.fallbackPage
      ++ "(missingRoute: state.uri.toString()),",
    "  routes: ["]

def authLines (route : MountedRoute) : List Text :=
  List.flatten [
    ["    GoRoute(", "      path: " ++ dartLiteral route.path ++ ","],
    if route.hasParams then
      ["      builder: (context, state) \x7b",
        "        final params = (state.extra as Map<String, dynamic>?) ?? \x7b\x7d;",
        "        return " ++ route.page ++ "(params: params);",
        "      \x7d,"]
    else ["      builder: (context, state) => const " ++ route.page ++ "(),"],
    ["    ),"]]

/-- The page of a shell route, indented. -/
def pageLines (indent : Text) (route : MountedRoute) : List Text :=
  if route.hasParams then
    [indent ++ "pageBuilder: (context, state) \x7b",
      indent ++ "  final params = (state.extra as Map<String, dynamic>?) ?? \x7b\x7d;",
      indent ++ "  return NoTransitionPage(child: " ++ route.page ++ "(params: params));",
      indent ++ "\x7d,"]
  else
    [indent ++ "pageBuilder: (context, state) => NoTransitionPage(child: const " ++ route.page
      ++ "()),"]

def childLines (route : MountedRoute) : List Text :=
  List.flatten [
    ["                GoRoute(", "                  path: " ++ dartLiteral route.path ++ ","],
    pageLines "                  " route,
    ["                ),"]]

def branchLines (branch : MountedBranch) : List Text :=
  List.flatten [
    ["        StatefulShellBranch(",
      "          navigatorKey: GlobalKey<NavigatorState>(),",
      "          routes: [",
      "            GoRoute(",
      "              path: " ++ dartLiteral branch.root.path ++ ","],
    pageLines "              " branch.root,
    if branch.children.isEmpty then []
    else
      List.flatten [
        ["              routes: ["],
        branch.children.flatMap childLines,
        ["              ],"]],
    ["            ),", "          ],", "        ),"]]

/-- The shell with its branches, up to the end of the router. -/
def shellLines (view : RouterView) : List Text :=
  List.flatten [
    ["    StatefulShellRoute.indexedStack(",
      "      builder: (context, state, shell) => " ++ view.shellWidget
        ++ "(navigationShell: shell),",
      "      branches: ["],
    view.branches.flatMap branchLines,
    ["      ],", "    ),", "  ],", ");"]]

def lines (view : RouterView) : List Text :=
  view.importLines ++ view.constantLines ++ view.quickLines ++ view.branchOrderLines
    ++ view.gateLines ++ view.authRoutes.flatMap authLines ++ view.shellLines

def source (view : RouterView) : Text :=
  Text.ofLines view.lines

end RouterView

end DartRoutes
