import DartRoutes.Source.Literal
import DartRoutes.Text.Lines

/-!
# Resource source

The text of the generated class of resource constants.
-/

namespace DartRoutes

/-- The names of the resource constants and the files that they stand for. -/
abbrev ManifestView := List (Text × Text)

namespace ManifestView

def constantLine : Text × Text → Text
  | (name, path) => "  static const String " ++ name ++ " = " ++ dartLiteral path ++ ";"

def source (view : ManifestView) : Text :=
  Text.ofLines <| List.flatten [
    ["// GENERATED CODE - DO NOT MODIFY BY HAND", "", "class R \x7b", "  R._();", ""],
    view.map constantLine,
    ["\x7d"]]

end ManifestView

end DartRoutes
