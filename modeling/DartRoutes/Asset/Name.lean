import DartRoutes.Naming
import DartRoutes.Path
import DartRoutes.Validation

/-!
# Resource constants

Every resource file gets a constant. Its name comes from the file name and the extension; when that
name is taken, the name of the directory is put in front once.
-/

namespace DartRoutes

/-- A resource constant: its name and the file that it stands for. -/
structure AssetEntry where
  name : Text
  path : Text
  deriving DecidableEq, Repr

namespace AssetEntry

/-- Does the path lie below `assets/<fragment>/` for one of the fragments? -/
def isIgnored (ignoreDirs : List Text) (path : Text) : Bool :=
  ignoreDirs.any fun fragment => Text.holds ("assets/" ++ fragment ++ "/") path

/-- The name that a file would get if no name were taken. -/
def baseName (path : Text) : Text :=
  let file := Path.ofText path
  toCamel file.stem ++ capitalize file.extension

/-- The name that a file gets when some names are taken. -/
def nameFor (used : List Text) (path : Text) : Text :=
  let name := baseName path
  if name ∈ used then toCamel (Path.ofText path).parent.name ++ capitalize name else name

/-- The constants of files in a given order, when some names are taken. -/
def assignFrom (used : List Text) : List Text → List AssetEntry
  | [] => []
  | path :: paths =>
      let name := nameFor used path
      ⟨name, path⟩ :: assignFrom (name :: used) paths

/-- The constants of the files that are not ignored. -/
def collect (ignoreDirs : List Text) (paths : List Text) : List AssetEntry :=
  assignFrom [] (paths.filter (!isIgnored ignoreDirs ·))

/-- Reads a constant from a mapping. -/
def ofValue (value : Value) : Checked AssetEntry := do
  let entries ← value.asRecord
  Checked.apply
    (Checked.apply (.ok AssetEntry.mk) (Checked.required "name" Value.asText entries))
    (Checked.required "path" Value.asText entries)

/-- The field names of a constant, in the order of its columns. -/
def columns : List Text :=
  ["name", "path"]

/-- Reads a constant from a mapping, or from a list of its name and its path. -/
def ofRow : Value → Checked AssetEntry
  | .list cells => ofValue (.map (columns.zip cells))
  | value => ofValue value

end AssetEntry

end DartRoutes
