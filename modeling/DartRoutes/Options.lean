import DartRoutes.Validation

/-!
# Builder options

The options of a project's configuration file. Every option has a default, and its name in the file
may be written in camel case or with underscores; the camel case name wins.
-/

namespace DartRoutes

/-- The options of a project's configuration file. -/
structure BuilderOptions where
  /-- Lines that are written verbatim among the imports of the router. -/
  customImports : List Text
  customCode : Text
  /-- Directories below the assets whose files get no constant. -/
  ignoreDirs : List Text
  /-- The page that is shown for an unknown location. -/
  fallbackPage : Text
  /-- The widget around the branches of the shell. -/
  shellWidget : Text
  deriving DecidableEq, Repr

namespace BuilderOptions

def default : BuilderOptions where
  customImports := []
  customCode := []
  ignoreDirs := ["images/emoji", "images/country", "fonts"]
  fallbackPage := "UpgradeNoticePage"
  shellWidget := "HomeScreen"

def ofValue (value : Value) : Checked BuilderOptions := do
  let entries ← value.asRecord
  let texts := Value.asList .listType Value.asText
  Checked.apply
    (Checked.apply
      (Checked.apply
        (Checked.apply
          (Checked.apply (.ok BuilderOptions.mk)
            (Checked.optional ["customImports", "custom_imports"] default.customImports texts
              entries))
          (Checked.optional ["customCode", "custom_code"] default.customCode Value.asText entries))
        (Checked.optional ["ignoreDirs", "ignore_dirs"] default.ignoreDirs texts entries))
      (Checked.optional ["fallbackPage", "fallback_page"] default.fallbackPage Value.asText
        entries))
    (Checked.optional ["shellWidget", "shell_widget"] default.shellWidget Value.asText entries)

end BuilderOptions

end DartRoutes
