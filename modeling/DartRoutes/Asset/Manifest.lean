import DartRoutes.Asset.Name
import DartRoutes.Source.Manifest

/-!
# Source of resource constants
-/

namespace DartRoutes

def manifestSource (entries : List AssetEntry) : Text :=
  ManifestView.source (entries.map fun entry => (entry.name, entry.path))

end DartRoutes
