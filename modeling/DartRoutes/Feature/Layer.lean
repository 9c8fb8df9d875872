import DartRoutes.Path
import DartRoutes.Route.Basic
import DartRoutes.Source.Feature

/-!
# Layers of a feature page

A feature page has four files: its view, the controller of the view, the state that the controller
holds and the repository that it reads. Each layer has a directory of its own below the directory
of the group, except the view, which lies in the group's directory itself.
-/

namespace DartRoutes

/-- A file of a feature page. -/
inductive Layer where
  | view
  | controller
  | state
  | repository
  deriving DecidableEq, Repr

namespace Layer

def all : List Layer :=
  [.view, .controller, .state, .repository]

/-- The layers that every feature page is checked for; the others come with the controller. -/
def leading : List Layer :=
  [.view, .controller]

/-- The layers that are checked after a layer is created. -/
def companions : Layer → List Layer
  | controller => [.state, .repository]
  | _ => []

def name : Layer → Text
  | view => "view"
  | controller => "controller"
  | state => "state"
  | repository => "repository"

/-- The ending of the file stems of a layer. -/
def stemEnding : Layer → Text
  | view => "page"
  | layer => layer.name

/-- The directory of a layer, seen from the directory of the group. -/
def directory : Layer → Text
  | view => []
  | controller => "controllers"
  | state => "models"
  | repository => "repositories"

/-- The file of a layer of a route's page. -/
def path (featuresDir : Path) (route : Route) (layer : Layer) : Path :=
  let file : Text := layerStem route.page layer.stemEnding ++ ".dart"
  featuresDir / route.group / layer.directory / file

def source (view : FeatureView) : Layer → Text
  | .view => view.viewSource
  | controller => view.controllerSource
  | state => view.stateSource
  | repository => view.repositorySource

end Layer

/-- What the files of a route's page depend on. -/
def FeatureView.ofRoute (packageName : Text) (route : Route) : FeatureView :=
  ⟨packageName, route.group, route.page, route.hasParams⟩

end DartRoutes
