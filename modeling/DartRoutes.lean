import DartRoutes.Main
import DartRoutes.Proofs.AssetManifest
import DartRoutes.Proofs.BranchLocation
import DartRoutes.Proofs.ConfigurationReading
import DartRoutes.Proofs.FeatureContainment
import DartRoutes.Proofs.LiteralWriting
import DartRoutes.Proofs.ReferenceClosure
import DartRoutes.Proofs.RouterRoundTrip
import DartRoutes.Proofs.SecondRun
import DartRoutes.Proofs.StageOutput
import DartRoutes.Proofs.TableCode
import DartRoutes.Proofs.TableNaming
import DartRoutes.Proofs.TableRoundTrip
import DartRoutes.Proofs.ViewOwnership
import DartRoutes.Template.Custom
import DartRoutes.Proofs.LiteralEscape
import DartRoutes.Proofs.FirstOccurrence
import DartRoutes.Proofs.RouteOrder
import DartRoutes.Proofs.PathSpelling
import DartRoutes.Proofs.ImportLiteral
import DartRoutes.Proofs.WordBoundary
import DartRoutes.Proofs.ResourceName
import DartRoutes.Proofs.ScaffoldOrder
import DartRoutes.Proofs.ResourceAddition
import DartRoutes.Proofs.ResourceExclusion
import DartRoutes.Proofs.TableIdentifier
import DartRoutes.Proofs.CommandEffect
import DartRoutes.Proofs.TableMachine
import DartRoutes.Proofs.TableProgress
import DartRoutes.Proofs.BinaryRounding
import DartRoutes.Proofs.TokenTiling
import DartRoutes.Proofs.DurationFigure
