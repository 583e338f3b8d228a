import AssetCatalog.Main
import AssetCatalog.Proofs.Asset.Conflicts
import AssetCatalog.Proofs.Module.Order
import AssetCatalog.Proofs.Module.Siblings
import AssetCatalog.Proofs.Project.Again
import AssetCatalog.Proofs.Settings.Again
import AssetCatalog.Proofs.Settings.Modes
import AssetCatalog.Proofs.CommandLine.Agreement
import AssetCatalog.Proofs.HardcodedPath.Visit
import AssetCatalog.Proofs.HardcodedPath.Report
import AssetCatalog.Proofs.Source.Expression
import AssetCatalog.Proofs.Source.Statement
import AssetCatalog.Proofs.Asset.Growth
import AssetCatalog.Proofs.Module.Growth
import AssetCatalog.Proofs.Asset.Relocation
import AssetCatalog.Proofs.Module.Relocation
import AssetCatalog.Proofs.Asset.Opening
import AssetCatalog.Proofs.Discovery.Relocation
import AssetCatalog.Proofs.Project.DryRun
import AssetCatalog.Proofs.Project.Check
import AssetCatalog.Proofs.Discovery.Listing
import AssetCatalog.Proofs.Name.Underscore
import AssetCatalog.Proofs.Settings.Usable
import AssetCatalog.Proofs.Log.Recovery
import AssetCatalog.Proofs.Log.Delivery
import AssetCatalog.Proofs.Asset.Search
import AssetCatalog.Proofs.Name.Sharing
import AssetCatalog.Proofs.Settings.Overrides
import AssetCatalog.Proofs.Store.Publishing
import AssetCatalog.Proofs.Glob.Segments
import AssetCatalog.Proofs.Name.Words
import AssetCatalog.Proofs.Exclusion.Compilation
import AssetCatalog.Proofs.HardcodedPath.Order
import AssetCatalog.Proofs.Source.Literal
import AssetCatalog.Proofs.Module.Outline
import AssetCatalog.Proofs.Settings.ClassName
