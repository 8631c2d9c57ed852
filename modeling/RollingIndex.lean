import RollingIndex.Table
import RollingIndex.Text.Quoted
import RollingIndex.Decimal.Shortest
import RollingIndex.Json.Writer
import RollingIndex.Json.Reader
import RollingIndex.Pattern.Basic
import RollingIndex.Naming
import RollingIndex.Failure
import RollingIndex.Store.Operation
import RollingIndex.Deployment.Retention
import RollingIndex.Deployment.Ingest
import RollingIndex.Deployment.Run
import RollingIndex.Admin.Handler
import RollingIndex.Config.Text
import RollingIndex.CommandLine
import RollingIndex.Launch
import RollingIndex.Main
import RollingIndex.Proofs.NameSpaces
import RollingIndex.Proofs.Bindings
import RollingIndex.Proofs.StoreChanges
import RollingIndex.Proofs.BulkWrites
import RollingIndex.Proofs.Consistency
import RollingIndex.Proofs.Separation
import RollingIndex.Proofs.Configurations
import RollingIndex.Proofs.Rotations
import RollingIndex.Proofs.Ages
import RollingIndex.Proofs.Sweeps
import RollingIndex.Proofs.Transitions
import RollingIndex.Proofs.Runs
import RollingIndex.Proofs.AliasSafety
import RollingIndex.Proofs.Isolation
import RollingIndex.Proofs.Durability
import RollingIndex.Proofs.Atomicity
import RollingIndex.Proofs.Listings
import RollingIndex.Proofs.SharedStores
import RollingIndex.Proofs.RotationNumbers
import RollingIndex.Proofs.Recovery
import RollingIndex.Proofs.Ledgers
import RollingIndex.Proofs.ErrorAnswers
import RollingIndex.Proofs.CompleteListings
import RollingIndex.Proofs.Totals
import RollingIndex.Proofs.Startup
import RollingIndex.Proofs.Retention
import RollingIndex.Proofs.RecentIndex
import RollingIndex.Proofs.Records
import RollingIndex.Proofs.RotationOutcomes
import RollingIndex.Proofs.BulkSemantics
import RollingIndex.Proofs.DualWrites
import RollingIndex.Proofs.RequestOrder
import RollingIndex.Proofs.AliasPairs
import RollingIndex.Proofs.StoredDocuments
import RollingIndex.Proofs.Purges
import RollingIndex.Proofs.Cutovers
import RollingIndex.Proofs.Selections
import RollingIndex.Proofs.Spellings
import RollingIndex.Proofs.Sizes
import RollingIndex.Proofs.ReportLines
import RollingIndex.Proofs.NextNames
import RollingIndex.Proofs.OldestIndices
