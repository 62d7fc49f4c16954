import TagCatalog.Main
import TagCatalog.Store.Memory
import TagCatalog.Proofs.Filter.Naming
import TagCatalog.Proofs.Command.Wording
import TagCatalog.Proofs.Filter.Failure
import TagCatalog.Proofs.Filter.RoundTrip
import TagCatalog.Proofs.Filter.Partition
import TagCatalog.Proofs.Filter.Prefix
import TagCatalog.Proofs.Filter.Spacing
import TagCatalog.Proofs.Store.RoundTrip
import TagCatalog.Proofs.Store.Order
import TagCatalog.Proofs.Store.Convergence
import TagCatalog.Proofs.Store.Snapshot
import TagCatalog.Proofs.Command.Selection
import TagCatalog.Proofs.Filter.Composition
import TagCatalog.Proofs.Store.Monotonicity
import TagCatalog.Proofs.Store.Obstruction
import TagCatalog.Proofs.Store.Attempts
import TagCatalog.Proofs.Store.Commutation
import TagCatalog.Proofs.Store.Replacement
import TagCatalog.Proofs.Store.Offence
import TagCatalog.Proofs.Command.Input
import TagCatalog.Proofs.Store.Fetching
import TagCatalog.Proofs.Filter.Unbroken
import TagCatalog.Proofs.Tag.Value
import TagCatalog.Proofs.Command.Value
import TagCatalog.Proofs.Filter.Stepping
import TagCatalog.Proofs.Filter.Display
import TagCatalog.Proofs.Filter.Branch
import TagCatalog.Proofs.Settings.Override
import TagCatalog.Proofs.CommandLine.Display
