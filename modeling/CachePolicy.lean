import CachePolicy.Log.Setup
import CachePolicy.Session.Step
import CachePolicy.Text.Redacted
import CachePolicy.Proofs.Interception.Trace
import CachePolicy.Proofs.Interception.Agreement
import CachePolicy.Proofs.Interception.Runs
import CachePolicy.Proofs.Interception.Policy
import CachePolicy.Proofs.Key.Faults
import CachePolicy.Proofs.Key.Rendering
import CachePolicy.Proofs.Pattern.Breaking
import CachePolicy.Proofs.Interception.Delivery
import CachePolicy.Proofs.Memory.Site
import CachePolicy.Proofs.Table
import CachePolicy.Proofs.Memory.Coherence
import CachePolicy.Proofs.Memory.Recall
import CachePolicy.Proofs.Operation.Coverage
import CachePolicy.Proofs.Key.Reordering
import CachePolicy.Proofs.Key.Reading
import CachePolicy.Proofs.Key.Writable
import CachePolicy.Proofs.Operation.Binding
import CachePolicy.Proofs.Concurrency.Interleaving
import CachePolicy.Proofs.Backend.Mirroring
import CachePolicy.Proofs.Concurrency.Staleness
import CachePolicy.Proofs.Operation.Rewriting
import CachePolicy.Proofs.Backend.Namespaces
import CachePolicy.Proofs.Operation.Registry
import CachePolicy.Proofs.Datum.Written
import CachePolicy.Proofs.Datum.Reading
import CachePolicy.Proofs.Key.Similar
import CachePolicy.Proofs.Key.Rearranging
import CachePolicy.Proofs.Key.Entries
import CachePolicy.Proofs.Key.Separated
import CachePolicy.Proofs.Key.Trees
import CachePolicy.Proofs.Key.Carriers
import CachePolicy.Proofs.Pattern.Records
import CachePolicy.Proofs.Interception.Rows
import CachePolicy.Proofs.Interception.Lookups
import CachePolicy.Proofs.Log.Lines
import CachePolicy.Proofs.Pattern.Flags
import CachePolicy.Proofs.Key.Encoding
import CachePolicy.Proofs.Key.NormalForm
