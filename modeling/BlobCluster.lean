import BlobCluster.Main
import BlobCluster.Serving
import BlobCluster.Settings.Load
import BlobCluster.Proofs.Table.Total
import BlobCluster.Proofs.Ledger.Lookup
import BlobCluster.Proofs.Ledger.Selection
import BlobCluster.Proofs.Master.Interleaving
import BlobCluster.Proofs.Ledger.Balance
import BlobCluster.Proofs.Ledger.Outcome
import BlobCluster.Proofs.Master.Books
import BlobCluster.Proofs.BlobId
import BlobCluster.Proofs.Digest.Streaming
import BlobCluster.Proofs.Storage.Changes
import BlobCluster.Proofs.Action
import BlobCluster.Proofs.Bytes.Cut
import BlobCluster.Proofs.Storage.Reading
import BlobCluster.Proofs.Storage.Files
import BlobCluster.Proofs.Worker.Saving
import BlobCluster.Proofs.Gateway.Buffering
import BlobCluster.Proofs.Ledger.Holders
import BlobCluster.Proofs.Cluster.Operations
import BlobCluster.Proofs.Cluster.Calls
import BlobCluster.Proofs.Cluster.Keeping
import BlobCluster.Proofs.Cluster.Verified
import BlobCluster.Proofs.Cluster.Downloading
import BlobCluster.Proofs.Cluster.RoundTrip
import BlobCluster.Proofs.Ledger.Booking
import BlobCluster.Proofs.Master.Shares
import BlobCluster.Proofs.Bytes.Order
import BlobCluster.Proofs.Ledger.Deeds
import BlobCluster.Proofs.Ledger.LifeCycle
import BlobCluster.Proofs.Ledger.Finding
import BlobCluster.Proofs.Master.History
import BlobCluster.Proofs.Worker.Tidy
import BlobCluster.Proofs.Cluster.Services
import BlobCluster.Proofs.Cluster.Roots
import BlobCluster.Proofs.Cluster.Replication
import BlobCluster.Proofs.Ledger.Ranking
import BlobCluster.Proofs.Ledger.Stopping
import BlobCluster.Proofs.Master.Repetition
import BlobCluster.Proofs.Master.Retrying
import BlobCluster.Proofs.Storage.Ready
import BlobCluster.Proofs.Worker.Ready
import BlobCluster.Proofs.Cluster.Steps
import BlobCluster.Proofs.Cluster.Fair
import BlobCluster.Proofs.Ledger.Admission
import BlobCluster.Proofs.Cluster.Admission
import BlobCluster.Proofs.Master.Stranding
import BlobCluster.Proofs.Master.Lockstep
import BlobCluster.Proofs.Bytes.Utf8
import BlobCluster.Proofs.Http.Percent
import BlobCluster.Proofs.Http.Address
import BlobCluster.Proofs.Http.Naming
import BlobCluster.Proofs.Http.Link
import BlobCluster.Proofs.Json.Strings
import BlobCluster.Proofs.Json.Values
import BlobCluster.Proofs.Wire.Forms
import BlobCluster.Proofs.Master.Remote
import BlobCluster.Proofs.Worker.Remote
import BlobCluster.Proofs.Cluster.Remote
import BlobCluster.Proofs.Master.Additions
import BlobCluster.Proofs.Cluster.Shards
import BlobCluster.Proofs.Master.Placing
import BlobCluster.Proofs.Ledger.Breaking
import BlobCluster.Proofs.Master.BreakingOff
import BlobCluster.Proofs.Storage.Temporary
import BlobCluster.Proofs.Messages
import BlobCluster.Proofs.Worker.Committing
import BlobCluster.Proofs.Cluster.Committing
import BlobCluster.Proofs.Gateway.Rejecting
import BlobCluster.Proofs.Master.Hearing
import BlobCluster.Proofs.Cluster.Sparing
import BlobCluster.Proofs.Cluster.Failing
import BlobCluster.Proofs.Http.Failures
import BlobCluster.Proofs.Ledger.Keyed
import BlobCluster.Proofs.Ledger.Recorded
import BlobCluster.Proofs.Master.Resetting
import BlobCluster.Proofs.Worker.Removing
import BlobCluster.Proofs.Cluster.Purging
import BlobCluster.Proofs.Cluster.Deleting
import BlobCluster.Proofs.Storage.Interference
import BlobCluster.Proofs.Storage.Confinement
import BlobCluster.Proofs.Storage.Recutting
import BlobCluster.Proofs.Storage.Growing
import BlobCluster.Proofs.Storage.Undisturbed
import BlobCluster.Proofs.Storage.Trail
import BlobCluster.Proofs.Storage.Gone
import BlobCluster.Proofs.Retry
import BlobCluster.Proofs.Registration
import BlobCluster.Proofs.Master.Registering
import BlobCluster.Proofs.Digest.Identity
import BlobCluster.Proofs.Wire.Faithful
