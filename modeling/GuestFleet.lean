import GuestFleet.Config.Reading
import GuestFleet.Controller.Watch
import GuestFleet.Failure.Reading
import GuestFleet.Health.Probe
import GuestFleet.Main
import GuestFleet.Proofs.Change.Merged
import GuestFleet.Proofs.Resource.Pod
import GuestFleet.Proofs.Cluster.Territory
import GuestFleet.Proofs.Reconcile.Keeping
import GuestFleet.Store.Changes
import GuestFleet.Proofs.Resource.Confined
import GuestFleet.Proofs.Cluster.Isolation
import GuestFleet.Proofs.Cluster.Valid
import GuestFleet.Proofs.Store.Reads
import GuestFleet.Proofs.Change.Differences
import GuestFleet.Proofs.Cluster.Desired
import GuestFleet.Proofs.Resource.Underway
import GuestFleet.Proofs.Resource.Progress
import GuestFleet.Proofs.Resource.Readings
import GuestFleet.Proofs.Resource.Settling
import GuestFleet.Proofs.Resource.Settled
import GuestFleet.Proofs.Cluster.Ownership
import GuestFleet.Proofs.Cluster.Idempotence
import GuestFleet.Proofs.Resource.Treatments
import GuestFleet.Proofs.Resource.Merging
import GuestFleet.Proofs.Resource.Rebinding
import GuestFleet.Proofs.Cluster.Resilience
import GuestFleet.Proofs.Cluster.Convergence
import GuestFleet.Proofs.Cluster.Teardown
import GuestFleet.Proofs.Cluster.LostRolls
import GuestFleet.Proofs.Json.Foreign
import GuestFleet.Proofs.Resource.Repeating
import GuestFleet.Proofs.Cluster.RollOut
import GuestFleet.Proofs.Cluster.Afresh
import GuestFleet.Proofs.Cluster.Footprint
import GuestFleet.Proofs.Cluster.Stopping
import GuestFleet.Proofs.Reconcile.Journal
import GuestFleet.Proofs.Store.Shared
import GuestFleet.Proofs.Store.History
import GuestFleet.Proofs.Metrics.Gauges
import GuestFleet.Proofs.Manifest.References
import GuestFleet.Proofs.Manifest.EnvironmentFile
import GuestFleet.Proofs.Manifest.Labels
import GuestFleet.Proofs.Cluster.Noticed
import GuestFleet.Proofs.Cluster.Reselecting
import GuestFleet.Proofs.Change.Snapshot
import GuestFleet.Proofs.Resource.Contended
import GuestFleet.Proofs.Json.Settled
import GuestFleet.Proofs.Json.PatchRules
import GuestFleet.Proofs.Change.Partition
import GuestFleet.Proofs.Resource.Releasing
import GuestFleet.Proofs.Change.Lossless
import GuestFleet.Proofs.Manifest.Names
import GuestFleet.Proofs.Controller.Requeue
import GuestFleet.Proofs.Reconcile.Attempts
import GuestFleet.Proofs.Reconcile.Backoff
import GuestFleet.Proofs.Cluster.Selectors
import GuestFleet.Proofs.Cluster.VersionTexts
