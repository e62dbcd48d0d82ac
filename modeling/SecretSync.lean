import SecretSync.Api.Server
import SecretSync.Main
import SecretSync.Proofs.Binding.Effect
import SecretSync.Proofs.Binding.Measurements
import SecretSync.Proofs.Binding.Payload
import SecretSync.Proofs.Binding.WantedTags
import SecretSync.Proofs.Binding.Serializability
import SecretSync.Proofs.Command.RepeatedSync
import SecretSync.Proofs.Ownership.Recording
import SecretSync.Resource.Definition
import SecretSync.Proofs.Binding.Accounting
import SecretSync.Proofs.Cluster.Namespaces
import SecretSync.Proofs.Binding.Independence
import SecretSync.Proofs.Cluster.Names
import SecretSync.Proofs.Binding.Listing
import SecretSync.Proofs.Resource.RoundTrip
import SecretSync.Proofs.Api.Addresses
import SecretSync.Proofs.ListFilter
import SecretSync.Proofs.Api.Calls
import SecretSync.Proofs.Program.Refinement
import SecretSync.Proofs.Binding.Refinement
import SecretSync.Proofs.Api.Refinement
import SecretSync.Proofs.Resource.WrittenForm
import SecretSync.Proofs.Validation.GeneratedNames
import SecretSync.Proofs.Ownership.Bystanders
import SecretSync.Proofs.Binding.Staleness
import SecretSync.Proofs.Binding.SingleRace
import SecretSync.Proofs.Binding.Limit
import SecretSync.Proofs.Command.OwnerRows
import SecretSync.Proofs.ReferencedSet.Canonical
import SecretSync.Proofs.Resource.Reports
import SecretSync.Proofs.Validation.DistinctTargets
import SecretSync.Proofs.Validation.NamePatterns
import SecretSync.Proofs.Command.Unlinking
import SecretSync.Proofs.ListFilter.Selector
import SecretSync.Proofs.Command.SyncEntries
import SecretSync.Proofs.Binding.Copying
