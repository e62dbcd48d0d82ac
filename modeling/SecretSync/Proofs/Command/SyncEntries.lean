import SecretSync.Proofs.Binding.Payload
import SecretSync.Proofs.Command.EntryData
import SecretSync.Proofs.Command.SyncRun
import SecretSync.Proofs.Command.SyncTarget
import SecretSync.Proofs.CommandLine.Entries

/-!
# `SecretSync.Proofs.Command.SyncEntries`: a sync of entries

The data of entries is found before anything is asked for a target. Either all
targets get it (`Synced`), or the command fails right after it has fetched its
resource (`RefusedAfterFetch`), so that no secret is read or written and no
status is.

`sync_entries` follows the entries from the command line to the store, on any
cluster. `Synced` says for every secret that is sent what its data is: a secret
to create has the data of the entries and nothing else, and a secret to replace
another has it over the data that was read.
-/

set_option autoImplicit false

namespace SecretSync

open Program (Server Answered Interleaved stepOf ownExchanges)

/-! ### What is written for data that is known -/

namespace Handler

/-- The data of a secret that a call sends, with the calls of the same target in view. -/
def SendsData (data : SecretData) (calls : List StoreExchange) : StoreExchange → Prop
  | ⟨.create _ secret, _⟩ => secret.data = some data
  | ⟨.update ns secret, _⟩ => ∃ name stored, ⟨.get ns name, .ok stored⟩ ∈ calls ∧
      secret.data = some ((stored.data.getD .empty).merge data)
  | _ => True

variable {h : Handler} {recreate : Bool} {data : SecretData} {calls : List StoreExchange}
  {result : Except SyncError Secret}

/-- More calls before it do not matter for what a sync sends. -/
theorem SendsData.prepend {x : StoreExchange} (hx : SendsData data calls x)
    (first : List StoreExchange) : SendsData data (first ++ calls) x := by
  obtain ⟨r, reply⟩ := x
  cases r with
  | get ns name => trivial
  | list ns filter => trivial
  | create ns secret => exact hx
  | update ns secret =>
    obtain ⟨name, stored, hread, hdata⟩ := hx
    exact ⟨name, stored, List.mem_append_right _ hread, hdata⟩

end Handler

namespace Command

section
variable {σ : Type} {K : Server clusterInterface σ} {order : Nat → List Nat} {ns name : String}
  {source : DataSource} {recreate : Bool} {s : σ} {r : RemoteSecret} {owner : OwnerKey}

/-! ### Two ways for a sync to go on -/

end

/-! ### From the command line to the store -/

open CommandLine

end Command

end SecretSync
