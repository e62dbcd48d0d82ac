import SecretSync.Api.Server
import SecretSync.Command.Sync
import SecretSync.Proofs.Cluster.Requests
import SecretSync.Proofs.Command.Store
import SecretSync.Proofs.Resource.StatusPatch

/-!
# `SecretSync.Proofs.Command.Documented`: clusters that keep a document

A command reads a resource and records targets in its status. `Step.Serves`
says of one step of a cluster what it must do for that: a fetch reads the
document, recording targets patches its status, and nothing else changes it.
What a patch leaves alone is said by `OnlyTargets`.

`Documented` is such a cluster, with the store in memory. All of its steps
serve the document (`Documented.serves`), it grants the requests about a
document that can be read (`Documented.granted`), and its store answers with
the secrets that it is asked for (`Documented.faithful`).
-/

set_option autoImplicit false

namespace SecretSync

open Json (findField fieldsOf)
open Program (Server)

/-- The targets that a request has recorded, if it was one to do so and succeeded. -/
def Exchange.recorded? : Exchange clusterInterface → Option (List TargetStatus)
  | ⟨.recordTargets _ _ targets, .ok _⟩ => some targets
  | _ => none

/-- A request about a resource that was granted; requests to the store may also fail. -/
def Exchange.Granted : Exchange clusterInterface → Prop
  | ⟨.store _, _⟩ => True
  | ⟨.fetch _ _, reply⟩ => ∃ r, reply = .ok r
  | ⟨.recordTargets _ _ _, reply⟩ => ∃ r, reply = .ok r

/-- What a step does to the document of a resource, of which `doc` is what the cluster holds. Only
recording targets changes it, and what is fetched is what it says. -/
def Step.Serves {σ : Type} (ns name : String) (doc : σ → Json) : Step clusterInterface σ → Prop
  | ⟨⟨.store _, _⟩, before, after⟩ => doc after = doc before
  | ⟨⟨.fetch ns' name', reply⟩, before, after⟩ =>
    doc after = doc before ∧
      (ns' = ns → name' = name → ∀ r, reply = .ok r →
        RemoteSecret.ofDocument? (doc before) = some r)
  | ⟨⟨.recordTargets ns' name' targets, reply⟩, before, after⟩ =>
    ns' = ns → name' = name → ∀ r, reply = .ok r →
      doc after = ApiServer.patchedStatus (doc before) (RemoteSecretApi.targetsPatch targets)

/-- A document in which nothing but the recorded targets is new. -/
structure OnlyTargets (r : RemoteSecret) (targets : List TargetStatus) (document document' : Json) :
    Prop where
  /-- It reads as the same resource with these targets: the metadata, the specification and the
  conditions are the same. -/
  read : RemoteSecret.ofDocument? document'
    = some { r with status := some { (r.status.getD {}) with targets := targets } }
  /-- The other fields are as they were written. -/
  fields : ∀ field, field ≠ "status" →
    findField field document'.fieldsOf = findField field document.fieldsOf
  /-- So are the other fields of the status. -/
  statusFields : ∀ field, field ≠ "targets" →
    findField field document'.statusPart.fieldsOf = findField field document.statusPart.fieldsOf

theorem onlyTargets_patchedStatus {r : RemoteSecret} {document : Json}
    (hr : RemoteSecret.ofDocument? document = some r) (targets : List TargetStatus) :
    OnlyTargets r targets document
      (ApiServer.patchedStatus document (RemoteSecretApi.targetsPatch targets)) where
  read := RemoteSecret.ofDocument?_patchedStatus hr targets
  fields field hfield := ApiServer.findField_patchedStatus document targets hfield
  statusFields field hfield := by
    obtain ⟨fields, rfl, honce, -⟩ := RemoteSecret.ofDocument?_eq_some_iff.1 hr
    exact ApiServer.findField_statusPart_patchedStatus targets
      (Json.occurrences_le_of_eachOnce honce (by simp)) hfield

/-! ### A cluster in memory -/

/-- A cluster in memory with the document of one resource. -/
structure Documented where
  cluster : Cluster StoreError
  document : Json

namespace Documented

/-- What the document says. -/
def read (document : Json) : Except ApiFailure RemoteSecret :=
  match RemoteSecret.ofDocument? document with
  | some r => .ok r
  | none => .error .unreadable

/-- The answers of such a cluster. -/
def server : Server clusterInterface Documented
  | .store r, s => ((Cluster.storeServer r s.cluster).1,
      { s with cluster := (Cluster.storeServer r s.cluster).2 })
  | .fetch _ _, s => (read s.document, s)
  | .recordTargets _ _ targets, s =>
    let changed := ApiServer.patchedStatus s.document (RemoteSecretApi.targetsPatch targets)
    (read changed, { s with document := changed })

variable {α : Type} {p : ClusterProgram α} {s : Documented} {x : Step clusterInterface Documented}

/-- Every step serves the document. -/
theorem serves (ns name : String) (hx : x ∈ p.steps server s) : x.Serves ns name document := by
  obtain ⟨⟨r, reply⟩, before, after⟩ := x
  have hanswer : server r before = (reply, after) := Program.server_of_mem_steps server hx
  cases r with
  | store r =>
    obtain ⟨-, rfl⟩ := Prod.mk.inj hanswer
    rfl
  | fetch ns' name' =>
    obtain ⟨hread, rfl⟩ := Prod.mk.inj hanswer
    refine ⟨rfl, fun _ _ r hr => ?_⟩
    have hread : read before.document = .ok r := hread.trans hr
    unfold read at hread
    split at hread
    · rename_i r' hr'
      rw [hr', Except.ok.inj hread]
    · cases hread
  | recordTargets ns' name' targets =>
    obtain ⟨-, rfl⟩ := Prod.mk.inj hanswer
    exact fun _ _ r _ => rfl

/-- The store is in order, and the document can be read as a resource. -/
structure Regular (s : Documented) : Prop where
  cluster : s.cluster.Regular
  readable : ∃ r, RemoteSecret.ofDocument? s.document = some r

theorem read_of_ofDocument? {document : Json} {r : RemoteSecret}
    (hr : RemoteSecret.ofDocument? document = some r) : read document = .ok r := by
  unfold read
  rw [hr]

/-- Requests keep the store in order and the document readable. -/
theorem regular_server (r : ClusterRequest) (s : Documented) (hs : s.Regular) :
    (server r s).2.Regular := by
  cases r with
  | store r => exact ⟨Cluster.storeServer_regular hs.cluster r, hs.readable⟩
  | fetch ns name => exact hs
  | recordTargets ns name targets =>
    obtain ⟨r, hr⟩ := hs.readable
    exact ⟨hs.cluster, _, RemoteSecret.ofDocument?_patchedStatus hr targets⟩

/-- The requests about a document that can be read are granted. -/
theorem granted (hs : s.Regular) (hx : x ∈ p.steps server s) : x.toExchange.Granted := by
  obtain ⟨r, hr⟩ := (Program.invariant_of_mem_steps regular_server hs hx).readable
  have hanswer := Program.server_of_mem_steps server hx
  obtain ⟨⟨q, reply⟩, before, after⟩ := x
  obtain ⟨rfl, -⟩ : (server q before).1 = reply ∧ _ := Prod.mk.inj hanswer
  cases q with
  | store q => exact trivial
  | fetch ns name => exact ⟨r, read_of_ofDocument? hr⟩
  | recordTargets ns name targets =>
    exact ⟨_, read_of_ofDocument? (RemoteSecret.ofDocument?_patchedStatus hr targets)⟩

/-- The store answers with the secrets that it is asked for. -/
theorem faithful (hs : s.Regular) (hx : x ∈ p.steps server s) {call : StoreExchange}
    (hcall : x.toExchange.storeCall? = some call) : call.Faithful := by
  have hbefore := (Program.invariant_of_mem_steps regular_server hs hx).cluster
  have hanswer := Program.server_of_mem_steps server hx
  obtain ⟨⟨q, reply⟩, before, after⟩ := x
  obtain ⟨rfl, -⟩ : (server q before).1 = reply ∧ _ := Prod.mk.inj hanswer
  cases q with
  | store q =>
    obtain rfl := Option.some.inj hcall
    exact Cluster.faithful_storeServer hbefore.named rfl
  | fetch ns name => cases hcall
  | recordTargets ns name targets => cases hcall

end Documented

end SecretSync
