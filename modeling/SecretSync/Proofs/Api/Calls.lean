import SecretSync.Proofs.Api.Addresses
import SecretSync.Proofs.Api.Rejections
import SecretSync.Proofs.Cluster.Failures
import SecretSync.Proofs.ListFilter
import SecretSync.Proofs.Program.Steps
import SecretSync.Proofs.Resource.RoundTrip

/-!
# `SecretSync.Proofs.Api.Calls`: one call through the API server

A call of the client sends one request (`run_client`), the server sees in it
the call that the store request is (`server_sent`), and carries it out as the
cluster would (`carryOut_serving`). `client_call` puts the three together: on
the same cluster, a call through the API server has the same effect as the
same call on the cluster itself, and the same answer up to the words of a
failure.
-/

set_option autoImplicit false

namespace SecretSync

/-- A store request whose namespace, name and labels can travel to a server: the names follow RFC
1123, as far as they are part of an address, and the filter can be written as a selector. The secret
of a creation may have any name or none. -/
def StoreRequest.Addressable : StoreRequest → Prop
  | .get ns name => Rfc1123 ns ∧ Rfc1123 name
  | .create ns _ => Rfc1123 ns
  | .update ns secret => Rfc1123 ns ∧ Rfc1123 secret.name
  | .list ns filter => Rfc1123 ns ∧ filter.Legible

instance : DecidablePred StoreRequest.Addressable
  | .get ns name => inferInstanceAs (Decidable (Rfc1123 ns ∧ Rfc1123 name))
  | .create ns _ => inferInstanceAs (Decidable (Rfc1123 ns))
  | .update ns secret => inferInstanceAs (Decidable (Rfc1123 ns ∧ Rfc1123 secret.name))
  | .list ns filter => inferInstanceAs (Decidable (Rfc1123 ns ∧ filter.Legible))

variable {r : StoreRequest} {limit : Duration}

/-! ### The client -/

namespace SecretApi

/-- The request to the server for a store request. -/
def sent : StoreRequest → HttpRequest
  | .get ns name => { method := .get, path := member ns name }
  | .create ns secret =>
    { method := .post, path := collection ns, body := some secret.toJson }
  | .update ns secret =>
    { method := .put, path := member ns secret.name, body := some secret.toJson }
  | .list ns filter =>
    { method := .get, path := collection ns, query := filterParameters filter }

theorem request_of_addressable (h : r.Addressable) : request r = .ok (sent r) := by
  have hnamed : ∀ {name : String}, Rfc1123 name → name.isEmpty = false := by
    intro name hname
    rw [String.isEmpty_eq_false_iff]
    exact hname.ne_empty
  cases r with
  | get ns name =>
    simp only [request, hnamed h.2, Bool.false_eq_true, if_false]
    rw [build_member h.1 h.2, sent]
  | create ns secret =>
    simp only [request]
    rw [build_collection h, sent]
  | update ns secret =>
    simp only [request, hnamed h.2, Bool.false_eq_true, if_false]
    rw [build_member h.1 h.2, sent]
  | list ns filter =>
    simp only [request]
    rw [build_collection h.1, sent]

/-- What a reply amounts to. -/
def answerOf {α : Type} (limit : Duration) (ofJson? : Json → Option α) (reply : HttpReply) :
    Except StoreError α :=
  match reply.read ofJson? with
  | none => .error (.timeout limit)
  | some (.error e) => .error (.ofApiFailure e)
  | some (.ok resource) => .ok resource

/-- What the reply to a store request amounts to. -/
def received (limit : Duration) : (r : StoreRequest) → HttpReply → r.Reply
  | .get _ _ => answerOf limit Secret.ofJson?
  | .create _ _ => answerOf limit Secret.ofJson?
  | .update _ _ => answerOf limit Secret.ofJson?
  | .list _ _ => answerOf limit listOfJson?

/-- A server as a call with a limited time meets it. With no time at all it is not reached, and
there is no answer. -/
def within {σ : Type} (limit : Duration) (server : Program.Server httpInterface σ) :
    Program.Server httpInterface σ :=
  fun r s => if limit.nanos = 0 then (.noAnswer, s) else server r s

theorem within_of_time {σ : Type} (hlimit : limit.nanos ≠ 0)
    (server : Program.Server httpInterface σ) : within limit server = server := by
  funext r s
  exact if_neg hlimit

/-- A store request that can be built is sent once, if there is time for it, and logged. -/
theorem run_perform {α σ : Type} (ofJson? : Json → Option α) (h : request r = .ok (sent r))
    (server : Program.Server httpInterface σ) (s : σ) :
    (perform limit ofJson? r).run server s
      = ⟨answerOf limit ofJson? (within limit server (sent r) s).1, [.log (logRecord r)],
          (within limit server (sent r) s).2⟩ := by
  by_cases hlimit : limit.nanos = 0
  · -- Nothing is sent: the call ends as one that was never answered.
    have hperform : perform limit ofJson? r
        = .emit (.log (logRecord r)) (.done (.error (.timeout limit))) := by
      unfold perform exchange
      rw [h]
      simp only [if_pos hlimit]
      rfl
    rw [hperform]
    unfold within
    rw [if_pos hlimit]
    rfl
  · have hperform : perform limit ofJson? r
        = .emit (.log (logRecord r)) (.request (I := httpInterface) (sent r) fun reply =>
            .done (answerOf limit ofJson? reply)) := by
      unfold perform exchange
      rw [h]
      simp only [if_neg hlimit]
      refine congrArg (Program.emit _) (congrArg (Program.request (I := httpInterface) _) ?_)
      funext reply
      unfold answerOf
      show (match reply.read ofJson? with
        | none => .done (.error (.timeout limit))
        | some (.error e) => .done (.error (.ofApiFailure e))
        | some (.ok resource) => .done (.ok resource) : HttpProgram (Except StoreError α)) = _
      cases reply.read ofJson? with
      | none => rfl
      | some answer => cases answer <;> rfl
    rw [hperform, within_of_time hlimit]
    rfl

/-- A call of the client sends one request and ends with what the reply amounts to. -/
theorem run_client {σ : Type} (h : r.Addressable) (server : Program.Server httpInterface σ)
    (s : σ) :
    (client limit r).run server s
      = ⟨received limit r (within limit server (sent r) s).1, [.log (logRecord r)],
          (within limit server (sent r) s).2⟩ := by
  have hrequest := request_of_addressable h
  cases r with
  | get ns name => exact run_perform _ hrequest server s
  | create ns secret => exact run_perform _ hrequest server s
  | update ns secret =>
    -- A secret whose name follows RFC 1123 has one.
    cases hname : secret.metadata.name with
    | none =>
      have hempty : secret.name = "" := congrArg (·.getD "") hname
      exact absurd hempty h.2.ne_empty
    | some name =>
      have hclient : client limit (.update ns secret)
          = perform limit Secret.ofJson? (.update ns secret) := by
        simp only [client, hname]
      rw [hclient]
      exact run_perform _ hrequest server s
  | list ns filter => exact run_perform _ hrequest server s

end SecretApi

/-! ### The server -/

namespace ApiServer

open SecretApi

/-- Carries out a store request and replies. -/
def carryOut : StoreRequest → ApiServer → HttpReply × ApiServer
  | .get ns name, s => (secretReply ((s.shelf ns).get name), s)
  | .create ns secret, s =>
    (secretReply ((s.shelf ns).create ns secret).1, s.setShelf ns ((s.shelf ns).create ns secret).2)
  | .update ns secret, s =>
    match (s.shelf ns).update secret.name secret with
    | (.ok stored, shelf) => (secretReply (.ok stored), s.setShelf ns shelf)
    | (.error e, _) => (secretReply (.error e), s)
  | .list ns filter, s => (listReply ((s.shelf ns).list filter), s)

/-- The server finds the selector among the parameters. -/
theorem lookup_filterParameters (filter : ListFilter) :
    ((filterParameters filter).lookup "labelSelector").getD "" = filter.selector := by
  unfold filterParameters
  split
  · rename_i hempty
    exact (String.isEmpty_iff.1 hempty).symm
  · rfl

/-- The server sees in the request of a client the call that the store request is. -/
theorem server_sent (h : r.Addressable) (s : ApiServer) :
    server (sent r) s = s.onCall (Cluster.callOf r) (carryOut r) := by
  cases r with
  | get ns name =>
    unfold server sent
    simp only [place?_member h.1 h.2]
    rfl
  | create ns secret =>
    unfold server sent
    simp only [place?_collection h, bodySecret?, Option.bind_some, Secret.ofJson?_toJson]
    rfl
  | update ns secret =>
    unfold server sent
    simp only [place?_member h.1 h.2, bodySecret?, Option.bind_some, Secret.ofJson?_toJson]
    rfl
  | list ns filter =>
    unfold server sent
    simp only [place?_collection h.1, lookup_filterParameters, listSecrets,
      ListFilter.ofSelector_selector h.2]
    rfl

/-- A cluster behind an API server. Where its hooks make a call fail, the server puts the failure in
its own words. -/
def serving (documents : SortedMap Json) (c : Cluster StoreError) : ApiServer where
  cluster := c.mapFailures fun e => .rejecting e.rejection
  documents := documents

theorem onCall_serving (documents : SortedMap Json) (c : Cluster StoreError) (call : Call)
    (answer : ApiServer → HttpReply × ApiServer) :
    (serving documents c).onCall call answer = match c.enter call with
      | (some e, c') => (.rejecting e.rejection, serving documents c')
      | (none, c') => answer (serving documents c') := by
  unfold onCall serving
  rw [Cluster.enter_mapFailures]
  obtain ⟨failure, c'⟩ := c.enter call
  cases failure <;> rfl

/-! ### What the server does -/

/-- What a client makes of the reply to a secret operation. -/
theorem sameUpTo_secretReply (limit : Duration) (ns : String) (result : Except Refusal Secret) :
    SameUpTo StoreError.Alike (result.mapError (Cluster.refusalError ns))
      (answerOf limit Secret.ofJson? (secretReply result)) := by
  cases result with
  | ok secret =>
    have hread : answerOf limit Secret.ofJson? (secretReply (.ok secret)) = .ok secret := by
      unfold answerOf secretReply
      rw [HttpReply.read_holding secret.ofJson?_toJson]
    rw [hread]
    exact .ok secret
  | error e =>
    have hread : answerOf limit Secret.ofJson? (secretReply (.error e))
        = .error (.ofApiFailure (.rejected (refusalRejection e))) := by
      unfold answerOf secretReply
      rw [HttpReply.read_rejecting _ (isErrorStatus_refusalRejection e)]
    rw [hread]
    exact .error (alike_refusalRejection ns e)

/-- What a client makes of a failure that the server has worded. -/
theorem sameUpTo_rejecting {α : Type} (limit : Duration) (ofJson? : Json → Option α)
    {e : StoreError} (he : e.IsRefusal) :
    SameUpTo StoreError.Alike (.error e) (answerOf limit ofJson? (.rejecting e.rejection)) := by
  have hread : answerOf limit ofJson? (.rejecting e.rejection)
      = .error (.ofApiFailure (.rejected e.rejection)) := by
    unfold answerOf
    rw [HttpReply.read_rejecting _ e.isErrorStatus_rejection]
  rw [hread]
  exact .error (StoreError.alike_rejection he)

theorem sameReply_failed (limit : Duration) (r : StoreRequest) {e : StoreError}
    (he : e.IsRefusal) :
    SameReply r (Cluster.failed e r) (received limit r (.rejecting e.rejection)) := by
  cases r <;> exact sameUpTo_rejecting limit _ he

/-- The server carries out a request as the cluster behind it does. -/
theorem carryOut_serving (limit : Duration) (r : StoreRequest) (documents : SortedMap Json)
    (c : Cluster StoreError) :
    SameReply r (c.perform r).1 (received limit r (carryOut r (serving documents c)).1) ∧
      (carryOut r (serving documents c)).2 = serving documents (c.perform r).2 := by
  cases r with
  | get ns name => exact ⟨sameUpTo_secretReply limit ns ((c.shelf ns).get name), rfl⟩
  | create ns secret =>
    exact ⟨sameUpTo_secretReply limit ns ((c.shelf ns).create ns secret).1, rfl⟩
  | update ns secret =>
    -- A refused replacement keeps no shelf, neither here nor there.
    have hshelf : (serving documents c).shelf ns = c.shelf ns := rfl
    unfold carryOut Cluster.perform
    dsimp only
    rw [hshelf]
    generalize (c.shelf ns).update secret.name secret = updated
    obtain ⟨result, shelf⟩ := updated
    cases result with
    | ok stored => exact ⟨sameUpTo_secretReply limit ns (.ok stored), rfl⟩
    | error e => exact ⟨sameUpTo_secretReply limit ns (.error e), rfl⟩
  | list ns filter =>
    have hread : answerOf limit listOfJson? (listReply ((c.shelf ns).list filter))
        = .ok ((c.shelf ns).list filter) := by
      unfold answerOf
      rw [read_listReply]
    refine ⟨?_, rfl⟩
    show SameUpTo StoreError.Alike (.ok ((c.shelf ns).list filter))
      (answerOf limit listOfJson? (listReply ((c.shelf ns).list filter)))
    rw [hread]
    exact .ok _

end ApiServer

open ApiServer in
/-- A call through the API server is the call on the cluster behind it: the cluster ends up the
same, and the answer is the same up to the words of a failure. -/
theorem SecretApi.client_call (hlimit : limit.nanos ≠ 0) (h : r.Addressable)
    (documents : SortedMap Json) {c : Cluster StoreError}
    (hc : c.FailsOnlyWith StoreError.IsRefusal) :
    ∃ reply, SameReply r (Cluster.storeServer r c).1 reply ∧
      (client limit r).run server (serving documents c)
        = ⟨reply, [.log (logRecord r)], serving documents (Cluster.storeServer r c).2⟩ := by
  rw [run_client h, within_of_time hlimit, server_sent h, onCall_serving]
  unfold Cluster.storeServer
  -- The same hook fires on both sides, and it either makes the call fail or lets it through.
  obtain ⟨hfailure, -⟩ := hc.enter (Cluster.callOf r)
  generalize c.enter (Cluster.callOf r) = entered at hfailure ⊢
  obtain ⟨failure, c'⟩ := entered
  cases failure with
  | some e => exact ⟨_, sameReply_failed limit r (hfailure e rfl), rfl⟩
  | none =>
    obtain ⟨hreply, hstate⟩ := carryOut_serving limit r documents c'
    refine ⟨_, hreply, ?_⟩
    show Program.Outcome.mk _ _ (carryOut r (serving documents c')).2 = _
    rw [hstate]

end SecretSync
