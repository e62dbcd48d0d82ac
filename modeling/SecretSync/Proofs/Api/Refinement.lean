import SecretSync.Proofs.Api.Calls
import SecretSync.Proofs.Binding.Effect
import SecretSync.Proofs.Binding.Refinement
import SecretSync.Settings

/-!
# `SecretSync.Proofs.Api.Refinement`: the API server goes unnoticed

A store of secrets may be a cluster, or a client of the API server in front of
it. `client_unnoticed` says that it does not matter which, for calls one after
the other and for the three operations of a handler: the cluster ends up the
same, and so do the results, up to the words of failures.

The calls must be `Addressable`. Those of a handler are if its names follow
RFC 1123 and it keeps its record in the ownership tags (`addressed_sync`,
`addressed_getStale`, `addressed_list`); the secrets of the cluster have to
stand under their own names, because a handler writes back what it has read.
-/

set_option autoImplicit false

namespace SecretSync

open Cluster (storeServer)
open Program (SameRun Simulates askAll SameExchange)

/-- All requests that a program makes on a cluster can travel to a server. -/
def Addressed {α : Type} (c : Cluster StoreError) (p : StoreProgram α) : Prop :=
  ∀ x ∈ p.steps storeServer c, x.request.Addressable

/-! ### Handlers with valid names -/

namespace Handler

variable {t : DeploymentTarget} {d : DesiredSecret} {c : Cluster StoreError}

/-- An attempt sends what it has read, so it sends a name that it has asked for. -/
theorem addressable_of_attempt (hns : Rfc1123 t.ns) (hname : d.name ≠ "" → Rfc1123 d.name)
    {own : List StoreExchange} (hown : AttemptCalls ⟨t, .ofTags⟩ d own)
    (hfaithful : ∀ x ∈ own, x.Faithful) : ∀ x ∈ own, x.request.Addressable := by
  cases hown with
  | create hc =>
    cases hc with
    | refused e hp => exact List.forall_mem_nil _
    | sent secret hp reply => exact List.forall_mem_singleton.2 hns
  | update hn hu =>
    have hget : (StoreRequest.get t.ns d.name).Addressable := ⟨hns, hname hn⟩
    cases hu with
    | unread e => exact List.forall_mem_singleton.2 hget
    | refused stored e hp => exact List.forall_mem_singleton.2 hget
    | sent stored secret hp reply =>
      -- From the name that was asked for to the one that was read, and on to the one that is sent.
      have hread : stored.name = d.name := hfaithful _ List.mem_cons_self
      have hsent : secret.name = stored.name := congrArg (·.getD "") (name_of_prepared_some hp).1
      have hupdate : (StoreRequest.update t.ns secret).Addressable := by
        refine ⟨hns, ?_⟩
        rw [hsent, hread]
        exact hname hn
      exact List.forall_mem_cons.2 ⟨hget, List.forall_mem_singleton.2 hupdate⟩

/-- The requests of a write can travel to a server if its names can. -/
theorem addressed_write (hc : c.Named) (hns : Rfc1123 t.ns) {recreate : Bool}
    (hname : t.effectiveName recreate ≠ "" → Rfc1123 (t.effectiveName recreate))
    (data : Except ProviderError SecretData) :
    Addressed c (write ⟨t, .ofTags⟩ recreate data) := by
  have hcalls := write_calls storeServer ⟨t, .ofTags⟩ recreate data c
  have hfaithful := Cluster.faithful_exchanges hc (write ⟨t, .ofTags⟩ recreate data)
  intro x hx
  have hcall : x.toExchange ∈ (write ⟨t, .ofTags⟩ recreate data).exchanges storeServer c :=
    List.mem_map_of_mem hx
  generalize (write ⟨t, .ofTags⟩ recreate data).exchanges storeServer c = calls,
    ((write ⟨t, .ofTags⟩ recreate data).run storeServer c).result = result
    at hcalls hfaithful hcall
  cases hcalls with
  | unavailable e => cases hcall
  | written data calls r hw =>
    obtain ⟨own, hown, hcall, hsubset⟩ := hw.attempt hcall
    exact addressable_of_attempt hns hname hown (fun y hy => hfaithful y (hsubset hy)) _ hcall

/-- The requests of a sync can travel to a server if its names and those of its data provider
can. -/
theorem addressed_sync (hc : c.Named) (hns : Rfc1123 t.ns) {recreate : Bool}
    (hname : t.effectiveName recreate ≠ "" → Rfc1123 (t.effectiveName recreate))
    {provider : StoreProgram (Except ProviderError SecretData)} (hprovider : Addressed c provider) :
    Addressed c (sync ⟨t, .ofTags⟩ provider recreate) := by
  unfold Addressed
  rw [steps_sync]
  have hfetched : (provider.run storeServer c).state.Named := Cluster.named_run hc provider
  exact List.forall_mem_append.2 ⟨hprovider, addressed_write hfetched hns hname _⟩

/-- The request for a stale secret can travel to a server if its name can. -/
theorem addressed_getStale {h : Handler} (hns : Rfc1123 h.target.ns)
    (hprevious : ∀ previous ∈ h.target.previousName, Rfc1123 previous) :
    Addressed c h.getStale := by
  unfold Addressed
  rw [getStale_eq]
  split
  · exact List.forall_mem_nil _
  · rename_i previous hsome
    split
    · exact List.forall_mem_nil _
    · rw [Program.steps_request, Program.steps_reporting]
      exact List.forall_mem_singleton.2 ⟨hns, hprevious previous hsome⟩

/-- The request of a listing can travel to a server. -/
theorem addressed_list (hns : Rfc1123 t.ns) : Addressed c (list ⟨t, .ofTags⟩) := by
  unfold Addressed
  rw [list_eq]
  split
  · exact List.forall_mem_nil _
  · rename_i filter hfilter
    have hlinked : filter = Ownership.linkedFilter := by
      have hfilter : Ownership.ownerFilter t.owner = .ok filter := hfilter
      unfold Ownership.ownerFilter at hfilter
      cases hkey : Ownership.storedKey t.owner with
      | error e =>
        rw [hkey] at hfilter
        cases hfilter
      | ok key =>
        rw [hkey] at hfilter
        exact (Except.ok.inj hfilter).symm
    subst hlinked
    rw [Program.steps_request, Program.steps_reporting]
    exact List.forall_mem_singleton.2 ⟨hns, by decide⟩

end Handler

/-! ### The client and the server in between -/

namespace SecretApi

variable {limit : Duration} {c : Cluster StoreError}

/-- Whether an event is anything else than the record of a request to the server. -/
def besideRequests : Event → Bool
  | .log record => record.origin != logOrigin
  | _ => true

theorem besideRequests_logRecord (r : StoreRequest) :
    besideRequests (.log (logRecord r)) = false := by
  cases r <;> rfl

/-- Calls through the API server simulate calls on the cluster behind it, as long as hooks make
them fail with refusals only. -/
theorem simulates_client (hlimit : limit.nanos ≠ 0) (documents : SortedMap Json) :
    Simulates storeServer (client limit) ApiServer.server (ApiServer.serving documents)
      StoreRequest.Addressable (·.FailsOnlyWith StoreError.IsRefusal) SameReply besideRequests where
  inv r _ hc := hc.storeServer r
  call r c hr hc := by
    obtain ⟨reply, hreply, hrun⟩ := client_call hlimit hr documents hc
    rw [hrun]
    refine ⟨hreply, rfl, ?_⟩
    show [Event.log (logRecord r)].filter besideRequests = []
    rw [List.filter_cons, besideRequests_logRecord]
    rfl

/-- A program does not notice the API server in front of a cluster. Run through it, it ends as it
does on the cluster itself, up to `R`; the cluster ends up the same; and apart from the records of
requests, the same is reported. -/
def Unnoticed {α : Type} (limit : Duration) (documents : SortedMap Json) (c : Cluster StoreError)
    (R : α → α → Prop) (p : StoreProgram α) : Prop :=
  SameRun (ApiServer.serving documents) besideRequests R (p.run storeServer c)
    ((p.refine (client limit)).run ApiServer.server (ApiServer.serving documents c))

/-- With a time limit of zero the API server is noticed. The cluster answers a listing, and through
the server it times out. -/
theorem noticed_without_time (hlimit : limit.nanos = 0) (documents : SortedMap Json)
    (hc : c.hooks = []) {ns : String} {filter : ListFilter}
    (h : (StoreRequest.list ns filter).Addressable) :
    ¬Unnoticed limit documents c (List.Forall₂ (SameExchange SameReply))
      (askAll (I := storeInterface) [.list ns filter]) := by
  intro hsame
  let r : StoreRequest := .list ns filter
  have hanswer : (storeServer r c).1 = .ok ((c.shelf ns).list filter) := by
    unfold storeServer
    rw [Cluster.enter_of_unhooked hc]
    rfl
  have htimeout : ((client limit r).run ApiServer.server (ApiServer.serving documents c)).result
      = .error (.timeout limit) := by
    rw [run_client h]
    unfold within
    rw [if_pos hlimit]
    rfl
  have hrefine : (askAll (I := storeInterface) [r]).refine (client limit)
      = (client limit r).bind fun reply => .done [⟨r, reply⟩] := rfl
  have hresult : List.Forall₂ (SameExchange SameReply)
      [(⟨r, (storeServer r c).1⟩ : StoreExchange)] _ := hsame.result
  rw [hrefine, Program.run_bind, htimeout, hanswer] at hresult
  rcases hresult with _ | ⟨⟨hreply⟩, -⟩
  cases hreply

/-- The settings leave some time for a call. -/
theorem requestTimeout_ofVariables_ne_zero (lookup : String → Option String) :
    (Settings.ofVariables lookup).requestTimeout.nanos ≠ 0 := by
  have hsecs : 0 < (Settings.ofVariables lookup).requestTimeoutSecs := by
    unfold Settings.ofVariables
    dsimp only
    cases h : ((lookup "REQUEST_TIMEOUT_SECS").bind Settings.word?).filter (0 < ·) with
    | none => decide
    | some secs => exact of_decide_eq_true (Option.filter_eq_some_iff.1 h).2
  unfold Settings.requestTimeout Duration.ofSecs
  dsimp only
  omega

/-- The API server goes unnoticed. Let the hooks of a cluster make calls fail with refusals only,
and consider calls that can travel to a server. Made one after the other, as many as you like,
through the API server they have the effect on the cluster that they have on it directly; and call
by call, the value is the same or the failure is of the same kind. So it is for a sync, for looking
for a stale secret and for a listing of any handler: they have the same effect, succeed with the
same value or fail at the same target with the same reason and kind of failure, and report the
same.

There must be some time for a call. With a time limit of zero, no request is sent and every call
ends with a timeout (`noticed_without_time`). The settings never give such a limit
(`requestTimeout_ofVariables_ne_zero`). -/
theorem client_unnoticed (hlimit : limit.nanos ≠ 0) (documents : SortedMap Json)
    (hc : c.FailsOnlyWith StoreError.IsRefusal) :
    (∀ requests : List StoreRequest, (∀ r ∈ requests, r.Addressable) →
      Unnoticed limit documents c (List.Forall₂ (SameExchange SameReply))
        (askAll (I := storeInterface) requests)) ∧
    ∀ h : Handler,
      (∀ (provider : StoreProgram (Except ProviderError SecretData)) (recreate : Bool),
        StoreKindred ProviderError.Alike provider provider →
        Addressed c (h.sync provider recreate) →
        Unnoticed limit documents c (SameUpTo SyncError.Alike) (h.sync provider recreate)) ∧
      (Addressed c h.getStale →
        Unnoticed limit documents c (SameUpTo SyncError.Alike) h.getStale) ∧
      (Addressed c h.list → Unnoticed limit documents c (SameUpTo SyncError.Alike) h.list) := by
  have hsim := simulates_client hlimit documents
  refine ⟨?_, fun h => ⟨?_, ?_, ?_⟩⟩
  · intro requests hrequests
    exact hsim.run (Program.kindred_askAll requests) hc fun x hx =>
      hrequests x.request (Program.request_of_mem_askAll hx)
  · intro provider recreate hprovider haddressed
    exact hsim.run (Handler.kindred_sync hprovider) hc haddressed
  · exact hsim.run Handler.kindred_getStale hc
  · exact hsim.run Handler.kindred_list hc

/-- A cluster whose hooks say that the secret is missing right before it would be replaced, and that
its name is taken right before it would be created. -/
def disputed : Cluster StoreError where
  shelves := ((Cluster.empty : Cluster StoreError).put Handler.rival).shelves
  hooks := [
    { verb := .update, failure := some (.notFound "app/db") },
    { verb := .create, failure := some (.alreadyExists "app/db") }]

theorem named_disputed : disputed.Named := Cluster.named_put Cluster.named_empty Handler.rival

theorem failsOnlyWith_disputed : disputed.FailsOnlyWith StoreError.IsRefusal := by
  intro hook hhook e he
  simp only [disputed, List.mem_cons, List.not_mem_nil, or_false] at hhook
  rcases hhook with rfl | rfl
  · obtain rfl := Option.some.inj he
    exact .inl rfl
  · obtain rfl := Option.some.inj he
    exact .inr (.inl rfl)

/-- A read that fails, a creation that a hook refuses and one that leaves the name to the store, and
a listing; and a sync that meets both hooks, goes over to the other way to write twice and ends
well after five calls. None of it notices the API server. -/
theorem client_unnoticed_disputed :
    let limit : Duration := .ofMillis 1000
    let requests : List StoreRequest := [.get "app" "web", .create "app" Handler.rival,
      .create "app" { metadata := { generateName := some "db-" } },
      .list "app" Ownership.linkedFilter]
    let p := Handler.sync ⟨.inNamespace { name := "db" } "app" ⟨"team", "creds"⟩ "", .ofTags⟩
      (.done (.ok .empty)) false
    let o := p.run storeServer disputed
    let o' := (p.refine (client limit)).run ApiServer.server (ApiServer.serving .empty disputed)
    Unnoticed limit .empty disputed (List.Forall₂ (SameExchange SameReply))
        (askAll (I := storeInterface) requests) ∧
      o'.result.isOk = true ∧ o'.state = ApiServer.serving .empty o.state ∧
      o.state.history.length = 5 := by
  intro limit requests p o o'
  obtain ⟨hcalls, hhandlers⟩ :=
    @client_unnoticed limit disputed (by decide) .empty failsOnlyWith_disputed
  obtain ⟨hsync, -, -⟩ := hhandlers ⟨.inNamespace { name := "db" } "app" ⟨"team", "creds"⟩ "", .ofTags⟩
  have haddressed : Addressed disputed p :=
    Handler.addressed_sync named_disputed (by decide) (fun _ => by decide) (List.forall_mem_nil _)
  have hsame := hsync (.done (.ok .empty)) false (.done (.ok _)) haddressed
  have hok : o.result.isOk = true := by decide +kernel
  have hresult : o.result.isOk = o'.result.isOk := hsame.result.isOk_eq
  exact ⟨hcalls requests (by decide), hresult ▸ hok, hsame.state, by decide +kernel⟩

end SecretApi

end SecretSync
