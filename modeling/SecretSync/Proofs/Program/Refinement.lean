import SecretSync.Proofs.Program.Steps

/-!
# `SecretSync.Proofs.Program.Refinement`: a server behind a client

A program can be run against a server, or its requests can be carried out by a
client that talks to another server. `Simulates` says of one request that this
makes no difference that counts: the reply is the same up to a relation, and
the one server ends in the state that belongs to the state of the other.

`Simulates.run` says the same of whole runs. It needs a program that makes no
difference itself between replies that are the same; `Kindred` says so. One
such program is `askAll`, which only makes requests and notes the answers.
-/

set_option autoImplicit false

namespace SecretSync

namespace Program

variable {I J : Interface} {α β σ τ : Type}

/-! ### Programs that do the same -/

/-- Two programs that make the same requests and report the same events as long as the replies to
them are the same up to `Same`, and that end with results that are the same up to `R`. -/
inductive Kindred (Same : (r : I.Request) → I.Reply r → I.Reply r → Prop) (R : α → α → Prop) :
    Program I α → Program I α → Prop
  | done {a b : α} (h : R a b) : Kindred Same R (.done a) (.done b)
  | emit {p q : Program I α} (e : Event) (rest : Kindred Same R p q) :
      Kindred Same R (.emit e p) (.emit e q)
  | request (r : I.Request) (k l : I.Reply r → Program I α)
      (rest : ∀ x y, Same r x y → Kindred Same R (k x) (l y)) :
      Kindred Same R (.request r k) (.request r l)

variable {Same : (r : I.Request) → I.Reply r → I.Reply r → Prop} {R : α → α → Prop}
  {S : β → β → Prop}

theorem Kindred.bind {p q : Program I α} {f g : α → Program I β} (h : Kindred Same R p q)
    (hfg : ∀ a b, R a b → Kindred Same S (f a) (g b)) :
    Kindred Same S (p.bind f) (q.bind g) := by
  induction h with
  | done h => exact hfg _ _ h
  | emit e rest ih => exact .emit e ih
  | request r k l rest ih => exact .request r _ _ ih

theorem Kindred.reporting {p q : Program I α} (h : Kindred Same R p q) (events : List Event) :
    Kindred Same R (reporting events p) (reporting events q) := by
  induction events with
  | nil => exact h
  | cons e events ih => exact .emit e ih

/-! ### Requests one after the other -/

/-- Makes some requests one after the other, and ends with all exchanges. -/
def askAll : List I.Request → Program I (List (Exchange I))
  | [] => .done []
  | r :: rest => .request r fun reply =>
      (askAll rest).bind fun exchanges => .done (⟨r, reply⟩ :: exchanges)

/-- Two exchanges with the same request and with replies that are the same up to `Same`. -/
inductive SameExchange (Same : (r : I.Request) → I.Reply r → I.Reply r → Prop) :
    Exchange I → Exchange I → Prop
  | intro {r : I.Request} {x y : I.Reply r} (h : Same r x y) : SameExchange Same ⟨r, x⟩ ⟨r, y⟩

theorem kindred_askAll (requests : List I.Request) :
    Kindred Same (List.Forall₂ (SameExchange Same)) (askAll requests) (askAll requests) := by
  induction requests with
  | nil => exact .done .nil
  | cons r rest ih =>
    refine .request r _ _ fun x y hxy => ?_
    exact ih.bind fun earlier later h => .done (.cons (.intro hxy) h)

/-- The requests that are made are those of the list. -/
theorem request_of_mem_askAll {server : Server I σ} {requests : List I.Request} {s : σ}
    {x : Step I σ} (hx : x ∈ (askAll requests).steps server s) : x.request ∈ requests := by
  induction requests generalizing s with
  | nil => cases hx
  | cons r rest ih =>
    rcases List.mem_cons.1 hx with rfl | hx
    · exact List.mem_cons_self
    · rw [steps_bind, List.mem_append] at hx
      rcases hx with hx | hx
      · exact List.mem_cons_of_mem _ (ih hx)
      · cases hx

/-! ### Runs that do the same -/

/-- Two runs that do the same: the results are the same up to `R`, the second run ends in the state
that belongs to the state of the first, and they report the same as far as `keep` goes. -/
structure SameRun (view : σ → τ) (keep : Event → Bool) (R : α → α → Prop) (o : Outcome σ α)
    (o' : Outcome τ α) : Prop where
  result : R o.result o'.result
  state : o'.state = view o.state
  events : o'.events.filter keep = o.events.filter keep

/-- What a client does to its server for a valid request is the same as what another server does
for it, in states with `Inv`. Of itself it reports nothing that `keep` lets pass. -/
structure Simulates (server : Server I σ) (client : (r : I.Request) → Program J (I.Reply r))
    (remote : Server J τ) (view : σ → τ) (Valid : I.Request → Prop) (Inv : σ → Prop)
    (Same : (r : I.Request) → I.Reply r → I.Reply r → Prop) (keep : Event → Bool) : Prop where
  inv : ∀ r s, Inv s → Inv (server r s).2
  call : ∀ r s, Valid r → Inv s →
    SameRun view keep (Same r) ⟨(server r s).1, [], (server r s).2⟩
      ((client r).run remote (view s))

variable {server : Server I σ} {client : (r : I.Request) → Program J (I.Reply r)}
  {remote : Server J τ} {view : σ → τ} {Valid : I.Request → Prop} {Inv : σ → Prop}
  {keep : Event → Bool}

/-- If one request makes no difference, no run does in which all requests are valid. -/
theorem Simulates.run (hsim : Simulates server client remote view Valid Inv Same keep)
    {p q : Program I α} (h : Kindred Same R p q) {s : σ} (hs : Inv s)
    (hvalid : ∀ x ∈ p.steps server s, Valid x.request) :
    SameRun view keep R (p.run server s) ((q.refine client).run remote (view s)) := by
  induction h generalizing s with
  | done h => exact ⟨h, rfl, rfl⟩
  | emit e rest ih =>
    obtain ⟨hresult, hstate, hevents⟩ := ih hs hvalid
    refine ⟨hresult, hstate, ?_⟩
    show (e :: _).filter keep = (e :: _).filter keep
    rw [List.filter_cons, List.filter_cons, hevents]
  | request r k l rest ih =>
    obtain ⟨hreply, hstate, hquiet⟩ := hsim.call r s (hvalid _ List.mem_cons_self) hs
    -- What follows starts from the replies to the request and from the states after it.
    have hnext := ih _ _ hreply (hsim.inv r s hs) fun x hx => hvalid x (List.mem_cons_of_mem _ hx)
    have hrefine : (Program.request r l).refine client
        = (client r).bind fun reply => (l reply).refine client := rfl
    rw [run_request, hrefine, run_bind, hstate]
    refine ⟨hnext.result, hnext.state, ?_⟩
    rw [List.filter_append, hquiet, hnext.events]
    rfl

end Program

end SecretSync
