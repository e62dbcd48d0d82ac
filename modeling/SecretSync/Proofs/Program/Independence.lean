import SecretSync.Proofs.Program.Interleaving

/-!
# `SecretSync.Proofs.Program.Independence`: programs that keep to different places

Some servers keep their state in places, and a request is about one of them.
`Local` says what that means: the answer depends on what is in the place, and
nothing in another place changes.

Programs that keep to different places of such a server do not get in each
other's way. `Interleaved.independent` says so for every interleaving: every
program ends with the result that it has by itself, and leaves in its place
what it leaves there by itself.
-/

set_option autoImplicit false

namespace SecretSync

namespace Program

variable {I : Interface} {α β σ κ τ : Type}

/-! ### What a program asks -/

/-- A program all of whose requests have a property, whatever it is answered. -/
inductive Asks (P : I.Request → Prop) : Program I α → Prop
  | done (a : α) : Asks P (.done a)
  | emit {p : Program I α} (e : Event) (rest : Asks P p) : Asks P (.emit e p)
  | request (r : I.Request) (k : I.Reply r → Program I α) (hr : P r)
      (rest : ∀ reply, Asks P (k reply)) : Asks P (.request r k)

variable {P : I.Request → Prop}

theorem Asks.bind {p : Program I α} {f : α → Program I β} (hp : Asks P p)
    (hf : ∀ a, Asks P (f a)) : Asks P (p.bind f) := by
  induction hp with
  | done a => exact hf a
  | emit e rest ih => exact .emit e ih
  | request r k hr rest ih => exact .request r _ hr ih

theorem Asks.reporting {p : Program I α} (hp : Asks P p) (events : List Event) :
    Asks P (reporting events p) := by
  induction events with
  | nil => exact hp
  | cons e events ih => exact .emit e ih

theorem Asks.of_emit {e : Event} {p : Program I α} (h : Asks P (.emit e p)) : Asks P p := by
  cases h with
  | emit _ rest => exact rest

theorem Asks.of_request {r : I.Request} {k : I.Reply r → Program I α}
    (h : Asks P (.request r k)) : P r ∧ ∀ reply, Asks P (k reply) := by
  cases h with
  | request _ _ hr rest => exact ⟨hr, rest⟩

/-! ### Places -/

/-- A server that, in states with `Inv`, answers every request from what is in the place of the
request and changes nothing in other places. -/
structure Local (server : Server I σ) (place : I.Request → κ) (view : κ → σ → τ)
    (Inv : σ → Prop) : Prop where
  inv : ∀ r s, Inv s → Inv (server r s).2
  reply : ∀ r s s', Inv s → Inv s' → view (place r) s = view (place r) s' →
    (server r s).1 = (server r s').1
  change : ∀ r s s', Inv s → Inv s' → view (place r) s = view (place r) s' →
    view (place r) (server r s).2 = view (place r) (server r s').2
  frame : ∀ r s, Inv s → ∀ k, k ≠ place r → view k (server r s).2 = view k s

variable {server : Server I σ} {place : I.Request → κ} {view : κ → σ → τ} {Inv : σ → Prop}

/-- A program that keeps to a place ends alike from two states that agree there. -/
theorem Asks.run_congr (hserver : Local server place view Inv) {k : κ} {p : Program I α}
    (hp : p.Asks fun r => place r = k) {s s' : σ} (hs : Inv s) (hs' : Inv s')
    (hview : view k s = view k s') :
    (p.run server s).result = (p.run server s').result ∧
      view k (p.run server s).state = view k (p.run server s').state := by
  induction hp generalizing s s' with
  | done a => exact ⟨rfl, hview⟩
  | emit e rest ih => exact ih hs hs' hview
  | request r next hr rest ih =>
    subst hr
    have hnext := ih (server r s).1 (hserver.inv r s hs) (hserver.inv r s' hs')
      (hserver.change r s s' hs hs' hview)
    rw [run_request, run_request]
    rw [hserver.reply r s s' hs hs' hview] at hnext ⊢
    exact hnext

/-- Every program keeps to the place that stands at its position. -/
def KeepTo (place : I.Request → κ) (places : List κ) (ps : List (Program I α)) : Prop :=
  ∀ (i : Nat) (p : Program I α), ps[i]? = some p →
    ∃ k, places[i]? = some k ∧ p.Asks fun r => place r = k

/-- A program goes on in its place. -/
theorem KeepTo.set {places : List κ} {ps : List (Program I α)} (h : KeepTo place places ps)
    {i : Nat} {p q : Program I α} (hi : ps[i]? = some p)
    (hq : ∀ k, (p.Asks fun r => place r = k) → q.Asks fun r => place r = k) :
    KeepTo place places (ps.set i q) := by
  intro j p' hj
  by_cases hij : i = j
  · subst hij
    rw [getElem?_set_of_getElem? hi] at hj
    obtain rfl := Option.some.inj hj
    obtain ⟨k, hk, hp⟩ := h i p hi
    exact ⟨k, hk, hq k hp⟩
  · rw [List.getElem?_set_ne hij] at hj
    exact h j p' hj

/-- Side by side, every program ends with the result that it has by itself and leaves its place as
it does by itself; in all other places nothing happens. -/
theorem Interleaved.independent (hserver : Local server place view Inv) {places : List κ}
    (hnodup : places.Nodup) {ps : List (Program I α)} {s s' : σ} {log : List (Nat × Step I σ)}
    {results : List α} (h : Interleaved server ps s log results s') (hs : Inv s)
    (hps : KeepTo place places ps) :
    (∀ (i : Nat) (p : Program I α) (k : κ), ps[i]? = some p → places[i]? = some k →
      results[i]? = some (p.run server s).result ∧ view k s' = view k (p.run server s).state) ∧
    ∀ k, k ∉ places → view k s' = view k s := by
  induction h with
  | finished results s =>
    refine ⟨?_, fun _ _ => rfl⟩
    intro i p k hi _
    obtain ⟨a, ha, rfl⟩ : ∃ a, results[i]? = some a ∧ Program.done a = p := by
      rwa [List.getElem?_map, Option.map_eq_some_iff] at hi
    exact ⟨ha, rfl⟩
  | @emit ps s s' log results j e q hj rest ih =>
    obtain ⟨hown, hother⟩ := ih hs (hps.set hj fun _ hq => hq.of_emit)
    refine ⟨?_, hother⟩
    intro i p k hi hk
    by_cases hij : j = i
    · subst hij
      obtain rfl : Program.emit e q = p := Option.some.inj (hj.symm.trans hi)
      exact hown j q k (getElem?_set_of_getElem? hj q) hk
    · exact hown i p k (by rw [List.getElem?_set_ne hij, hi]) hk
  | @request ps s s' log results j r next hj rest ih =>
    obtain ⟨hown, hother⟩ := ih (hserver.inv r s hs)
      (hps.set hj fun _ hq => hq.of_request.2 _)
    -- The request is about the place of the program that makes it.
    obtain ⟨here, hhere, hasks⟩ := hps j _ hj
    obtain ⟨hplace, -⟩ := hasks.of_request
    have hframe := hserver.frame r s hs
    rw [hplace] at hframe
    refine ⟨?_, ?_⟩
    · intro i p k hi hk
      by_cases hij : j = i
      · subst hij
        obtain rfl : Program.request r next = p := Option.some.inj (hj.symm.trans hi)
        exact hown j _ k (getElem?_set_of_getElem? hj _) hk
      · have hne : k ≠ here := by
          rintro rfl
          exact hij ((List.getElem?_inj (List.getElem?_eq_some_iff.1 hhere).1 hnodup).1
            (hhere.trans hk.symm))
        obtain ⟨hresult, hleft⟩ := hown i p k (by rw [List.getElem?_set_ne hij, hi]) hk
        -- The other program would not notice the request.
        obtain ⟨k', hk', hp⟩ := hps i p hi
        obtain rfl : k = k' := Option.some.inj (hk.symm.trans hk')
        obtain ⟨hsame, hsameLeft⟩ := hp.run_congr hserver (hserver.inv r s hs) hs (hframe k hne)
        exact ⟨hresult.trans (congrArg some hsame), hleft.trans hsameLeft⟩
    · intro k hk
      have hne : k ≠ here := fun heq => hk (heq ▸ List.mem_of_getElem? hhere)
      exact (hother k hk).trans (hframe k hne)

end Program

end SecretSync
