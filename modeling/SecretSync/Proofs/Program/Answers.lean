import SecretSync.Proofs.Program.Interleaving

/-!
# `SecretSync.Proofs.Program.Answers`: a program by itself

What a program ends with depends on the answers to its own requests and on
nothing else. `Answered p calls a` says so without a server: the program makes
the requests of the list one after the other, and with these answers it ends
with `a`.

Three statements connect this with runs:

* `answered_run`: a run of a program is answered by its own exchanges.
* `Interleaved.answered`: in a run side by side every program is answered by
  the exchanges that the log has under its number, whatever the others do.
* `Answered.exists_run`: answers can be given again by a server. So what holds
  of all runs of a program holds wherever it was answered.
-/

set_option autoImplicit false

namespace SecretSync

namespace Program

variable {I : Interface} {α β σ : Type}

/-- The requests that a program makes with the answers to them, and what it ends with. -/
inductive Answered : Program I α → List (Exchange I) → α → Prop
  /-- The program is done. -/
  | done (a : α) : Answered (.done a) [] a
  /-- The program reports an event. -/
  | emit {p : Program I α} {calls : List (Exchange I)} {a : α} (e : Event)
      (rest : Answered p calls a) : Answered (.emit e p) calls a
  /-- The program makes a request. -/
  | request {calls : List (Exchange I)} {a : α} (r : I.Request) (k : I.Reply r → Program I α)
      (reply : I.Reply r) (rest : Answered (k reply) calls a) :
      Answered (.request r k) (⟨r, reply⟩ :: calls) a

variable {calls : List (Exchange I)}

theorem Answered.of_done {a b : α} (h : Answered (.done a) calls b) : calls = [] ∧ b = a := by
  cases h with
  | done => exact ⟨rfl, rfl⟩

theorem Answered.of_request {r : I.Request} {k : I.Reply r → Program I α} {a : α}
    (h : Answered (.request r k) calls a) :
    ∃ reply rest, calls = ⟨r, reply⟩ :: rest ∧ Answered (k reply) rest a := by
  cases h with
  | request _ _ reply rest => exact ⟨reply, _, rfl, rest⟩

theorem Answered.of_emit {e : Event} {p : Program I α} {a : α} (h : Answered (.emit e p) calls a) :
    Answered p calls a := by
  cases h with
  | emit _ rest => exact rest

theorem Answered.of_reporting {events : List Event} {p : Program I α} {a : α}
    (h : Answered (reporting events p) calls a) : Answered p calls a := by
  induction events with
  | nil => exact h
  | cons e events ih => exact ih h.of_emit

/-- A program that goes on with another one is answered first for the one and then for the
other. -/
theorem Answered.of_bind {p : Program I α} {f : α → Program I β} {b : β}
    (h : Answered (p.bind f) calls b) :
    ∃ (first second : List (Exchange I)) (a : α), calls = first ++ second ∧
      Answered p first a ∧ Answered (f a) second b := by
  induction p generalizing calls with
  | done a => exact ⟨[], calls, a, rfl, .done a, h⟩
  | emit e p ih =>
    cases h with
    | emit _ rest =>
      obtain ⟨first, second, a, rfl, hp, hf⟩ := ih rest
      exact ⟨first, second, a, rfl, .emit e hp, hf⟩
  | request r k ih =>
    cases h with
    | request _ _ reply rest =>
      obtain ⟨first, second, a, rfl, hp, hf⟩ := ih reply rest
      exact ⟨⟨r, reply⟩ :: first, second, a, rfl, .request r k reply hp, hf⟩

/-! ### Runs -/

/-- A run answers the program by its exchanges. -/
theorem answered_run (server : Server I σ) (p : Program I α) (s : σ) :
    Answered p (p.exchanges server s) (p.run server s).result := by
  induction p generalizing s with
  | done a => exact .done a
  | emit e p ih => exact .emit e (ih s)
  | request r k ih => exact .request r k _ (ih _ _)

/-- The exchanges that a log has under a number. -/
def ownExchanges (i : Nat) (log : List (Nat × Step I σ)) : List (Exchange I) :=
  (log.filter fun x => x.1 == i).map fun x => x.2.toExchange

theorem ownExchanges_cons_self (i : Nat) (x : Step I σ) (log : List (Nat × Step I σ)) :
    ownExchanges i ((i, x) :: log) = x.toExchange :: ownExchanges i log := by
  unfold ownExchanges
  rw [List.filter_cons_of_pos (by simp)]
  rfl

theorem ownExchanges_cons_of_ne {i j : Nat} (hne : j ≠ i) (x : Step I σ)
    (log : List (Nat × Step I σ)) : ownExchanges i ((j, x) :: log) = ownExchanges i log := by
  unfold ownExchanges
  rw [List.filter_cons_of_neg (by simpa using hne)]

theorem mem_ownExchanges {i : Nat} {log : List (Nat × Step I σ)} {x : Exchange I} :
    x ∈ ownExchanges i log ↔ ∃ y : Step I σ, (i, y) ∈ log ∧ y.toExchange = x := by
  unfold ownExchanges
  simp only [List.mem_map, List.mem_filter, beq_iff_eq, Prod.exists]
  constructor
  · rintro ⟨j, y, ⟨hy, rfl⟩, rfl⟩
    exact ⟨y, hy, rfl⟩
  · rintro ⟨y, hy, rfl⟩
    exact ⟨i, y, ⟨hy, rfl⟩, rfl⟩

variable {server : Server I σ} {ps : List (Program I α)} {s s' : σ}
  {log : List (Nat × Step I σ)} {results : List α}

/-- Side by side, every program is answered by its own exchanges. -/
theorem Interleaved.answered (h : Interleaved server ps s log results s') {i : Nat}
    {p : Program I α} (hi : ps[i]? = some p) :
    ∃ a, results[i]? = some a ∧ Answered p (ownExchanges i log) a := by
  induction h generalizing p with
  | finished results s =>
    obtain ⟨a, ha, rfl⟩ : ∃ a, results[i]? = some a ∧ Program.done a = p := by
      rwa [List.getElem?_map, Option.map_eq_some_iff] at hi
    exact ⟨a, ha, .done a⟩
  | emit j e q hj rest ih =>
    by_cases hij : j = i
    · subst hij
      obtain rfl : Program.emit e q = p := Option.some.inj (hj.symm.trans hi)
      obtain ⟨a, ha, hq⟩ := ih (getElem?_set_of_getElem? hj q)
      exact ⟨a, ha, .emit e hq⟩
    · exact ih (by rw [List.getElem?_set_ne hij, hi])
  | request j r k hj rest ih =>
    by_cases hij : j = i
    · subst hij
      obtain rfl : Program.request r k = p := Option.some.inj (hj.symm.trans hi)
      obtain ⟨a, ha, hk⟩ := ih (getElem?_set_of_getElem? hj _)
      rw [ownExchanges_cons_self]
      exact ⟨a, ha, .request r k _ hk⟩
    · rw [ownExchanges_cons_of_ne hij]
      exact ih (by rw [List.getElem?_set_ne hij, hi])

/-- Only programs that exist make requests. -/
theorem Interleaved.lt_length (h : Interleaved server ps s log results s') {x : Nat × Step I σ}
    (hx : x ∈ log) : x.1 < ps.length := by
  induction h with
  | finished results s => cases hx
  | emit i e p hi rest ih => simpa using ih hx
  | request i r k hi rest ih =>
    rcases List.mem_cons.1 hx with rfl | hx
    · exact (List.getElem?_eq_some_iff.1 hi).1
    · simpa using ih hx

/-! ### Answering again -/

open Classical in
/-- The server that gives the answers of a list as long as it is asked the same requests, and after
that any answers. -/
noncomputable def replay (fallback : (r : I.Request) → I.Reply r) :
    Server I (List (Exchange I)) := fun r answers =>
  match answers with
  | [] => (fallback r, [])
  | x :: rest => (if h : x.request = r then h ▸ x.reply else fallback r, rest)

/-- A program that was answered is answered so in a run. -/
theorem Answered.exists_run {p : Program I α} {a : α} (h : Answered p calls a)
    (fallback : (r : I.Request) → I.Reply r) :
    p.exchanges (replay fallback) calls = calls ∧ (p.run (replay fallback) calls).result = a := by
  induction h with
  | done a => exact ⟨rfl, rfl⟩
  | emit e rest ih => exact ih
  | request r k reply rest ih =>
    obtain ⟨hcalls, hresult⟩ := ih
    have hanswer : ∀ calls : List (Exchange I),
        replay fallback r (⟨r, reply⟩ :: calls) = (reply, calls) := by
      intro calls
      exact Prod.ext (dif_pos rfl) rfl
    unfold exchanges at hcalls ⊢
    rw [steps_request, run_request]
    unfold stepOf
    rw [hanswer]
    exact ⟨congrArg (_ :: ·) hcalls, hresult⟩

end Program

end SecretSync
