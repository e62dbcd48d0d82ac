import Mathlib.Data.List.Chain
import SecretSync.Program.Basic

/-!
# `SecretSync.Proofs.Program.Steps`: the requests of a run

`Program.run` says how a run ends. `Program.steps` says how it got there: one
`Step` for every request, in order, with the reply and with the state of the
server before and after it. The server is arbitrary. A store that answers from
the whole history of its calls is the server whose state is that history.

The main statements:

* `steps_bind`: the steps of a program that goes on with another one are the
  steps of the first, then those of the second.
* `server_of_mem_steps`: a step holds what the server answered.
* `steps_chain`: every step starts in the state in which the one before it
  ended.
* `run_state`: a run ends in the state after its last step.
* `invariant_of_mem_steps`, `invariant_run`: what the server keeps holds before
  every step and at the end.
-/

set_option autoImplicit false

namespace SecretSync

/-- A request and the reply to it. -/
structure Exchange (I : Interface) where
  request : I.Request
  reply : I.Reply request

/-- A request that was answered in a run, and what answering it did to the server. -/
structure Step (I : Interface) (σ : Type) extends Exchange I where
  before : σ
  after : σ

namespace Program

variable {I : Interface} {α β σ : Type}

@[simp] theorem pure_eq (a : α) : (pure a : Program I α) = .done a := rfl

@[simp] theorem bind_eq (p : Program I α) (f : α → Program I β) : p >>= f = p.bind f := rfl

@[simp] theorem done_bind (a : α) (f : α → Program I β) : (Program.done a).bind f = f a := rfl

@[simp] theorem ask_bind (r : I.Request) (f : I.Reply r → Program I β) :
    (Program.ask r).bind f = .request r f := rfl

theorem bind_assoc {γ : Type} (p : Program I α) (f : α → Program I β) (g : β → Program I γ) :
    (p.bind f).bind g = p.bind fun a => (f a).bind g := by
  induction p with
  | done a => rfl
  | emit e p ih => exact congrArg (Program.emit e) ih
  | request r k ih => exact congrArg (Program.request r) (funext ih)

/-- A program that goes on with nothing is the program. -/
theorem bind_done (p : Program I α) : p.bind .done = p := by
  induction p with
  | done a => rfl
  | emit e p ih => exact congrArg (Program.emit e) ih
  | request r k ih => exact congrArg (Program.request r) (funext ih)

/-- A program with events in front of it. -/
def reporting (events : List Event) (p : Program I α) : Program I α := events.foldr .emit p

@[simp] theorem reporting_cons (e : Event) (events : List Event) (p : Program I α) :
    reporting (e :: events) p = .emit e (reporting events p) := rfl

@[simp] theorem reporting_bind (events : List Event) (p : Program I α) (f : α → Program I β) :
    (reporting events p).bind f = reporting events (p.bind f) := by
  induction events with
  | nil => rfl
  | cons e events ih => exact congrArg (Program.emit e) ih

/-- Telling events puts them in front of what follows. -/
@[simp] theorem tellAll_bind (events : List Event) (f : Unit → Program I β) :
    (tellAll events).bind f = reporting events (f ()) := by
  induction events with
  | nil => rfl
  | cons e events ih => exact congrArg (Program.emit e) ih

/-- The request `r` as the server answers it in the state `s`. -/
def stepOf (server : Server I σ) (r : I.Request) (s : σ) : Step I σ :=
  ⟨⟨r, (server r s).1⟩, s, (server r s).2⟩

/-- The requests of a run in order. -/
def steps (server : Server I σ) : Program I α → σ → List (Step I σ)
  | .done _, _ => []
  | .emit _ p, s => p.steps server s
  | .request r k, s =>
    stepOf server r s :: (k (server r s).1).steps server (server r s).2

/-- The requests of a run and the replies to them, without the states. -/
def exchanges (server : Server I σ) (p : Program I α) (s : σ) : List (Exchange I) :=
  (p.steps server s).map Step.toExchange

section
variable (server : Server I σ)

@[simp] theorem run_done (a : α) (s : σ) : (Program.done a).run server s = ⟨a, [], s⟩ := rfl

@[simp] theorem run_emit (e : Event) (p : Program I α) (s : σ) :
    (Program.emit e p).run server s
      = ⟨(p.run server s).result, e :: (p.run server s).events, (p.run server s).state⟩ := rfl

@[simp] theorem run_request (r : I.Request) (k : I.Reply r → Program I α) (s : σ) :
    (Program.request r k).run server s = (k (server r s).1).run server (server r s).2 := rfl

@[simp] theorem steps_done (a : α) (s : σ) : (Program.done a).steps server s = [] := rfl

@[simp] theorem steps_emit (e : Event) (p : Program I α) (s : σ) :
    (Program.emit e p).steps server s = p.steps server s := rfl

@[simp] theorem steps_request (r : I.Request) (k : I.Reply r → Program I α) (s : σ) :
    (Program.request r k).steps server s
      = stepOf server r s :: (k (server r s).1).steps server (server r s).2 := rfl

@[simp] theorem run_reporting (events : List Event) (p : Program I α) (s : σ) :
    (reporting events p).run server s
      = ⟨(p.run server s).result, events ++ (p.run server s).events, (p.run server s).state⟩ := by
  induction events with
  | nil => rfl
  | cons e events ih => rw [reporting_cons, run_emit, ih]; rfl

@[simp] theorem steps_reporting (events : List Event) (p : Program I α) (s : σ) :
    (reporting events p).steps server s = p.steps server s := by
  induction events with
  | nil => rfl
  | cons e events ih => exact ih

/-- A program that goes on with another one runs the first and then, from where it ended, the
second. -/
theorem run_bind (p : Program I α) (f : α → Program I β) (s : σ) :
    (p.bind f).run server s
      = ⟨((f (p.run server s).result).run server (p.run server s).state).result,
          (p.run server s).events
            ++ ((f (p.run server s).result).run server (p.run server s).state).events,
          ((f (p.run server s).result).run server (p.run server s).state).state⟩ := by
  induction p generalizing s with
  | done a => rfl
  | emit e p ih =>
    show (Program.emit e (p.bind f)).run server s = _
    rw [run_emit, ih]
    rfl
  | request r k ih => exact ih _ _

/-- The steps of a program that goes on with another one. -/
theorem steps_bind (p : Program I α) (f : α → Program I β) (s : σ) :
    (p.bind f).steps server s
      = p.steps server s
        ++ (f (p.run server s).result).steps server (p.run server s).state := by
  induction p generalizing s with
  | done a => rfl
  | emit e p ih => exact ih s
  | request r k ih => exact congrArg (stepOf server r s :: ·) (ih _ _)

theorem exchanges_bind (p : Program I α) (f : α → Program I β) (s : σ) :
    (p.bind f).exchanges server s
      = p.exchanges server s
        ++ (f (p.run server s).result).exchanges server (p.run server s).state := by
  unfold exchanges
  rw [steps_bind, List.map_append]

/-! ### What a step says about the server -/

/-- The reply and the next state of a step are what the server gave. -/
theorem server_of_mem_steps {p : Program I α} {s : σ} {x : Step I σ}
    (hx : x ∈ p.steps server s) : server x.request x.before = (x.reply, x.after) := by
  induction p generalizing s with
  | done a => cases hx
  | emit e p ih => exact ih hx
  | request r k ih =>
    rcases List.mem_cons.1 hx with rfl | hx
    · rfl
    · exact ih _ hx

/-- The first step of a run starts in the state in which the run starts. -/
theorem before_of_head_steps {p : Program I α} {s : σ} {x : Step I σ}
    (hx : x ∈ (p.steps server s).head?) : x.before = s := by
  induction p generalizing s with
  | done a => cases hx
  | emit e p ih => exact ih hx
  | request r k ih =>
    obtain rfl : stepOf server r s = x := by simpa using hx
    rfl

/-- Every step starts in the state in which the one before it ended. -/
theorem steps_chain (p : Program I α) (s : σ) :
    (p.steps server s).IsChain fun x y => y.before = x.after := by
  induction p generalizing s with
  | done a => exact .nil
  | emit e p ih => exact ih s
  | request r k ih =>
    rw [steps_request, List.isChain_cons]
    exact ⟨fun y hy => before_of_head_steps server hy, ih _ _⟩

/-- A run ends in the state after its last step, or where it started if it made no request. -/
theorem run_state (p : Program I α) (s : σ) :
    (p.run server s).state = ((p.steps server s).getLast?.map Step.after).getD s := by
  induction p generalizing s with
  | done a => rfl
  | emit e p ih => exact ih s
  | request r k ih =>
    rw [run_request, steps_request, ih, List.getLast?_cons]
    -- The last step is that of the rest, or this one if the rest makes no request.
    cases (steps server (k (server r s).1) (server r s).2).getLast? <;> rfl

/-! ### Invariants of the server -/

variable {server} {Inv : σ → Prop}

/-- What every request keeps holds before every step. -/
theorem invariant_of_mem_steps (hkeep : ∀ r s, Inv s → Inv (server r s).2) {p : Program I α}
    {s : σ} (hs : Inv s) {x : Step I σ} (hx : x ∈ p.steps server s) : Inv x.before := by
  induction p generalizing s with
  | done a => cases hx
  | emit e p ih => exact ih hs hx
  | request r k ih =>
    rcases List.mem_cons.1 hx with rfl | hx
    · exact hs
    · exact ih _ (hkeep r s hs) hx

/-- What every request keeps holds at the end. -/
theorem invariant_run (hkeep : ∀ r s, Inv s → Inv (server r s).2) (p : Program I α) {s : σ}
    (hs : Inv s) : Inv (p.run server s).state := by
  induction p generalizing s with
  | done a => exact hs
  | emit e p ih => exact ih hs
  | request r k ih => exact ih _ (hkeep r s hs)

end

end Program

end SecretSync
