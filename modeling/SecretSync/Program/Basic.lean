import SecretSync.Event

/-!
# `SecretSync.Program.Basic`: programs as trees of requests

A program that talks to a store or a server is a value: it is done, or it
reports an event and goes on, or it makes a request and goes on with the
reply. Nothing in it says who answers. The same program runs against a
cluster in memory, against an API server, against any function from
histories to replies, and together with others under any schedule.

`Interface` fixes the requests and the type of the reply to each. `run`
answers the requests from a state, `refine` answers them by programs over
another interface, and `weave` runs several programs side by side, one
request at a time, in the order that a schedule gives.
-/

set_option autoImplicit false

namespace SecretSync

/-- The requests that a program may make, and what the reply to each is. -/
structure Interface where
  Request : Type
  Reply : Request → Type

/-- A program over an interface with a result in `α`. -/
inductive Program (I : Interface) (α : Type) where
  | done (result : α)
  | emit (event : Event) (next : Program I α)
  | request (r : I.Request) (next : I.Reply r → Program I α)

namespace Program

variable {I J : Interface} {α β σ : Type}

/-- Runs a program and goes on with its result. -/
def bind : Program I α → (α → Program I β) → Program I β
  | .done a, f => f a
  | .emit e p, f => .emit e (p.bind f)
  | .request r k, f => .request r fun reply => (k reply).bind f

instance : Monad (Program I) where
  pure := .done
  bind := bind

/-- Makes one request. -/
def ask (r : I.Request) : Program I (I.Reply r) := .request r .done

/-- Reports one event. -/
def tell (e : Event) : Program I Unit := .emit e (.done ())

/-- Reports events one after the other. -/
def tellAll : List Event → Program I Unit
  | [] => .done ()
  | e :: rest => .emit e (tellAll rest)

/-- Writes a log record. -/
def log (record : LogRecord) : Program I Unit := tell (.log record)

/-- Takes a measurement. -/
def measure (m : Measurement) : Program I Unit := tell (.measure m)

/-- Prints a line. -/
def print (line : String) : Program I Unit := tell (.print line)

/-! ### Running -/

/-- How a run ended: the result, the events in order, and the state afterwards. -/
structure Outcome (σ α : Type) where
  result : α
  events : List Event
  state : σ

/-- Who answers requests: a reply and a new state for every request in every state. -/
abbrev Server (I : Interface) (σ : Type) := (r : I.Request) → σ → I.Reply r × σ

/-- Runs a program, answering its requests one after the other. -/
def run (server : Server I σ) : Program I α → σ → Outcome σ α
  | .done a, s => ⟨a, [], s⟩
  | .emit e p, s =>
    let o := p.run server s
    { o with events := e :: o.events }
  | .request r k, s =>
    let (reply, s') := server r s
    (k reply).run server s'

/-! ### Changing the interface -/

/-- Answers every request by a program over another interface. -/
def refine (client : (r : I.Request) → Program J (I.Reply r)) : Program I α → Program J α
  | .done a => .done a
  | .emit e p => .emit e (p.refine client)
  | .request r k => (client r).bind fun reply => (k reply).refine client

/-! ### Side by side -/

/-- The program with the events in front of its next request taken off, and those events. -/
def settle : Program I α → List Event × Program I α
  | .emit e p =>
    let (events, q) := p.settle
    (e :: events, q)
  | p => ([], p)

/-- Runs programs one after the other. -/
def sequence : List (Program I α) → Program I (List α)
  | [] => .done []
  | p :: rest => p.bind fun a => (sequence rest).bind fun as => .done (a :: as)

/-- Runs programs side by side. Every number in the schedule lets the program at that position
report its events up to its next request and make that request; a program that is done, or that
does not exist, is passed over. When the schedule ends the programs are finished in order. -/
def weave : List Nat → List (Program I α) → Program I (List α)
  | [], ps => sequence ps
  | i :: schedule, ps =>
    match ps[i]? with
    | none => weave schedule ps
    | some p =>
      let (events, q) := p.settle
      (tellAll events).bind fun _ =>
        match q with
        | .request r k => .request r fun reply => weave schedule (ps.set i (k reply))
        | q => weave schedule (ps.set i q)

/-- The schedule that gives each of `count` programs one turn after the other, `rounds` times. -/
def roundRobin (rounds count : Nat) : List Nat :=
  (List.replicate rounds (List.range count)).flatten

/-- Runs programs side by side, one request of each in turn. -/
def together (rounds : Nat) (ps : List (Program I α)) : Program I (List α) :=
  weave (roundRobin rounds ps.length) ps

end Program

end SecretSync
