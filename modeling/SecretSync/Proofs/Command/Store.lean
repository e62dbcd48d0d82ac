import SecretSync.Command.Basic
import SecretSync.Proofs.Program.Steps

/-!
# `SecretSync.Proofs.Command.Store`: store programs in a command

A command runs a program on the store of its cluster by `onStore`. The
equations take `onStore` through a program, and `run_onStore` and
`steps_onStore` say what such a run is on an arbitrary cluster: the run of the
program on that part of the cluster which is a store, `storeOf`.
-/

set_option autoImplicit false

namespace SecretSync

section
variable {α β σ : Type}

theorem onStore_request (r : StoreRequest) (k : r.Reply → StoreProgram α) :
    onStore (Program.request (I := storeInterface) r k)
      = Program.request (I := clusterInterface) (.store r) fun reply => onStore (k reply) := rfl

theorem onStore_reporting (events : List Event) (p : StoreProgram α) :
    onStore (Program.reporting events p) = Program.reporting events (onStore p) := by
  induction events with
  | nil => rfl
  | cons e events ih => exact congrArg (Program.emit e) ih

theorem onStore_bind (p : StoreProgram α) (f : α → StoreProgram β) :
    onStore (p.bind f) = (onStore p).bind fun a => onStore (f a) := by
  induction p with
  | done a => rfl
  | emit e p ih => exact congrArg (Program.emit e) ih
  | request r k ih => exact congrArg (Program.request _) (funext ih)

/-- The store of a cluster. -/
def storeOf (K : Program.Server clusterInterface σ) : Program.Server storeInterface σ :=
  fun r s => K (.store r) s

/-- A step of the store as a step of the cluster. -/
def Step.ofStore (x : Step storeInterface σ) : Step clusterInterface σ where
  request := .store x.request
  reply := x.reply
  before := x.before
  after := x.after

/-- The call of the store that a request to a cluster is, if it is one. -/
def Exchange.storeCall? : Exchange clusterInterface → Option (Exchange storeInterface)
  | ⟨.store r, reply⟩ => some ⟨r, reply⟩
  | _ => none

theorem run_onStore (K : Program.Server clusterInterface σ) (p : StoreProgram α) (s : σ) :
    (onStore p).run K s = p.run (storeOf K) s := by
  induction p generalizing s with
  | done a => rfl
  | emit e p ih =>
    show (Program.emit e (onStore p)).run K s = _
    rw [Program.run_emit, Program.run_emit, ih]
  | request r k ih => exact ih _ _

theorem steps_onStore (K : Program.Server clusterInterface σ) (p : StoreProgram α) (s : σ) :
    (onStore p).steps K s = (p.steps (storeOf K) s).map Step.ofStore := by
  induction p generalizing s with
  | done a => rfl
  | emit e p ih => exact ih s
  | request r k ih => exact congrArg (_ :: ·) (ih _ _)

end

end SecretSync
