import SecretSync.Cluster.Shelf
import SecretSync.Store.Basic

/-!
# `SecretSync.Cluster.Basic`: a cluster in memory

A cluster has one shelf per namespace. Every operation is recorded, and
before it takes effect the first pending hook that waits for it fires: other
writers' deletions and writes happen, and the operation may be made to fail.
The failure of a hook is of whatever type the user of the cluster understands,
so the same cluster serves as a store and behind an API server.

`Cluster.storeServer` is the cluster as a store of secrets.
-/

set_option autoImplicit false

namespace SecretSync

/-- The operations of a cluster. -/
inductive Verb where
  | get | create | update | list
  /-- Reading a resource that owns secrets. -/
  | fetch
  /-- Changing the status of such a resource. -/
  | patch
  deriving DecidableEq, Repr

namespace Verb

/-- The word for an operation. -/
def word : Verb → String
  | .get => "get"
  | .create => "create"
  | .update => "update"
  | .list => "list"
  | .fetch => "fetch"
  | .patch => "patch"

/-- The operation of a word. -/
def ofWord? (word : String) : Option Verb :=
  [Verb.get, .create, .update, .list, .fetch, .patch].find? fun v => v.word == word

end Verb

/-- An operation on an object. A creation that leaves the name open has the prefix and a star in
its place, and a listing the selector. -/
structure Call where
  verb : Verb
  ns : String
  name : String
  deriving DecidableEq, Repr

/-- The text of a call. -/
def Call.text (c : Call) : String := c.verb.word ++ " " ++ c.ns ++ "/" ++ c.name

/-- What happens right before an operation takes effect. -/
structure Hook (φ : Type) where
  verb : Verb
  ns : Option String := none
  name : Option String := none
  deletions : List (String × String) := []
  writes : List Secret := []
  failure : Option φ := none

/-- Whether a hook waits for a call. -/
def Hook.waitsFor {φ : Type} (h : Hook φ) (c : Call) : Bool :=
  h.verb == c.verb && h.ns.all (· == c.ns) && h.name.all (· == c.name)

/-- A cluster in memory whose hooks fail with a `φ`. -/
structure Cluster (φ : Type) where
  shelves : SortedMap Shelf := .empty
  hooks : List (Hook φ) := []
  /-- The calls so far, the latest first. -/
  history : List Call := []

/-- The first element that satisfies `p`, and the list without it. -/
def takeFirst {α : Type} (p : α → Bool) : List α → Option (α × List α)
  | [] => none
  | a :: rest =>
    if p a then some (a, rest)
    else (takeFirst p rest).map fun found => (found.1, a :: found.2)

namespace Cluster

variable {φ : Type}

/-- The namespace of a secret that is put into a cluster without saying where. -/
def fallbackNamespace : String := "target-ns"

/-- The cluster without secrets. -/
def empty : Cluster φ := {}

/-- The shelf of a namespace. -/
def shelf (c : Cluster φ) (ns : String) : Shelf := (c.shelves.get? ns).getD .empty

/-- The cluster with another shelf for a namespace. -/
def setShelf (c : Cluster φ) (ns : String) (s : Shelf) : Cluster φ :=
  { c with shelves := c.shelves.insert ns s }

/-- Puts a secret into the cluster from outside. -/
def put (c : Cluster φ) (secret : Secret) : Cluster φ :=
  let ns := secret.metadata.ns.getD fallbackNamespace
  let placed := { secret with metadata := { secret.metadata with ns := some ns } }
  c.setShelf ns ((c.shelf ns).put placed)

/-- Deletes a secret from outside. -/
def delete (c : Cluster φ) (ns name : String) : Cluster φ :=
  match c.shelves.get? ns with
  | some s => c.setShelf ns (s.delete name)
  | none => c

/-- The secret of a namespace and name. -/
def secret? (c : Cluster φ) (ns name : String) : Option Secret := (c.shelf ns).secrets.get? name

/-- Changes a stored secret in place, without a new version. -/
def modify (c : Cluster φ) (ns name : String) (secret : Secret) : Cluster φ :=
  let s := c.shelf ns
  c.setShelf ns { s with secrets := s.secrets.insert name secret }

/-- All secrets, by namespace and name. -/
def secrets (c : Cluster φ) : List Secret :=
  c.shelves.values.flatMap fun s => s.secrets.values

/-- The calls so far in order. -/
def calls (c : Cluster φ) : List Call := c.history.reverse

/-- What other writers do when a hook fires. -/
def interfere (c : Cluster φ) (h : Hook φ) : Cluster φ :=
  let deleted := h.deletions.foldl (fun c d => c.delete d.1 d.2) c
  h.writes.foldl put deleted

/-- Records a call and fires the first hook that waits for it. -/
def enter (c : Cluster φ) (call : Call) : Option φ × Cluster φ :=
  -- The call is recorded also if its hook makes it fail.
  let c := { c with history := call :: c.history }
  match takeFirst (·.waitsFor call) c.hooks with
  | none => (none, c)
  | some (hook, hooks) => (hook.failure, interfere { c with hooks := hooks } hook)

/-- The name in the call of a creation. -/
def creationName (secret : Secret) : String :=
  if secret.name.isEmpty then secret.metadata.generateName.getD "" ++ "*" else secret.name

/-- The call that a store request is. -/
def callOf : StoreRequest → Call
  | .get ns name => ⟨.get, ns, name⟩
  | .create ns secret => ⟨.create, ns, creationName secret⟩
  | .update ns secret => ⟨.update, ns, secret.name⟩
  | .list ns filter => ⟨.list, ns, filter.selector⟩

/-- The failure of a store request on a cluster: a refusal in the words of a store. -/
def refusalError (ns : String) : Refusal → StoreError
  | .notFound name => .notFound (ns ++ "/" ++ name)
  | .alreadyExists name => .alreadyExists (ns ++ "/" ++ name)
  | .conflict name => .conflict (ns ++ "/" ++ name ++ " was modified concurrently")

/-- Carries out a store request, hooks aside. -/
def perform (c : Cluster φ) : (r : StoreRequest) → r.Reply × Cluster φ
  | .get ns name => (((c.shelf ns).get name).mapError (refusalError ns), c)
  | .create ns secret =>
    -- A refused creation may have used up a generated name, so the shelf is kept in any case.
    let (reply, s) := (c.shelf ns).create ns secret
    (reply.mapError (refusalError ns), c.setShelf ns s)
  | .update ns secret =>
    match (c.shelf ns).update secret.name secret with
    | (.ok stored, s) => (.ok stored, c.setShelf ns s)
    | (.error e, _) => (.error (refusalError ns e), c)
  | .list ns filter => (.ok ((c.shelf ns).list filter), c)

/-- The reply that fails with an error. -/
def failed (e : StoreError) : (r : StoreRequest) → r.Reply
  | .get _ _ => .error e
  | .create _ _ => .error e
  | .update _ _ => .error e
  | .list _ _ => .error e

/-- A cluster as a store of secrets. -/
def storeServer : Program.Server storeInterface (Cluster StoreError) := fun r c =>
  match c.enter (callOf r) with
  | (some e, c) => (failed e r, c)
  | (none, c) => c.perform r

end Cluster

end SecretSync
