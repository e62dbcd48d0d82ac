import SecretSync.Command.Basic
import SecretSync.Proofs.Cluster.Requests
import SecretSync.Proofs.Program.Interleaving

/-!
# `SecretSync.Proofs.Cluster.Transactions`: writers of one secret side by side

A writer of a secret reads it, prepares a new one over what it has read, and
sends that with the version that it has read. `Transacts` says so of a program,
whatever it is answered: every replacement is prepared over a secret that was
read, every creation is prepared over nothing, and after a write that succeeds
there are no more requests.

Take any number of such programs on the same secret and any interleaving of
their requests. `serial_of_interleaved` says that what they leave behind is
what their writes give one after the other, each over the result of the one
before it, in the order in which the writes succeeded (`Succession`). What an
actor remembers may be old. But an old version is refused, so a replacement that
succeeds replaces what was read (`Remembers.eq_of_upToDate`).
-/

set_option autoImplicit false

namespace SecretSync

open Program (Interleaved stepOf)

/-- Writers that write one after the other: the first makes a secret of what is there, and each
other one of what the one before it has left. -/
inductive Succession {ι : Type} (makes : ι → Option Secret → Secret → Prop) :
    List ι → Option Secret → Option Secret → Prop
  | nil (current : Option Secret) : Succession makes [] current current
  | cons {i : ι} {rest : List ι} {current final : Option Secret} (s : Secret)
      (h : makes i current s) (hrest : Succession makes rest (some s) final) :
      Succession makes (i :: rest) current final

namespace Succession

variable {ι : Type} {makes makes' : ι → Option Secret → Secret → Prop} {order : List ι}
  {current final : Option Secret}

theorem mono (h : Succession makes order current final)
    (hsub : ∀ i current s, makes i current s → makes' i current s) :
    Succession makes' order current final := by
  induction h with
  | nil current => exact .nil current
  | cons s h hrest ih => exact .cons s (hsub _ _ _ h) ih

/-- Where every writer makes what a function gives, the functions are applied in turn. -/
theorem eq_foldl {apply : ι → Option Secret → Option Secret}
    (h : Succession makes order current final)
    (happly : ∀ i current s, makes i current s → apply i current = some s) :
    final = order.foldl (fun current i => apply i current) current := by
  induction h with
  | nil current => rfl
  | cons s h hrest ih => rw [ih, List.foldl_cons, happly _ _ _ h]

end Succession

/-- What a program with a result in `α` does to one secret: what it makes of it, the results with
which it may end if it has not written, and those with which it may end if it has. -/
structure Transaction (α : Type) where
  makes : Option Secret → Secret → Prop
  idle : α → Prop
  wrote : α → Prop

namespace Transaction

variable {α : Type}

/-- The version of the secret does not matter to what is made of it. -/
def Versionless (x : Transaction α) : Prop :=
  ∀ current s, x.makes current s → x.makes (current.map Secret.unversioned) s.unversioned

/-- A program that makes no more requests and ends with such a result. -/
inductive Concludes (P : α → Prop) : ClusterProgram α → Prop
  | done (a : α) (h : P a) : Concludes P (.done a)
  | emit (e : Event) (p : ClusterProgram α) (h : Concludes P p) : Concludes P (.emit e p)

/-- A program that reads and writes the secret `ns/name` only, and writes it once at most. `seen`
holds of the secrets that it has read so far. -/
inductive Transacts (ns name : String) (x : Transaction α) :
    (Secret → Prop) → ClusterProgram α → Prop
  /-- It has ended without a write. -/
  | done {seen : Secret → Prop} (a : α) (h : x.idle a) : Transacts ns name x seen (.done a)
  /-- It reports an event. -/
  | emit {seen : Secret → Prop} (e : Event) (p : ClusterProgram α)
      (h : Transacts ns name x seen p) : Transacts ns name x seen (.emit e p)
  /-- It reads the secret. -/
  | get {seen : Secret → Prop} (k : Except StoreError Secret → ClusterProgram α)
      (hfail : ∀ e, Transacts ns name x seen (k (.error e)))
      (hok : ∀ stored, Transacts ns name x (fun s => s = stored ∨ seen s) (k (.ok stored))) :
      Transacts ns name x seen (.request (.store (.get ns name)) k)
  /-- It creates the secret. -/
  | create {seen : Secret → Prop} (secret : Secret)
      (k : Except StoreError Secret → ClusterProgram α) (hnew : x.makes none secret)
      (hname : secret.metadata.name = some name) (hns : secret.metadata.ns = some ns)
      (hfail : ∀ e, Transacts ns name x seen (k (.error e)))
      (hok : ∀ stored, Concludes x.wrote (k (.ok stored))) :
      Transacts ns name x seen (.request (.store (.create ns secret)) k)
  /-- It replaces a secret that it has read. -/
  | update {seen : Secret → Prop} (old secret : Secret)
      (k : Except StoreError Secret → ClusterProgram α) (hseen : seen old)
      (hnew : x.makes (some old) secret)
      (hname : secret.metadata.name = old.metadata.name)
      (hversion : secret.metadata.resourceVersion = old.metadata.resourceVersion)
      (hfail : ∀ e, Transacts ns name x seen (k (.error e)))
      (hok : ∀ stored, Concludes x.wrote (k (.ok stored))) :
      Transacts ns name x seen (.request (.store (.update ns secret)) k)

variable {ns name : String} {x : Transaction α} {seen : Secret → Prop} {p : ClusterProgram α}

/-- A program that has read more may do no less. -/
theorem Transacts.mono (h : Transacts ns name x seen p) {seen' : Secret → Prop}
    (hsub : ∀ s, seen s → seen' s) : Transacts ns name x seen' p := by
  induction h generalizing seen' with
  | done a h => exact .done a h
  | emit e p h ih => exact .emit e p (ih hsub)
  | get k hfail hok ihfail ihok =>
    exact .get k (fun e => ihfail e hsub) fun stored => ihok stored fun s hs => hs.imp id (hsub s)
  | create secret k hnew hname hns hfail hok ihfail =>
    exact .create secret k hnew hname hns (fun e => ihfail e hsub) hok
  | update old secret k hseen hnew hname hversion hfail hok ihfail =>
    exact .update old secret k (hsub old hseen) hnew hname hversion (fun e => ihfail e hsub) hok

/-! ### Composition -/

variable {β : Type} {y : Transaction β} {f : α → ClusterProgram β}

theorem Concludes.bind {P : α → Prop} {Q : β → Prop} (h : Concludes P p)
    (hf : ∀ a, P a → Concludes Q (f a)) : Concludes Q (p.bind f) := by
  induction h with
  | done a h => exact hf a h
  | emit e p h ih => exact .emit e _ ih

/-- A program may go on after it has ended without a write, and may report after a write. -/
theorem Transacts.bind (h : Transacts ns name x seen p) (hmakes : y.makes = x.makes)
    (hidle : ∀ a, x.idle a → Transacts ns name y seen (f a))
    (hwrote : ∀ a, x.wrote a → Concludes y.wrote (f a)) :
    Transacts ns name y seen (p.bind f) := by
  induction h with
  | done a h => exact hidle a h
  | emit e p h ih => exact .emit e _ (ih hidle)
  | get k hfail hok ihfail ihok =>
    refine .get _ (fun e => ihfail e hidle) ?_
    intro stored
    -- What follows was a writer before the read, and having read more it still is one.
    refine ihok stored ?_
    intro a ha
    exact (hidle a ha).mono fun s hs => .inr hs
  | create secret k hnew hname hns hfail hok ihfail =>
    exact .create secret _ (hmakes ▸ hnew) hname hns (fun e => ihfail e hidle)
      fun stored => (hok stored).bind hwrote
  | update old secret k hseen hnew hname hversion hfail hok ihfail =>
    exact .update old secret _ hseen (hmakes ▸ hnew) hname hversion (fun e => ihfail e hidle)
      fun stored => (hok stored).bind hwrote

theorem concludes_reporting {P : α → Prop} (h : Concludes P p) (events : List Event) :
    Concludes P (Program.reporting events p) := by
  induction events with
  | nil => exact h
  | cons e events ih => exact .emit e _ ih

theorem transacts_reporting (h : Transacts ns name x seen p) (events : List Event) :
    Transacts ns name x seen (Program.reporting events p) := by
  induction events with
  | nil => exact h
  | cons e events ih => exact .emit e _ ih

end Transaction

namespace Cluster

variable {α : Type}

/-- A cluster that answers the requests about secrets; who answers the others is left open. -/
def withStore (elsewhere : Program.Server clusterInterface (Cluster StoreError)) :
    Program.Server clusterInterface (Cluster StoreError)
  | .store r, c => storeServer r c
  | .fetch ns name, c => elsewhere (.fetch ns name) c
  | .recordTargets ns name targets, c => elsewhere (.recordTargets ns name targets) c

/-- A secret that was stored as `ns/name` now or in an earlier state. -/
def Remembers (c : Cluster StoreError) (ns name : String) (s : Secret) : Prop :=
  ∃ past : Shelf, past.Versioned ∧ past.Later (c.shelf ns) ∧ past.secrets.get? name = some s

theorem remembers_of_stored {c : Cluster StoreError} (hc : c.Versioned) {ns name : String}
    {s : Secret} (h : c.secret? ns name = some s) : c.Remembers ns name s :=
  ⟨c.shelf ns, hc ns, .refl _, h⟩

theorem Remembers.later {c c' : Cluster StoreError} {ns name : String} {s : Secret}
    (h : c.Remembers ns name s) (hl : c.Later c') : c'.Remembers ns name s := by
  obtain ⟨past, hpast, hlater, hget⟩ := h
  exact ⟨past, hpast, hlater.trans (hl ns), hget⟩

/-- A stored secret that a remembered one is up to date with is the remembered one. -/
theorem Remembers.eq_of_upToDate {c : Cluster StoreError} {ns name : String} {old current : Secret}
    (h : c.Remembers ns name old) (hcurrent : c.secret? ns name = some current)
    (hdate : Shelf.upToDate old current = true) : current = old := by
  obtain ⟨past, hpast, hlater, hget⟩ := h
  exact hlater.eq_of_upToDate hpast hget hcurrent hdate

theorem Remembers.name_eq {c : Cluster StoreError} {ns name : String} {s : Secret}
    (h : c.Remembers ns name s) : s.name = name := by
  obtain ⟨past, hpast, -, hget⟩ := h
  exact (hpast name s hget).1

/-! ### Clusters without hooks -/

/-- All versions come from the counters, and no other writer is about to act. -/
structure Quiet (c : Cluster StoreError) : Prop where
  versioned : c.Versioned
  hooks : c.hooks = []

theorem Quiet.regular {c : Cluster StoreError} (hc : c.Quiet) : c.Regular :=
  ⟨hc.versioned, by rw [hc.hooks]; simp⟩

theorem secret?_enter {c : Cluster StoreError} (hc : c.Quiet) (call : Call) (ns name : String) :
    (c.enter call).2.secret? ns name = c.secret? ns name := by
  rw [enter_of_unhooked hc.hooks]
  rfl

theorem quiet_storeServer {c : Cluster StoreError} (hc : c.Quiet) (r : StoreRequest) :
    (storeServer r c).2.Quiet := by
  refine ⟨(storeServer_regular hc.regular r).versioned, ?_⟩
  rw [(advances_storeServer c r).hooks, enter_of_unhooked hc.hooks]
  exact hc.hooks

end Cluster

/-! ### One request -/

/-- The secret that a successful write of a command answered. -/
def ClusterExchange.written? : Exchange clusterInterface → Option Secret
  | ⟨.store r, reply⟩ => StoreExchange.written? ⟨r, reply⟩
  | ⟨.fetch _ _, _⟩ => none
  | ⟨.recordTargets _ _ _, _⟩ => none

namespace Transaction

open Cluster (withStore storeServer Quiet)

variable {α : Type} {ns name : String} {x : Transaction α}

/-- What one request of a writer does: either nothing is written and the writer goes on, or the
writer has written what it makes of the stored secret, and concludes. -/
inductive StepOutcome (ns name : String) (x : Transaction α) (c : Cluster StoreError)
    (written : Option Secret) (next : ClusterProgram α) (c' : Cluster StoreError) : Prop
  | unwritten (hw : written = none) (hp : Transacts ns name x (c'.Remembers ns name) next)
      (hc : c'.secret? ns name = c.secret? ns name)
  | written (hw : written.isSome = true) (hp : Concludes x.wrote next) (s : Secret)
      (hc : (c'.secret? ns name).map Secret.unversioned = some s)
      (hs : x.makes ((c.secret? ns name).map Secret.unversioned) s)

/-- A failed request leaves the secret as it was. -/
theorem StepOutcome.of_failed {c c' : Cluster StoreError} (hc : c.Quiet) {r : StoreRequest}
    {reply : r.Reply} (hns : (Cluster.callOf r).ns = ns) {next : ClusterProgram α}
    (h : storeServer r c = (reply, c')) (hw : StoreExchange.written? ⟨r, reply⟩ = none)
    (hp : Transacts ns name x (c'.Remembers ns name) next) :
    StepOutcome ns name x c (StoreExchange.written? ⟨r, reply⟩) next c' := by
  refine .unwritten hw hp ?_
  have hagree := Cluster.agreeExcept_of_unwritten h hw
  rw [hns] at hagree
  exact (hagree.secrets name fun h => h).trans (Cluster.secret?_enter hc _ ns name)

/-- What is stored after a write is what was sent, versions aside. -/
theorem unversioned_of_stored {secret stored : Secret}
    (hstored : stored.unversioned = secret.unversioned) {post : Option Secret}
    (hpost : post = some stored) : post.map Secret.unversioned = some secret.unversioned := by
  rw [hpost]
  exact congrArg some hstored

/-- A program that has read something goes on in a later state. -/
theorem transacts_later {c c' : Cluster StoreError} (hl : c.Later c') {p : ClusterProgram α}
    (h : Transacts ns name x (c.Remembers ns name) p) :
    Transacts ns name x (c'.Remembers ns name) p :=
  h.mono fun _ hs => hs.later hl

theorem quiet_of_answer {c c' : Cluster StoreError} (hc : c.Quiet) {r : StoreRequest}
    {reply : r.Reply} (h : storeServer r c = (reply, c')) : c'.Quiet ∧ c.Later c' := by
  obtain rfl : (storeServer r c).2 = c' := congrArg Prod.snd h
  exact ⟨Cluster.quiet_storeServer hc r, Cluster.storeServer_later hc.regular r⟩

section
variable {c c' : Cluster StoreError} (hc : c.Quiet)
  {k : Except StoreError Secret → ClusterProgram α} {reply : Except StoreError Secret}
  (hfail : ∀ e, Transacts ns name x (c.Remembers ns name) (k (.error e)))

include hc hfail

/-- What was read is stored, so it may be remembered from here on. -/
theorem stepOutcome_get
    (hok : ∀ stored, Transacts ns name x (fun s => s = stored ∨ c.Remembers ns name s)
      (k (.ok stored)))
    (h : storeServer (.get ns name) c = (reply, c')) :
    StepOutcome ns name x c (StoreExchange.written? ⟨.get ns name, reply⟩) (k reply) c' := by
  obtain ⟨hquiet, hlater⟩ := quiet_of_answer hc h
  refine .of_failed hc rfl h (by cases reply <;> rfl) ?_
  cases reply with
  | error e => exact transacts_later hlater (hfail e)
  | ok stored =>
    obtain ⟨hstored, rfl⟩ := Cluster.get_of_storeServer h
    have hseen := Cluster.remembers_of_stored hquiet.versioned hstored
    refine (hok stored).mono ?_
    intro s hs
    rcases hs with rfl | hs
    · exact hseen
    · exact hs.later hlater

variable (hlaw : x.Versionless) (hok : ∀ stored, Concludes x.wrote (k (.ok stored)))

include hlaw hok

/-- A creation that succeeds found nothing stored. -/
theorem stepOutcome_create {secret : Secret} (hnew : x.makes none secret) (hne : name ≠ "")
    (hname : secret.metadata.name = some name) (hns : secret.metadata.ns = some ns)
    (h : storeServer (.create ns secret) c = (reply, c')) :
    StepOutcome ns name x c (StoreExchange.written? ⟨.create ns secret, reply⟩) (k reply) c' := by
  obtain ⟨hquiet, hlater⟩ := quiet_of_answer hc h
  cases reply with
  | error e => exact .of_failed hc rfl h rfl (transacts_later hlater (hfail e))
  | ok stored =>
    obtain ⟨hs, hfree, hstored, -⟩ :=
      Cluster.perform_create_ok (Cluster.perform_of_written h rfl)
    -- The secret has a name, so whatever the counters of the shelf are, that is the name it gets.
    generalize ((c.enter (Cluster.callOf (.create ns secret))).2.shelf ns) = shelf at hs
    have hsecret : secret.name = name := Secret.name_of_metadata hname
    have hfor : shelf.nameFor secret = name := by
      unfold Shelf.nameFor
      rw [hsecret, if_neg fun he => hne (String.isEmpty_iff.1 he)]
    have hstoredName : stored.name = name := by
      rw [hs]
      exact hfor
    rw [hstoredName, Cluster.secret?_enter hc] at hfree
    rw [hstoredName] at hstored
    refine .written rfl (hok stored) _ (unversioned_of_stored ?_ hstored)
      (hlaw _ _ (hfree ▸ hnew))
    rw [hs, Shelf.unversioned_stamped, Shelf.named_eq_self (hfor.symm ▸ hname) hns]

/-- A replacement that succeeds replaced what was read: no other version is accepted. -/
theorem stepOutcome_update {old secret : Secret} (hseen : c.Remembers ns name old)
    (hnew : x.makes (some old) secret)
    (hname : secret.metadata.name = old.metadata.name)
    (hversion : secret.metadata.resourceVersion = old.metadata.resourceVersion)
    (h : storeServer (.update ns secret) c = (reply, c')) :
    StepOutcome ns name x c (StoreExchange.written? ⟨.update ns secret, reply⟩) (k reply) c' := by
  obtain ⟨hquiet, hlater⟩ := quiet_of_answer hc h
  cases reply with
  | error e => exact .of_failed hc rfl h rfl (transacts_later hlater (hfail e))
  | ok stored =>
    obtain ⟨hs, ⟨current, hcurrent, hdate⟩, hstored, -⟩ :=
      Cluster.perform_update_ok (Cluster.perform_of_written h rfl)
    have hsecret : secret.name = name :=
      (congrArg (·.getD "") hname).trans hseen.name_eq
    have hstoredName : stored.name = name := by
      rw [hs]
      exact hsecret
    rw [Shelf.upToDate_congr hversion] at hdate
    rw [hsecret, Cluster.secret?_enter hc] at hcurrent
    rw [hstoredName] at hstored
    -- The version was accepted, so what is replaced is what was read.
    obtain rfl := hseen.eq_of_upToDate hcurrent hdate
    refine .written rfl (hok stored) _ (unversioned_of_stored ?_ hstored)
      (hlaw _ _ (hcurrent ▸ hnew))
    rw [hs, Shelf.unversioned_stamped]

end

/-- The step lemma of writers side by side. -/
theorem stepOutcome {c : Cluster StoreError} (hc : c.Quiet) (hlaw : x.Versionless)
    (hne : name ≠ "") (elsewhere : Program.Server clusterInterface (Cluster StoreError))
    {r : ClusterRequest} {k : r.Reply → ClusterProgram α}
    (h : Transacts ns name x (c.Remembers ns name) (.request r k)) :
    let answer := withStore elsewhere r c
    StepOutcome ns name x c (ClusterExchange.written? ⟨r, answer.1⟩) (k answer.1) answer.2 ∧
      answer.2.Quiet ∧ c.Later answer.2 := by
  cases h with
  | get k hfail hok =>
    exact ⟨stepOutcome_get hc hfail hok rfl, quiet_of_answer hc (r := .get ns name) rfl⟩
  | create secret k hnew hname hns hfail hok =>
    exact ⟨stepOutcome_create hc hfail hlaw hok hnew hne hname hns rfl,
      quiet_of_answer hc (r := .create ns secret) rfl⟩
  | update old secret k hseen hnew hname hversion hfail hok =>
    exact ⟨stepOutcome_update hc hfail hlaw hok hseen hnew hname hversion rfl,
      quiet_of_answer hc (r := .update ns secret) rfl⟩

/-! ### A whole run -/

/-- The programs whose writes have succeeded, in the order of the writes. -/
def writers (log : List (Nat × Step clusterInterface (Cluster StoreError))) : List Nat :=
  log.filterMap fun entry =>
    (ClusterExchange.written? entry.2.toExchange).map fun _ => entry.1

theorem writers_cons_of_unwritten {entry : Nat × Step clusterInterface (Cluster StoreError)}
    (h : ClusterExchange.written? entry.2.toExchange = none)
    (log : List (Nat × Step clusterInterface (Cluster StoreError))) :
    writers (entry :: log) = writers log :=
  List.filterMap_cons_none (congrArg (Option.map fun _ => entry.1) h)

theorem writers_cons_of_written {entry : Nat × Step clusterInterface (Cluster StoreError)}
    (h : (ClusterExchange.written? entry.2.toExchange).isSome = true)
    (log : List (Nat × Step clusterInterface (Cluster StoreError))) :
    writers (entry :: log) = entry.1 :: writers log := by
  obtain ⟨stored, hstored⟩ := Option.isSome_iff_exists.1 h
  exact List.filterMap_cons_some (congrArg (Option.map fun _ => entry.1) hstored)

/-- The secret is what the writers in `order` make of it one after the other. Nobody writes twice.
The result of a program is one of a writer or of an idle one, as it has written or not; `committed`
are those that had written before. -/
structure Serial (ns name : String) (xs : Nat → Transaction α) (committed : Nat → Prop)
    (count : Nat) (c : Cluster StoreError) (order : List Nat) (results : List α)
    (c' : Cluster StoreError) : Prop where
  nodup : order.Nodup
  pending : ∀ i ∈ order, ¬committed i ∧ i < count
  wrote : ∀ i a, results[i]? = some a → committed i ∨ i ∈ order → (xs i).wrote a
  idle : ∀ i a, results[i]? = some a → ¬committed i → i ∉ order → (xs i).idle a
  content : Succession (fun i => (xs i).makes) order ((c.secret? ns name).map Secret.unversioned)
    ((c'.secret? ns name).map Secret.unversioned)

/-- The programs that have written conclude, and the others are writers of what the cluster
remembers. -/
def AllTransact (ns name : String) (xs : Nat → Transaction α) (committed : Nat → Prop)
    (c : Cluster StoreError) (ps : List (ClusterProgram α)) : Prop :=
  ∀ i p, ps[i]? = some p → (committed i → Concludes (xs i).wrote p) ∧
    (¬committed i → Transacts ns name (xs i) (c.Remembers ns name) p)

variable {xs : Nat → Transaction α} {committed : Nat → Prop} {c c' : Cluster StoreError}
  {ps : List (ClusterProgram α)}

/-- The invariant after one program has moved: it holds of that program, and the others have seen
no less than before. -/
theorem AllTransact.set (h : AllTransact ns name xs committed c ps) (hl : c.Later c') {i : Nat}
    {committed' : Nat → Prop} (hother : ∀ j, j ≠ i → (committed' j ↔ committed j))
    {p : ClusterProgram α} (hp : (committed' i → Concludes (xs i).wrote p) ∧
      (¬committed' i → Transacts ns name (xs i) (c'.Remembers ns name) p)) :
    AllTransact ns name xs committed' c' (ps.set i p) := by
  intro j q hq
  by_cases hji : j = i
  · -- The program that has moved.
    subst hji
    have hlt : j < ps.length := by
      have := (List.getElem?_eq_some_iff.1 hq).1
      rwa [List.length_set] at this
    rw [List.getElem?_set_self hlt] at hq
    obtain rfl := Option.some.inj hq
    exact hp
  · -- The others stand where they stood, and what they have read may be remembered still.
    rw [List.getElem?_set_ne (Ne.symm hji)] at hq
    rw [hother j hji]
    exact ⟨(h j q hq).1, fun hc => transacts_later hl ((h j q hq).2 hc)⟩

/-- A program of a writer that is done ends as one that has written or as an idle one. -/
theorem serial_of_finished {results : List α}
    (hps : AllTransact ns name xs committed c (results.map .done)) :
    Serial ns name xs committed (results.map (Program.done : α → ClusterProgram α)).length c []
      results c := by
  have hdone : ∀ {i : Nat} {a : α}, results[i]? = some a →
      (results.map Program.done)[i]? = some (.done a : ClusterProgram α) := by
    intro i a ha
    rw [List.getElem?_map, ha]
    rfl
  constructor
  · exact List.nodup_nil
  · intro i hi
    cases hi
  · intro i a ha hi
    have hcommitted : committed i := hi.resolve_right List.not_mem_nil
    cases (hps i _ (hdone ha)).1 hcommitted with
    | done a h => exact h
  · intro i a ha hi _
    cases (hps i _ (hdone ha)).2 hi with
    | done a h => exact h
  · exact .nil _

/-- A request without a write does not matter. -/
theorem Serial.of_content {count : Nat} {order : List Nat} {results : List α}
    {c'' : Cluster StoreError} (h : Serial ns name xs committed count c' order results c'')
    (hcontent : c'.secret? ns name = c.secret? ns name) :
    Serial ns name xs committed count c order results c'' := by
  have hsame := h.content
  rw [hcontent] at hsame
  exact { h with content := hsame }

/-- A write comes before the writes of all others. -/
theorem Serial.cons {count i : Nat} {order : List Nat} {results : List α}
    {c'' : Cluster StoreError}
    (h : Serial ns name xs (fun j => committed j ∨ j = i) count c' order results c'')
    (hpending : ¬committed i) (hi : i < count) {s : Secret}
    (hcontent : (c'.secret? ns name).map Secret.unversioned = some s)
    (hs : (xs i).makes ((c.secret? ns name).map Secret.unversioned) s) :
    Serial ns name xs committed count c (i :: order) results c'' := by
  constructor
  · -- Who has written does not write again.
    have hout : i ∉ order := by
      intro hmem
      exact (h.pending i hmem).1 (.inr rfl)
    exact List.nodup_cons.2 ⟨hout, h.nodup⟩
  · intro j hj
    rcases List.mem_cons.1 hj with rfl | hj
    · exact ⟨hpending, hi⟩
    · obtain ⟨hfree, hlt⟩ := h.pending j hj
      exact ⟨fun hj => hfree (.inl hj), hlt⟩
  · intro j a ha hj
    refine h.wrote j a ha ?_
    rcases hj with hj | hj
    · exact .inl (.inl hj)
    · rcases List.mem_cons.1 hj with hj | hj
      · exact .inl (.inr hj)
      · exact .inr hj
  · intro j a ha hfree hout
    obtain ⟨hne, hout⟩ := List.ne_and_not_mem_of_not_mem_cons hout
    exact h.idle j a ha (fun hj => hj.elim hfree hne) hout
  · have hrest := h.content
    rw [hcontent] at hrest
    exact .cons s hs hrest

/-- The run lemma of writers side by side. The induction is on the run, and `AllTransact` is what
it carries from step to step. -/
theorem serial_of_interleaved {elsewhere : Program.Server clusterInterface (Cluster StoreError)}
    {log : List (Nat × Step clusterInterface (Cluster StoreError))} {results : List α}
    (h : Interleaved (withStore elsewhere) ps c log results c') (hlaw : ∀ i, (xs i).Versionless)
    (hne : name ≠ "") (hc : c.Quiet) (hps : AllTransact ns name xs committed c ps) :
    Serial ns name xs committed ps.length c (writers log) results c' := by
  induction h generalizing committed with
  | finished results c => exact serial_of_finished hps
  | @emit ps c c' log results i e p hi rest ih =>
    have hmoved : AllTransact ns name xs committed c (ps.set i p) := by
      refine hps.set (.refl _) (fun j _ => Iff.rfl) ⟨?_, ?_⟩
      · intro h
        cases (hps i _ hi).1 h with
        | emit e p h => exact h
      · intro h
        cases (hps i _ hi).2 h with
        | emit e p h => exact h
    have hserial := ih hc hmoved
    rw [List.length_set] at hserial
    exact hserial
  | @request ps c c' log results i r k hi rest ih =>
    -- A program that has written makes no request.
    have hpending : ¬committed i := by
      intro hcommitted
      cases (hps i _ hi).1 hcommitted
    obtain ⟨houtcome, hquiet, hlater⟩ :=
      stepOutcome hc (hlaw i) hne elsewhere ((hps i _ hi).2 hpending)
    cases houtcome with
    | unwritten hw hp hcontent =>
      have hserial := ih hquiet (hps.set hlater (fun j _ => Iff.rfl)
        ⟨fun h => absurd h hpending, fun _ => hp⟩)
      rw [List.length_set] at hserial
      rw [writers_cons_of_unwritten hw]
      exact hserial.of_content hcontent
    | written hw hp s hcontent hs =>
      -- From here on the program counts as one that has written.
      have hmoved : AllTransact ns name xs (fun j => committed j ∨ j = i)
          (withStore elsewhere r c).2 (ps.set i (k (withStore elsewhere r c).1)) :=
        hps.set hlater (fun j hj => or_iff_left hj) ⟨fun _ => hp, fun h => absurd (.inr rfl) h⟩
      have hserial := ih hquiet hmoved
      rw [List.length_set] at hserial
      rw [writers_cons_of_written hw]
      exact hserial.cons hpending (List.getElem?_eq_some_iff.1 hi).1 hcontent hs

end Transaction

end SecretSync
