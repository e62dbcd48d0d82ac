import SecretSync.Proofs.Binding.Prepared
import SecretSync.Proofs.Cluster.Requests

/-!
# `SecretSync.Proofs.Binding.WantedTags`: wanted annotations and the ownership tags

Everything wanted is put over a secret before it is marked, so a spec may want
values under the ownership tags. `sync_tags` says what comes of it. Take two
specs that name their secret alike and sync both from the same cluster. The
two runs keep in step, call by call (`materialize_lockstep`), and so they
replace the same secret or none. Marking sets the label and the manager to the
same values. The references are those that the spec wants, if it wants any: the
owners that it leaves out lose their reference.
-/

set_option autoImplicit false

namespace SecretSync

/-- Two targets of one owner that may differ in what the secret should hold, but not in where it
goes and what it is called. -/
structure DeploymentTarget.Twins (t t' : DeploymentTarget) : Prop where
  ns : t.ns = t'.ns
  owner : t.owner = t'.owner
  recordedName : t.recordedName = t'.recordedName
  name : t.spec.name = t'.spec.name
  generateName : t.spec.generateName = t'.spec.generateName

namespace DeploymentTarget.Twins

variable {t t' : DeploymentTarget}

theorem effectiveName (ht : t.Twins t') (recreate : Bool) :
    t.effectiveName recreate = t'.effectiveName recreate := by
  unfold DeploymentTarget.effectiveName previousName
  rw [ht.name, ht.recordedName]

theorem effectiveGenerateName (ht : t.Twins t') :
    t.effectiveGenerateName = t'.effectiveGenerateName := by
  unfold DeploymentTarget.effectiveGenerateName
  rw [ht.generateName, ht.owner]

end DeploymentTarget.Twins

/-- The secret that some calls have replaced at last: what was read right before the replacement.
None if the last call is a creation. -/
def StoreExchange.replaced? (calls : List StoreExchange) : Option Secret :=
  match calls.reverse with
  | ⟨.update _ _, _⟩ :: ⟨.get _ _, .ok stored⟩ :: _ => some stored
  | _ => none

namespace Handler

open Program (reporting)
open Cluster (storeServer SameFate)
open StoreExchange (replaced?)

theorem replaced?_create (earlier : List StoreExchange) (ns : String) (secret : Secret)
    (reply : Except StoreError Secret) :
    replaced? (earlier ++ [⟨.create ns secret, reply⟩]) = none := by
  unfold replaced?
  rw [List.reverse_append]
  rfl

theorem replaced?_update (earlier : List StoreExchange) (ns ns' name : String)
    (stored secret : Secret) (reply : Except StoreError Secret) :
    replaced? (earlier ++ [⟨.get ns name, .ok stored⟩, ⟨.update ns' secret, reply⟩])
      = some stored := by
  unfold replaced?
  rw [List.reverse_append]
  rfl

/-! ### Two runs in step -/

/-- An attempt to write: its calls, its result and the state afterwards. -/
structure Attempt where
  calls : List StoreExchange
  result : Except SyncFault Secret
  state : Cluster StoreError

/-- The attempt that a program makes from a state of a cluster. -/
def attempt (p : StoreProgram (Except SyncFault Secret)) (c : Cluster StoreError) : Attempt :=
  ⟨p.exchanges storeServer c, (p.run storeServer c).result, (p.run storeServer c).state⟩

/-- Two attempts that keep in step: marking refused one of them, or both failed alike and left the
same state, or both replaced the same secret or none. -/
inductive Lockstep : Attempt → Attempt → Prop
  | refused (a a' : Attempt) (e : MarkerError) (h : a.result = .error (.marking e)) :
      Lockstep a a'
  | refused' (a a' : Attempt) (e : MarkerError) (h : a'.result = .error (.marking e)) :
      Lockstep a a'
  | failed (calls calls' : List StoreExchange) (e : StoreError) (c : Cluster StoreError) :
      Lockstep ⟨calls, .error (.secretUpdate e), c⟩ ⟨calls', .error (.secretUpdate e), c⟩
  | written (calls calls' : List StoreExchange) (s s' : Secret) (c c' : Cluster StoreError)
      (h : ∀ earlier earlier', replaced? (earlier ++ calls) = replaced? (earlier' ++ calls')) :
      Lockstep ⟨calls, .ok s, c⟩ ⟨calls', .ok s', c'⟩

/-- Calls that came before do not matter. -/
theorem Lockstep.prepend {a a' : Attempt} (h : Lockstep a a')
    (earlier earlier' : List StoreExchange) :
    Lockstep { a with calls := earlier ++ a.calls } { a' with calls := earlier' ++ a'.calls } := by
  cases h with
  | refused a a' e h => exact .refused _ _ e h
  | refused' a a' e h => exact .refused' _ _ e h
  | failed calls calls' e c => exact .failed _ _ e c
  | written calls calls' s s' c c' h =>
    refine .written _ _ s s' c c' fun first first' => ?_
    rw [← List.append_assoc, ← List.append_assoc]
    exact h _ _

/-- Two attempts in step that both succeed have replaced the same secret or none. -/
theorem Lockstep.replaced?_eq {a a' : Attempt} (h : Lockstep a a') {s s' : Secret}
    (hs : a.result = .ok s) (hs' : a'.result = .ok s') : replaced? a.calls = replaced? a'.calls := by
  cases h with
  | refused a a' e h => rw [h] at hs; cases hs
  | refused' a a' e h => rw [h] at hs'; cases hs'
  | failed calls calls' e c => cases hs
  | written calls calls' s s' c c' h => exact h [] []

theorem attempt_bind (p : StoreProgram (Except SyncFault Secret))
    (f : Except SyncFault Secret → StoreProgram (Except SyncFault Secret))
    (c : Cluster StoreError) :
    attempt (p.bind f) c =
      let first := attempt p c
      let next := attempt (f first.result) first.state
      { next with calls := first.calls ++ next.calls } := by
  simp only [attempt, Program.exchanges_bind, Program.run_bind]

theorem attempt_reporting (events : List Event) (p : StoreProgram (Except SyncFault Secret))
    (c : Cluster StoreError) : attempt (reporting events p) c = attempt p c := by
  simp only [attempt, Program.exchanges, Program.steps_reporting, Program.run_reporting]

/-- Programs that keep in step, and that go on only after a failed request, keep in step if what
they go on with does. -/
theorem Lockstep.bind {p p' : StoreProgram (Except SyncFault Secret)}
    {f f' : Except SyncFault Secret → StoreProgram (Except SyncFault Secret)}
    {c : Cluster StoreError} (h : Lockstep (attempt p c) (attempt p' c))
    (hf : ∀ r, (∀ e, r ≠ .error (.secretUpdate e)) → f r = .done r)
    (hf' : ∀ r, (∀ e, r ≠ .error (.secretUpdate e)) → f' r = .done r)
    (hnext : ∀ e c, Lockstep (attempt (f (.error (.secretUpdate e))) c)
      (attempt (f' (.error (.secretUpdate e))) c)) :
    Lockstep (attempt (p.bind f) c) (attempt (p'.bind f') c) := by
  rw [attempt_bind, attempt_bind]
  generalize attempt p c = a at h
  generalize attempt p' c = a' at h
  cases h with
  | refused a a' e h =>
    refine .refused _ _ e ?_
    dsimp only
    rw [h, hf _ (by simp)]
    rfl
  | refused' a a' e h =>
    refine .refused' _ _ e ?_
    dsimp only
    rw [h, hf' _ (by simp)]
    rfl
  | failed calls calls' e c => exact (hnext e c).prepend _ _
  | written calls calls' s s' c c' h =>
    have hend : f (.ok s) = .done (.ok s) := hf _ (by simp)
    have hend' : f' (.ok s') = .done (.ok s') := hf' _ (by simp)
    simp only [hend, hend', attempt, Program.exchanges, Program.steps_done, Program.run_done,
      List.map_nil, List.append_nil]
    exact .written _ _ s s' c c' h

/-- An attempt that sends a secret and ends with the reply. -/
theorem attempt_create (ns : String) (secret : Secret)
    (report : Except StoreError Secret → List Event) (c : Cluster StoreError) :
    attempt (.request (I := storeInterface) (.create ns secret) fun reply =>
        reporting (report reply) (.done (reply.mapError .secretUpdate))) c =
      let answer := storeServer (.create ns secret) c
      ⟨[⟨.create ns secret, answer.1⟩], answer.1.mapError .secretUpdate, answer.2⟩ := by
  simp only [attempt, Program.exchanges, Program.steps_request, Program.run_request, Program.stepOf,
    Program.steps_reporting, Program.run_reporting, Program.steps_done, Program.run_done,
    List.map_cons, List.map_nil]

/-- An attempt that reads a secret and sends another one in its place. -/
theorem attempt_update (h : Handler) (d : DesiredSecret) (c : Cluster StoreError) :
    attempt (h.update d) c =
      match storeServer (.get h.target.ns d.name) c with
      | (.error e, c') => ⟨[⟨.get h.target.ns d.name, .error e⟩], .error (.secretUpdate e), c'⟩
      | (.ok stored, c') =>
        match h.prepared d (some stored) with
        | .error e => ⟨[⟨.get h.target.ns d.name, .ok stored⟩], .error (.marking e), c'⟩
        | .ok secret =>
          let answer := storeServer (.update h.target.ns secret) c'
          ⟨[⟨.get h.target.ns d.name, .ok stored⟩, ⟨.update h.target.ns secret, answer.1⟩],
            answer.1.mapError .secretUpdate, answer.2⟩ := by
  simp only [update_eq, attempt, Program.exchanges, Program.steps_request, Program.run_request,
    Program.stepOf, List.map_cons]
  generalize storeServer (.get h.target.ns d.name) c = read
  obtain ⟨reply, c'⟩ := read
  cases reply with
  | error e => rfl
  | ok stored =>
    dsimp only [afterRead]
    cases hp : h.prepared d (some stored) with
    | error e =>
      rw [replace_of_refused hp]
      rfl
    | ok secret =>
      rw [replace_of_prepared hp]
      simp only [Program.steps_reporting, Program.run_reporting, Program.steps_request,
        Program.run_request, Program.stepOf, Program.steps_done, Program.run_done, List.map_cons,
        List.map_nil]

/-- An update whose two requests are answered. -/
theorem attempt_update_of_replies {h : Handler} {d : DesiredSecret} {c c' c'' : Cluster StoreError}
    {stored secret : Secret} {reply : Except StoreError Secret}
    (hget : storeServer (.get h.target.ns d.name) c = (.ok stored, c'))
    (hp : h.prepared d (some stored) = .ok secret)
    (hupdate : storeServer (.update h.target.ns secret) c' = (reply, c'')) :
    attempt (h.update d) c
      = ⟨[⟨.get h.target.ns d.name, .ok stored⟩, ⟨.update h.target.ns secret, reply⟩],
        reply.mapError .secretUpdate, c''⟩ := by
  rw [attempt_update, hget]
  dsimp only
  rw [hp]
  dsimp only
  rw [hupdate]

/-- A result that is not the failure of a request ends an attempt that might have gone on to
create. -/
theorem afterUpdate_of_settled (h : Handler) (d : DesiredSecret) (r : Except SyncFault Secret)
    (hr : ∀ e, r ≠ .error (.secretUpdate e)) : h.afterUpdate d r = .done r := by
  unfold afterUpdate
  refine if_neg ?_
  intro hlost
  obtain ⟨detail, hd⟩ := lostSecret_iff.1 hlost
  exact hr _ hd

/-- And one that might have gone on to update. -/
theorem afterCreation_of_settled (h : Handler) (d : DesiredSecret) (r : Except SyncFault Secret)
    (hr : ∀ e, r ≠ .error (.secretUpdate e)) : h.afterCreation d r = .done r := by
  unfold afterCreation
  refine if_neg ?_
  intro hfound
  obtain ⟨detail, hd⟩ := foundSecret_iff.1 hfound
  exact hr _ hd

/-! #### The attempts of two twins -/

variable {t t' : DeploymentTarget} (ht : t.Twins t') {d d' : DesiredSecret}
  (hname : d.name = d'.name)

include ht hname

theorem create_lockstep (hgen : d.generateName = d'.generateName) (c : Cluster StoreError) :
    Lockstep (attempt ((⟨t, .ofTags⟩ : Handler).create d) c)
      (attempt ((⟨t', .ofTags⟩ : Handler).create d') c) := by
  cases hp : (⟨t, .ofTags⟩ : Handler).prepared d none with
  | error e =>
    rw [create_of_refused hp]
    exact .refused _ _ e rfl
  | ok secret =>
    cases hp' : (⟨t', .ofTags⟩ : Handler).prepared d' none with
    | error e =>
      rw [create_of_refused hp']
      exact .refused' _ _ e rfl
    | ok secret' =>
      obtain ⟨hsecret, hgenerate, -⟩ := name_of_prepared_none hp
      obtain ⟨hsecret', hgenerate', -⟩ := name_of_prepared_none hp'
      have hfate := Cluster.sameFate_create (hsecret.trans (hname.trans hsecret'.symm))
        (hgenerate.trans ((congrArg some hgen).trans hgenerate'.symm)) t.ns c
      rw [create_of_prepared hp, create_of_prepared hp', attempt_create, attempt_create, ← ht.ns]
      dsimp only
      generalize storeServer (.create t.ns secret) c = answer at hfate
      generalize storeServer (.create t.ns secret') c = answer' at hfate
      cases hfate with
      | failed e c => exact .failed _ _ e c
      | written s s' c c' =>
        refine .written _ _ s s' c c' fun earlier earlier' => ?_
        rw [replaced?_create, replaced?_create]

theorem update_lockstep (c : Cluster StoreError) :
    Lockstep (attempt ((⟨t, .ofTags⟩ : Handler).update d) c)
      (attempt ((⟨t', .ofTags⟩ : Handler).update d') c) := by
  rw [attempt_update, attempt_update, ← hname, ← ht.ns]
  dsimp only
  generalize storeServer (.get t.ns d.name) c = read
  obtain ⟨reply, c⟩ := read
  cases reply with
  | error e => exact .failed _ _ e c
  | ok stored =>
    dsimp only
    cases hp : (⟨t, .ofTags⟩ : Handler).prepared d (some stored) with
    | error e => exact .refused _ _ e rfl
    | ok secret =>
      cases hp' : (⟨t', .ofTags⟩ : Handler).prepared d' (some stored) with
      | error e => exact .refused' _ _ e rfl
      | ok secret' =>
        obtain ⟨hsecret, hversion⟩ := name_of_prepared_some hp
        obtain ⟨hsecret', hversion'⟩ := name_of_prepared_some hp'
        have hsame : secret.name = secret'.name := by
          unfold Secret.name ObjectMeta.nameText
          rw [hsecret, hsecret']
        have hfate := Cluster.sameFate_update hsame (hversion.trans hversion'.symm) t.ns c
        dsimp only
        generalize storeServer (.update t.ns secret) c = answer at hfate
        generalize storeServer (.update t.ns secret') c = answer' at hfate
        cases hfate with
        | failed e c => exact .failed _ _ e c
        | written s s' c c' =>
          refine .written _ _ s s' c c' fun earlier earlier' => ?_
          dsimp only
          rw [replaced?_update, replaced?_update]

/-- Two twins keep in step, whatever the hooks of the cluster do. -/
theorem materialize_lockstep (hgen : d.generateName = d'.generateName)
    (c : Cluster StoreError) :
    Lockstep (attempt ((⟨t, .ofTags⟩ : Handler).materialize d) c)
      (attempt ((⟨t', .ofTags⟩ : Handler).materialize d') c) := by
  rw [materialize_eq, materialize_eq, ← hname]
  split
  · exact create_lockstep ht hname hgen c
  · refine (update_lockstep ht hname c).bind (afterUpdate_of_settled _ _)
      (afterUpdate_of_settled _ _) ?_
    intro e c
    unfold afterUpdate
    split
    · -- The secret is gone for both, and both go on to create it.
      rw [attempt_reporting, attempt_reporting]
      refine (create_lockstep ht hname hgen c).bind (afterCreation_of_settled _ _)
        (afterCreation_of_settled _ _) ?_
      intro e c
      unfold afterCreation
      split
      · -- It has appeared again for both, and both go on to update it.
        rw [attempt_reporting, attempt_reporting]
        exact update_lockstep ht hname c
      · exact .failed _ _ e c
    · exact .failed _ _ e c

omit ht hname

/-! ### The tags of a synced secret -/

/-- The ownership tags of a secret that was synced for a target over a stored secret. -/
structure TagsOver (t : DeploymentTarget) (stored : Option Secret) (s : Secret) : Prop where
  /-- The label and the manager are the owner's doing, and the references start from what the spec
  wants. -/
  tags : Ownership.ownershipTags s.metadata
    = (some linkedValue, some t.owner.toString,
        some (withReference t.owner.toString (t.spec.wantedReferences stored)))
  /-- The secret is referenced by the owner, and by whom the wanted references list. -/
  referenced : ∀ j, Ownership.isReferencedBy j s.metadata = .ok true ↔
    ReferencedSet.delimiter ∉ j.toString.toList ∧
      (j.toString ∈ ReferencedSet.listed (t.spec.wantedReferences stored) ∨
        j.toString = Text.trim t.owner.toString)
  /-- Who referenced the stored secret keeps its reference, unless the spec wants references and
  leaves it out. -/
  kept : ∀ j old, stored = some old → Ownership.isReferencedBy j old.metadata = .ok true →
    (Ownership.isReferencedBy j s.metadata = .ok true ↔
      (∀ wanted, t.spec.annotations.get? referencesAnnotation = some wanted →
        j.toString ∈ ReferencedSet.listed wanted) ∨ j.toString = Text.trim t.owner.toString)
  /-- A created secret is referenced by its owner only, unless the spec wants references. -/
  created : stored = none → t.spec.annotations.get? referencesAnnotation = none → ∀ j,
    Ownership.isReferencedBy j s.metadata = .ok true ↔
      ReferencedSet.delimiter ∉ j.toString.toList ∧ j.toString = Text.trim t.owner.toString

/-- The tags of a secret that has the labels and annotations that were sent. -/
theorem tagsOver_of_prepared {stored : Option Secret} {secret s : Secret} (hspec : d.spec = t.spec)
    (hp : (⟨t, .ofTags⟩ : Handler).prepared d stored = .ok secret)
    (hs : s.metadata.labels = secret.metadata.labels ∧
      s.metadata.annotations = secret.metadata.annotations) : TagsOver t stored s := by
  have htags := ownershipTags_of_prepared hp
  have hreferenced := isReferencedBy_of_prepared hp
  -- Tags are read from the labels and the annotations, and these are stored as they were sent.
  have hsame : Tags.ofMetadata s.metadata = Tags.ofMetadata secret.metadata := by
    unfold Tags.ofMetadata ObjectMeta.labelMap ObjectMeta.annotationMap
    rw [hs.1, hs.2]
  have hsent : ∀ j, Ownership.isReferencedBy j s.metadata
      = Ownership.isReferencedBy j secret.metadata := by
    intro j
    simp only [Ownership.isReferencedBy, hsame]
  rw [hspec] at htags hreferenced
  have hall : ∀ j, Ownership.isReferencedBy j s.metadata = .ok true ↔
      ReferencedSet.delimiter ∉ j.toString.toList ∧
        (j.toString ∈ ReferencedSet.listed (t.spec.wantedReferences stored) ∨
          j.toString = Text.trim t.owner.toString) := by
    intro j
    rw [hsent j]
    exact hreferenced j
  refine ⟨?_, hall, ?_, ?_⟩
  · rw [← htags]
    exact congrArg (fun t : Tags => (t.labels.get? linkedLabel,
      t.annotations.get? managerAnnotation, t.annotations.get? referencesAnnotation)) hsame
  · intro j old hold hj
    obtain ⟨hfree, -, hlisted⟩ := (Ownership.isReferencedBy_iff j old.metadata).1 hj
    rw [hall j, and_iff_right hfree]
    refine or_congr ?_ Iff.rfl
    unfold SecretSpec.wantedReferences
    cases hwanted : t.spec.annotations.get? referencesAnnotation with
    | none =>
      -- The references start from what is stored, and that lists the owner.
      rw [hold]
      constructor
      · intro _ wanted hw
        cases hw
      · intro _
        exact hlisted
    | some wanted => simp
  · intro hnone hunwanted j
    have hempty : t.spec.wantedReferences stored = "" := by
      unfold SecretSpec.wantedReferences
      rw [hnone, hunwanted]
      rfl
    have hlisted : ReferencedSet.listed "" = [] := by decide
    rw [hall j, hempty, hlisted]
    simp

/-- A write that succeeded sent the secret that is prepared over the replaced one. -/
theorem tagsOver_of_steps {recreate : Bool} {data : SecretData}
    {steps : List (Step storeInterface (Cluster StoreError))}
    (hserver : ∀ x ∈ steps, storeServer x.request x.before = (x.reply, x.after)) {s : Secret}
    (hw : WriteCalls ⟨t, .ofTags⟩ ((⟨t, .ofTags⟩ : Handler).desired recreate data)
      (steps.map Step.toExchange) (.ok s)) :
    TagsOver t (replaced? (steps.map Step.toExchange)) s := by
  -- The last call of the write is among the steps, so the cluster has answered it.
  have hanswer : ∀ x, x ∈ steps.map Step.toExchange →
      ∃ before after, storeServer x.request before = (x.reply, after) := by
    intro x hx
    obtain ⟨y, hy, rfl⟩ := List.mem_map.1 hx
    exact ⟨y.before, y.after, hserver y hy⟩
  rcases hw.of_ok with ⟨earlier, secret, hp, hcalls⟩ | ⟨-, earlier, stored, secret, hp, hcalls⟩
  · rw [hcalls] at hanswer ⊢
    obtain ⟨before, after, hlast⟩ := hanswer _ (List.mem_append_right _ List.mem_cons_self)
    rw [replaced?_create]
    exact tagsOver_of_prepared rfl hp (Cluster.sameTags_of_create hlast)
  · rw [hcalls] at hanswer ⊢
    obtain ⟨before, after, hlast⟩ :=
      hanswer _ (List.mem_append_right _ (List.mem_cons_of_mem _ List.mem_cons_self))
    rw [replaced?_update]
    exact tagsOver_of_prepared rfl hp (Cluster.sameTags_of_update hlast)

/-- A sync with data makes the calls of its attempt to write. -/
theorem attempt_of_write {h : Handler} {recreate : Bool} {data : SecretData}
    {c : Cluster StoreError} {s : Secret}
    (hs : ((h.write recreate (.ok data)).run storeServer c).result = .ok s) :
    (h.write recreate (.ok data)).exchanges storeServer c
        = (attempt (h.materialize (h.desired recreate data)) c).calls ∧
      (attempt (h.materialize (h.desired recreate data)) c).result = .ok s := by
  obtain ⟨data', hdata, hwritten, -⟩ := of_write_ok hs
  obtain rfl : data = data' := Except.ok.inj hdata
  exact ⟨exchanges_write storeServer recreate c h data, hwritten⟩

/-- Two twins synced from the same cluster, when both syncs end well. They replace the same secret
or none, and the tags that they write agree exactly if the references that their specs want come to
the same value. -/
theorem sync_tags (ht : t.Twins t') (c : Cluster StoreError)
    (provider : StoreProgram (Except ProviderError SecretData)) (recreate : Bool) {s s' : Secret}
    (hs : ((sync ⟨t, .ofTags⟩ provider recreate).run storeServer c).result = .ok s)
    (hs' : ((sync ⟨t', .ofTags⟩ provider recreate).run storeServer c).result = .ok s') :
    let fetched := provider.run storeServer c
    let own := (write ⟨t, .ofTags⟩ recreate fetched.result).exchanges storeServer fetched.state
    let own' := (write ⟨t', .ofTags⟩ recreate fetched.result).exchanges storeServer fetched.state
    replaced? own = replaced? own' ∧ TagsOver t (replaced? own) s ∧ TagsOver t' (replaced? own) s' ∧
      (Ownership.ownershipTags s.metadata = Ownership.ownershipTags s'.metadata ↔
        withReference t.owner.toString (t.spec.wantedReferences (replaced? own))
          = withReference t.owner.toString (t'.spec.wantedReferences (replaced? own))) := by
  intro fetched own own'
  have hserver : ∀ (h : Handler) (x), x ∈ (h.write recreate fetched.result).steps storeServer
      fetched.state → storeServer x.request x.before = (x.reply, x.after) :=
    fun h x hx => Program.server_of_mem_steps _ hx
  rw [run_sync] at hs hs'
  have hcalls := write_calls storeServer ⟨t, .ofTags⟩ recreate fetched.result fetched.state
  have hcalls' := write_calls storeServer ⟨t', .ofTags⟩ recreate fetched.result fetched.state
  rw [show (Program.run _ _ _).result = _ from hs] at hcalls
  rw [show (Program.run _ _ _).result = _ from hs'] at hcalls'
  obtain ⟨data, hdata, hw⟩ := hcalls.of_ok
  obtain ⟨data', hdata', hw'⟩ := hcalls'.of_ok
  obtain rfl : data' = data := Except.ok.inj (hdata'.symm.trans hdata)
  have htags : TagsOver t (replaced? own) s := tagsOver_of_steps (hserver ⟨t, .ofTags⟩) hw
  have htags' : TagsOver t' (replaced? own') s' := tagsOver_of_steps (hserver ⟨t', .ofTags⟩) hw'
  -- Both syncs got the same data, so both write, and they do so in step.
  have hstep : Lockstep
      (attempt (materialize ⟨t, .ofTags⟩ (desired ⟨t, .ofTags⟩ recreate data')) fetched.state)
      (attempt (materialize ⟨t', .ofTags⟩ (desired ⟨t', .ofTags⟩ recreate data')) fetched.state) :=
    materialize_lockstep ht (ht.effectiveName recreate) ht.effectiveGenerateName fetched.state
  have hsame : replaced? own = replaced? own' := by
    have hwrite : ((write ⟨t, .ofTags⟩ recreate fetched.result).run storeServer
        fetched.state).result = .ok s := hs
    have hwrite' : ((write ⟨t', .ofTags⟩ recreate fetched.result).run storeServer
        fetched.state).result = .ok s' := hs'
    show replaced? ((write _ recreate fetched.result).exchanges storeServer fetched.state)
      = replaced? ((write _ recreate fetched.result).exchanges storeServer fetched.state)
    rw [hdata] at hwrite hwrite' ⊢
    obtain ⟨hown, hok⟩ := attempt_of_write hwrite
    obtain ⟨hown', hok'⟩ := attempt_of_write hwrite'
    rw [hown, hown']
    exact hstep.replaced?_eq hok hok'
  rw [← hsame] at htags'
  refine ⟨hsame, htags, htags', ?_⟩
  rw [htags.tags, htags'.tags, ← ht.owner]
  simp

/-! #### A spec that wants references -/

/-- A secret that another owner references. -/
def sharedSecret : Secret where
  metadata := {
    name := some "db"
    ns := some "app"
    labels := some (.singleton linkedLabel linkedValue)
    annotations := some (.singleton referencesAnnotation "team-b/creds") }

/-- A target that wants these annotations on that secret. -/
def sharedTarget (annotations : SortedMap String) : DeploymentTarget :=
  .inNamespace { name := "db", annotations := annotations } "app" ⟨"team-a", "creds"⟩ ""

theorem twins_sharedTarget (annotations annotations' : SortedMap String) :
    (sharedTarget annotations).Twins (sharedTarget annotations') := ⟨rfl, rfl, rfl, rfl, rfl⟩

/-- What a sync of that target makes of the secret. -/
def syncShared (annotations : SortedMap String) : Except SyncError Secret :=
  ((sync ⟨sharedTarget annotations, .ofTags⟩ (.done (.ok .empty)) false).run storeServer
    (Cluster.empty.put sharedSecret)).result

/-- A spec that wants the references empty takes the reference of the other owner off. -/
theorem syncShared_forgets_owner :
    (syncShared .empty).toOption.map (Ownership.ownershipTags ·.metadata)
        = some (some "true", some "team-a/creds", some "team-b/creds,team-a/creds") ∧
      (syncShared (.singleton referencesAnnotation "")).toOption.map
          (Ownership.ownershipTags ·.metadata)
        = some (some "true", some "team-a/creds", some "team-a/creds") := by
  decide +kernel

/-- Both syncs of the shared secret end well, and only one keeps the other owner. -/
theorem sync_tags_shared :
    ∃ s s' stored, syncShared .empty = .ok s ∧
      syncShared (.singleton referencesAnnotation "") = .ok s' ∧
      TagsOver (sharedTarget .empty) stored s ∧
      TagsOver (sharedTarget (.singleton referencesAnnotation "")) stored s' := by
  have hok : (syncShared .empty).toOption.isSome = true := by decide +kernel
  have hok' : (syncShared (.singleton referencesAnnotation "")).toOption.isSome = true := by
    decide +kernel
  cases hs : syncShared .empty with
  | error e => rw [hs] at hok; cases hok
  | ok s =>
    cases hs' : syncShared (.singleton referencesAnnotation "") with
    | error e => rw [hs'] at hok'; cases hok'
    | ok s' =>
      obtain ⟨-, htags, htags', -⟩ := sync_tags (twins_sharedTarget _ _)
        (Cluster.empty.put sharedSecret) (.done (.ok .empty)) false hs hs'
      exact ⟨s, s', _, rfl, rfl, htags, htags'⟩

end Handler

end SecretSync
