import SecretSync.Proofs.Binding.Idempotence
import SecretSync.Proofs.Binding.Serializability
import SecretSync.Proofs.Cluster.Namespaces
import SecretSync.Proofs.Ownership.Bystanders

/-!
# `SecretSync.Proofs.Command.Unlinking`: taking one owner off a secret

An unlinking reads a secret, takes an owner out of the tags, and writes the
secret back. `UnlinkRun` lists the five ways that this can go on any cluster,
and everything below is read off these cases.

Other writers may act before the read and before the write. `unlink_effect` says
what remains for the unlinking itself. A replacement is accepted only if what
was read is still there (`removes_of_update`), so the secret that it leaves is
the one that was stored right then, without the owner (`Ownership.Without`). If
nothing is written, none of its calls changes a secret.

The tags hold owners in their written form. Two keys that are written alike are
one owner there, and `unlink_sameText` shows both of them go.
-/

set_option autoImplicit false

namespace SecretSync

/-! ### Metadata without an owner -/

namespace Ownership

/-- The metadata `m'` is `m` without one owner. Owners are told apart by their written form. -/
structure Without (owner : OwnerKey) (m m' : ObjectMeta) : Prop where
  gone : isReferencedBy owner m' = .ok false ∧ isManagedBy owner m' = .ok false
  others : ∀ j : OwnerKey, j.toString ≠ owner.toString →
    isReferencedBy j m' = isReferencedBy j m ∧ isManagedBy j m' = isManagedBy j m
  labels : ∀ key, key ≠ linkedLabel → m'.labelMap.get? key = m.labelMap.get? key
  annotations : ∀ key, key ≠ referencesAnnotation → key ≠ managerAnnotation →
    m'.annotationMap.get? key = m.annotationMap.get? key
  /-- The manager stays if it is somebody else. -/
  manager : m'.annotationMap.get? managerAnnotation
    = if m.annotationMap.get? managerAnnotation = some owner.toString then none
      else m.annotationMap.get? managerAnnotation
  /-- The tags go with the last entry. -/
  untagged : referenceEntries m' = [] → m'.labelMap.contains linkedLabel = false ∧
    m'.annotationMap.contains referencesAnnotation = false

variable {owner : OwnerKey} {m m' : ObjectMeta}

section
variable (h : Tags.ofMetadata m' = ((Tags.ofMetadata m).removeReference owner.toString).1)
include h

/-- Who was taken off is not listed. -/
theorem gone_of_tags (hfree : ReferencedSet.delimiter ∉ owner.toString.toList) :
    isReferencedBy owner m' = .ok false ∧ isManagedBy owner m' = .ok false := by
  have hgone : (Tags.ofMetadata m').references.contains owner.toString = false := by
    refine Bool.eq_false_iff.2 fun hcontains => ?_
    have hlisted := (ReferencedSet.contains_iff _ _).1 hcontains
    rw [h] at hlisted
    exact ((Tags.mem_references_removeReference _ _ _).1 hlisted).2 rfl
  rw [isReferencedBy_of_free hfree, isManagedBy_eq_and hfree, hgone, Bool.and_false,
    Bool.false_and]
  exact ⟨rfl, rfl⟩

theorem apart_of_tags : Tags.Apart owner.toString (Tags.ofMetadata m) (Tags.ofMetadata m') :=
  h ▸ (Tags.Apart.removeManager _ _).trans (.dropReference _ _)

theorem manager_of_tags : (Tags.ofMetadata m').manager
    = if (Tags.ofMetadata m).manager = some owner.toString then none
      else (Tags.ofMetadata m).manager :=
  h ▸ Tags.manager_removeReference (Tags.ofMetadata m) owner.toString

/-- The label only goes with the last entry, and the manager only if it is taken off, so nothing
that is told of another owner depends on them. -/
theorem others_of_tags {j : OwnerKey} (hne : j.toString ≠ owner.toString) :
    isReferencedBy j m' = isReferencedBy j m ∧ isManagedBy j m' = isManagedBy j m := by
  by_cases hj : ReferencedSet.delimiter ∈ j.toString.toList
  · simp only [isReferencedBy_of_delimiter hj, isManagedBy_of_delimiter hj, and_self]
  · have hreferenced : isReferencedBy j m' = isReferencedBy j m := by
      refine isReferencedBy_of_sameEntry hj ((apart_of_tags h).entries _ hne) fun hlisted => ?_
      rw [h]
      exact Tags.isLinked_removeReference_of_other hlisted hne
    refine ⟨hreferenced, isManagedBy_of_sameManager hj hreferenced ?_⟩
    rw [manager_of_tags h]
    split
    · rename_i howner
      simp [howner, hne.symm]
    · rfl

theorem untagged_of_tags (hnone : referenceEntries m' = []) :
    m'.labelMap.contains linkedLabel = false ∧
      m'.annotationMap.contains referencesAnnotation = false := by
  have hdropped : Tags.ofMetadata m' = (((Tags.ofMetadata m).removeManager
      owner.toString).1.dropReference owner.toString).1 := h
  have hempty : (((Tags.ofMetadata m).removeManager
      owner.toString).1.dropReference owner.toString).1.references.entries = [] := by
    rw [← hdropped]
    exact hnone
  have huntagged := Tags.untagged_of_dropReference hempty
  rw [← hdropped] at huntagged
  exact huntagged.symm

/-- All that is asked of metadata is in its tags. -/
theorem without_of_tags (hfree : ReferencedSet.delimiter ∉ owner.toString.toList) :
    Without owner m m' where
  gone := gone_of_tags h hfree
  others _ hne := others_of_tags h hne
  labels := (apart_of_tags h).labels
  annotations := (apart_of_tags h).annotations
  manager := manager_of_tags h
  untagged := untagged_of_tags h

end

/-- What taking an owner off makes of the tags. -/
theorem ofMetadata_of_unmarkReferenced {marked : Marked}
    (h : unmarkReferenced owner m = .ok marked) :
    ReferencedSet.delimiter ∉ owner.toString.toList ∧
      Tags.ofMetadata marked.metadata
        = ((Tags.ofMetadata m).removeReference owner.toString).1 := by
  obtain ⟨hfree, hchange⟩ := change_of_stored h
  exact ⟨hfree, ofMetadata_of_change (Tags.settling_removeReference _) hchange⟩

/-- Metadata with the tags that are left has no such owner to be taken off. -/
theorem unmarkReferenced_again (hfree : ReferencedSet.delimiter ∉ owner.toString.toList)
    (h : Tags.ofMetadata m' = ((Tags.ofMetadata m).removeReference owner.toString).1) :
    unmarkReferenced owner m' = .ok ⟨false, m'⟩ := by
  have hsettled : ((Tags.ofMetadata m').removeReference owner.toString).2 = false := by
    rw [h]
    exact (Tags.settling_removeReference owner.toString).settled _
  unfold unmarkReferenced
  rw [mark_updateFor, storedKey_of_free hfree]
  show change (·.removeReference owner.toString) m' = _
  simp only [change, hsettled]
  rfl

/-- Metadata that is not changed is the metadata that was given. -/
theorem metadata_of_unchanged {marked : Marked} (h : unmarkReferenced owner m = .ok marked)
    (hunchanged : marked.changed = false) : marked.metadata = m := by
  obtain ⟨-, hchange⟩ := change_of_stored h
  rcases change_cases hchange with ⟨-, rfl⟩ | ⟨-, rfl⟩
  · rfl
  · cases hunchanged

end Ownership

/-! ### Runs -/

namespace Command

open Ownership (unmarkReferenced Without)
open Cluster (storeServer withStore callOf)

/-- What an unlinking reports that finds nothing to do. -/
def nothingToUnlink (ns name : String) (owner : OwnerKey) : Event :=
  .print ("Secret " ++ secretLabel ns name ++ " is not referenced by '" ++
    owner.toString ++ "', nothing to do")

/-- The first thing that an unlinking reports after it has written. -/
def unlinkedLine (ns name : String) (owner : OwnerKey) : Event :=
  .print ("✅ Unlinked '" ++ owner.toString ++ "' from secret " ++ secretLabel ns name)

theorem unlinkedLine_ne (ns name : String) (owner : OwnerKey) :
    unlinkedLine ns name owner ≠ nothingToUnlink ns name owner := by
  intro h
  have htext := congrArg (fun s : String => s.toList.head?) (Event.print.inj h)
  simp [String.toList_append] at htext

section
variable {σ : Type}

/-- The requests of an unlinking with the answers of the store, and how it ends. -/
inductive UnlinkRun (K : Program.Server storeInterface σ) (ns name : String) (owner : OwnerKey)
    (s : σ) : List (Step storeInterface σ) → Program.Outcome σ CommandResult → Prop
  /-- The secret could not be read. -/
  | unread (e : StoreError) (s' : σ) (hread : K (.get ns name) s = (.error e, s')) :
      UnlinkRun K ns name owner s [⟨⟨.get ns name, .error e⟩, s, s'⟩]
        ⟨.error ((Failure.ofStore e).within ("Failed to get secret " ++ secretLabel ns name)), [],
          s'⟩
  /-- The marker refused to take the owner off. -/
  | refused (secret : Secret) (e : MarkerError) (s' : σ)
      (hread : K (.get ns name) s = (.ok secret, s'))
      (hmark : unmarkReferenced owner secret.metadata = .error e) :
      UnlinkRun K ns name owner s [⟨⟨.get ns name, .ok secret⟩, s, s'⟩]
        ⟨.error (.ofMarker e), [], s'⟩
  /-- There was nothing to take off. -/
  | unchanged (secret : Secret) (s' : σ) (hread : K (.get ns name) s = (.ok secret, s'))
      (hmark : unmarkReferenced owner secret.metadata = .ok ⟨false, secret.metadata⟩) :
      UnlinkRun K ns name owner s [⟨⟨.get ns name, .ok secret⟩, s, s'⟩]
        ⟨.ok (), [nothingToUnlink ns name owner], s'⟩
  /-- The changed secret was not accepted. -/
  | rejected (secret : Secret) (m : ObjectMeta) (e : StoreError) (s' s'' : σ)
      (hread : K (.get ns name) s = (.ok secret, s'))
      (hmark : unmarkReferenced owner secret.metadata = .ok ⟨true, m⟩)
      (hwrite : K (.update ns { secret with metadata := m }) s' = (.error e, s'')) :
      UnlinkRun K ns name owner s [⟨⟨.get ns name, .ok secret⟩, s, s'⟩,
          ⟨⟨.update ns { secret with metadata := m }, .error e⟩, s', s''⟩]
        ⟨.error ((Failure.ofStore e).within ("Failed to update secret " ++ secretLabel ns name)),
          [], s''⟩
  /-- The changed secret was written. -/
  | replaced (secret : Secret) (m : ObjectMeta) (stored : Secret) (events : List Event)
      (s' s'' : σ) (hread : K (.get ns name) s = (.ok secret, s'))
      (hmark : unmarkReferenced owner secret.metadata = .ok ⟨true, m⟩)
      (hwrite : K (.update ns { secret with metadata := m }) s' = (.ok stored, s'')) :
      UnlinkRun K ns name owner s [⟨⟨.get ns name, .ok secret⟩, s, s'⟩,
          ⟨⟨.update ns { secret with metadata := m }, .ok stored⟩, s', s''⟩]
        ⟨.ok (), unlinkedLine ns name owner :: events, s''⟩

/-- After a write an unlinking reports, and that is all. -/
theorem run_concludeUnlink (K : Program.Server clusterInterface σ) (ns name : String)
    (owner : OwnerKey) (m : ObjectMeta) (s : σ) :
    (concludeUnlink ns name owner m).steps K s = [] ∧
      ∃ events, (concludeUnlink ns name owner m).run K s
        = ⟨.ok (), unlinkedLine ns name owner :: events, s⟩ := by
  have hend : concludeUnlink ns name owner m = .emit (unlinkedLine ns name owner)
      (Program.reporting (Ownership.malformedWarnings m)
        (if (Ownership.owners m).isEmpty then
          .emit (.print "   The secret is no longer referenced by any RemoteSecret")
            (.done (.ok ()))
        else .done (.ok ()))) := by
    unfold concludeUnlink
    simp only [Program.bind_eq, Program.tellAll_bind]
    refine congrArg (Program.emit _) (congrArg (Program.reporting _) ?_)
    split <;> rfl
  rw [hend, Program.steps_emit, Program.steps_reporting, Program.run_emit, Program.run_reporting]
  split <;> exact ⟨rfl, _, rfl⟩

section
variable {ns name : String} {owner : OwnerKey} {secret : Secret}

theorem unlinkRead_of_refused {e : MarkerError}
    (h : unmarkReferenced owner secret.metadata = .error e) :
    unlinkRead ns name owner secret = .done (.error (.ofMarker e)) := by
  unfold unlinkRead
  rw [h]

theorem unlinkRead_of_unchanged {m : ObjectMeta}
    (h : unmarkReferenced owner secret.metadata = .ok ⟨false, m⟩) :
    unlinkRead ns name owner secret
      = .emit (nothingToUnlink ns name owner) (.done (.ok ())) := by
  unfold unlinkRead
  rw [h]
  rfl

theorem unlinkRead_of_changed {m : ObjectMeta}
    (h : unmarkReferenced owner secret.metadata = .ok ⟨true, m⟩) :
    unlinkRead ns name owner secret
      = .request (.store (.update ns { secret with metadata := m })) fun
        | .error e => .done (.error ((Failure.ofStore e).within
            ("Failed to update secret " ++ secretLabel ns name)))
        | .ok _ => concludeUnlink ns name owner m := by
  unfold unlinkRead
  rw [h]
  refine congrArg (Program.request (I := clusterInterface) _) (funext fun reply => ?_)
  cases reply <;> rfl

end

/-- On any cluster an unlinking goes one of these ways. -/
theorem unlink_run (K : Program.Server clusterInterface σ) (ns name : String) (owner : OwnerKey)
    (s : σ) : ∃ log, (unlink ns name owner).steps K s = log.map Step.ofStore ∧
      UnlinkRun (storeOf K) ns name owner s log ((unlink ns name owner).run K s) := by
  rw [unlink_eq, Program.steps_request, Program.run_request]
  obtain ⟨reply, s', hread⟩ : ∃ reply s', K (.store (.get ns name)) s = (reply, s') :=
    ⟨_, _, rfl⟩
  unfold Program.stepOf
  rw [hread]
  -- The ways part at the answer to the read, at what the marker says, and at the answer to the
  -- write.
  cases reply with
  | error e => exact ⟨[_], rfl, .unread e s' hread⟩
  | ok secret =>
    dsimp only
    cases hmark : unmarkReferenced owner secret.metadata with
    | error e =>
      rw [unlinkRead_of_refused hmark]
      exact ⟨[_], rfl, .refused secret e s' hread hmark⟩
    | ok marked =>
      obtain ⟨changed, m⟩ := marked
      cases changed with
      | false =>
        rw [unlinkRead_of_unchanged hmark]
        obtain rfl : m = secret.metadata := Ownership.metadata_of_unchanged hmark rfl
        exact ⟨[_], rfl, .unchanged secret s' hread hmark⟩
      | true =>
        rw [unlinkRead_of_changed hmark, Program.steps_request, Program.run_request]
        obtain ⟨reply, s'', hwrite⟩ : ∃ reply s'',
            K (.store (.update ns { secret with metadata := m })) s' = (reply, s'') := ⟨_, _, rfl⟩
        unfold Program.stepOf
        rw [hwrite]
        cases reply with
        | error e => exact ⟨[_, _], rfl, .rejected secret m e s' s'' hread hmark hwrite⟩
        | ok stored =>
          obtain ⟨hsteps, events, hrun⟩ := run_concludeUnlink K ns name owner m s''
          dsimp only
          rw [hsteps, hrun]
          exact ⟨[_, _], rfl, .replaced secret m stored events s' s'' hread hmark hwrite⟩

end

/-! ### What an unlinking does to a cluster -/

/-- The state in which a call took effect, after what other writers did right before it. -/
def entered (x : Step storeInterface (Cluster StoreError)) : Cluster StoreError :=
  (x.before.enter (callOf x.request)).2

/-- One secret was written. It is the one that was stored at its place, without the owner and with a
new version, and nothing else has changed. -/
structure Removes (ns name : String) (owner : OwnerKey) (pre post : Cluster StoreError)
    (stored : Secret) : Prop where
  elsewhere : pre.AgreeExcept ns (· = name) post
  written : post.secret? ns name = some stored
  without : ∃ old, pre.secret? ns name = some old ∧
    Without owner old.metadata stored.metadata ∧
    stored = { old with metadata := { old.metadata with
      resourceVersion := stored.metadata.resourceVersion
      labels := stored.metadata.labels
      annotations := stored.metadata.annotations } }

section
variable {ns name : String} {owner : OwnerKey} {secret stored : Secret} {m : ObjectMeta}
  {c c' c'' : Cluster StoreError}

/-- What was read has the name that it was asked for, and keeps it without the owner. -/
theorem name_of_unmarkReferenced (hc : c.Regular)
    (hread : storeServer (.get ns name) c = (.ok secret, c')) {changed : Bool}
    (hmark : unmarkReferenced owner secret.metadata = .ok ⟨changed, m⟩) :
    ({ secret with metadata := m } : Secret).name = name := by
  obtain ⟨hget, -⟩ := Cluster.get_of_storeServer hread
  have hname : secret.name = name := (Cluster.named_enter hc.named _).name_eq hget
  have hsame : m = { secret.metadata with labels := m.labels, annotations := m.annotations } :=
    Ownership.sameObject_of_unmarkReferenced hmark
  rw [← hname]
  show m.nameText = secret.metadata.nameText
  rw [hsame]
  rfl

/-- A replacement is accepted only if what was read is still there. -/
theorem removes_of_update (hc : c.Regular)
    (hread : storeServer (.get ns name) c = (.ok secret, c')) {changed : Bool}
    (hmark : unmarkReferenced owner secret.metadata = .ok ⟨changed, m⟩)
    (hwrite : storeServer (.update ns { secret with metadata := m }) c' = (.ok stored, c'')) :
    Removes ns name owner (c'.enter (callOf (.update ns { secret with metadata := m }))).2 c''
        stored ∧
      unmarkReferenced owner stored.metadata = .ok ⟨false, stored.metadata⟩ := by
  have hname := name_of_unmarkReferenced hc hread hmark
  obtain ⟨hget, rfl⟩ := Cluster.get_of_storeServer hread
  obtain ⟨hregular, -⟩ := Cluster.enter_regular hc (callOf (.get ns name))
  generalize (c.enter (callOf (.get ns name))).2 = read at hget hregular hwrite
  obtain ⟨-, hlater⟩ :=
    Cluster.enter_regular hregular (callOf (.update ns { secret with metadata := m }))
  obtain ⟨hstored, ⟨replaced, hreplaced, hdate⟩, hpost, hagree⟩ :=
    Cluster.perform_update_ok (Cluster.perform_of_written hwrite rfl)
  have hsame : m = { secret.metadata with labels := m.labels, annotations := m.annotations } :=
    Ownership.sameObject_of_unmarkReferenced hmark
  -- The version of what is stored is the one that was read, so it is what was read.
  have hversion : m.resourceVersion = secret.metadata.resourceVersion := by rw [hsame]
  rw [hname] at hreplaced
  rw [Shelf.upToDate_congr hversion] at hdate
  obtain rfl : replaced = secret :=
    (hlater ns).eq_of_upToDate (hregular.versioned ns) hget hreplaced hdate
  have hstoredName : stored.name = name := by
    rw [hstored]
    exact hname
  rw [hstoredName] at hpost hagree
  obtain ⟨hfree, htags⟩ := Ownership.ofMetadata_of_unmarkReferenced hmark
  have htags : Tags.ofMetadata stored.metadata
      = ((Tags.ofMetadata replaced.metadata).removeReference owner.toString).1 := by
    rw [hstored]
    exact htags
  refine ⟨⟨hagree, hpost, replaced, hreplaced, Ownership.without_of_tags htags hfree, ?_⟩,
    Ownership.unmarkReferenced_again hfree htags⟩
  rw [hstored]
  unfold Shelf.stamped
  rw [hsame]

end

/-- What an unlinking has done to a cluster with the calls `log` and the outcome `o`, where `server`
answers the requests of commands. -/
structure UnlinkEffect (server : Program.Server clusterInterface (Cluster StoreError))
    (ns name : String) (owner : OwnerKey) (c : Cluster StoreError)
    (log : List (Step storeInterface (Cluster StoreError)))
    (o : Program.Outcome (Cluster StoreError) CommandResult) : Prop where
  /-- The secret is read, and then it may be replaced. -/
  calls : (log.map fun x => callOf x.request) = [⟨.get, ns, name⟩] ∨
    (log.map fun x => callOf x.request) = [⟨.get, ns, name⟩, ⟨.update, ns, name⟩]
  /-- A write ends it well, and takes the owner off what is stored right then. -/
  written : ∀ x ∈ log, ∀ stored, StoreExchange.written? x.toExchange = some stored →
    o.result = .ok () ∧ o.state = x.after ∧ Removes ns name owner (entered x) x.after stored
  /-- It writes, or it reports that there is nothing to do, or it fails. -/
  ends : (∃ x ∈ log, (StoreExchange.written? x.toExchange).isSome = true) ∨
    (o.result = .ok () ∧ o.events = [nothingToUnlink ns name owner]) ∨ ∃ e, o.result = .error e
  /-- If there is nothing to do, and if it fails, none of its calls changes a secret. -/
  idle : o.events = [nothingToUnlink ns name owner] ∨ (∃ e, o.result = .error e) →
    ∀ x ∈ log, (entered x).AgreeExcept ns (fun _ => False) x.after
  /-- Without other writers only a missing secret and a refusal of the marker make it fail. -/
  alone : c.hooks = [] → (o.result = .ok () ↔ ∃ secret marked, c.secret? ns name = some secret ∧
    unmarkReferenced owner secret.metadata = .ok marked)
  /-- If it ends well and the secret stays, it has nothing to do a second time. -/
  again : o.result = .ok () → ∀ c' : Cluster StoreError, c'.hooks = [] →
    c'.secret? ns name = o.state.secret? ns name →
    let o' := (unlink ns name owner).run server c'
    o'.result = .ok () ∧ o'.events = [nothingToUnlink ns name owner] ∧
      ((unlink ns name owner).steps server c').map (·.request) = [.store (.get ns name)] ∧
      ∀ ns' name', o'.state.secret? ns' name' = c'.secret? ns' name'

section
variable {ns name : String} {owner : OwnerKey} {c : Cluster StoreError}
  {log : List (Step storeInterface (Cluster StoreError))}
  {o : Program.Outcome (Cluster StoreError) CommandResult}

theorem UnlinkRun.calls (hc : c.Regular) (h : UnlinkRun storeServer ns name owner c log o) :
    (log.map fun x => callOf x.request) = [⟨.get, ns, name⟩] ∨
      (log.map fun x => callOf x.request) = [⟨.get, ns, name⟩, ⟨.update, ns, name⟩] := by
  have hupdate : ∀ {secret : Secret} {c' : Cluster StoreError} {m : ObjectMeta},
      storeServer (.get ns name) c = (.ok secret, c') →
      unmarkReferenced owner secret.metadata = .ok ⟨true, m⟩ →
      callOf (.update ns { secret with metadata := m }) = ⟨.update, ns, name⟩ := by
    intro secret c' m hread hmark
    exact congrArg (Call.mk .update ns) (name_of_unmarkReferenced hc hread hmark)
  cases h with
  | unread e c' hread => exact .inl rfl
  | refused secret e c' hread hmark => exact .inl rfl
  | unchanged secret c' hread hmark => exact .inl rfl
  | rejected secret m e c' c'' hread hmark hwrite =>
    exact .inr (congrArg (fun call => [callOf (.get ns name), call]) (hupdate hread hmark))
  | replaced secret m stored events c' c'' hread hmark hwrite =>
    exact .inr (congrArg (fun call => [callOf (.get ns name), call]) (hupdate hread hmark))

theorem UnlinkRun.written (hc : c.Regular) (h : UnlinkRun storeServer ns name owner c log o) :
    ∀ x ∈ log, ∀ stored, StoreExchange.written? x.toExchange = some stored →
      o.result = .ok () ∧ o.state = x.after ∧ Removes ns name owner (entered x) x.after stored := by
  intro x hx stored hw
  cases h with
  | unread e c' hread =>
    rw [List.mem_singleton.1 hx] at hw
    cases hw
  | refused secret e c' hread hmark =>
    rw [List.mem_singleton.1 hx] at hw
    cases hw
  | unchanged secret c' hread hmark =>
    rw [List.mem_singleton.1 hx] at hw
    cases hw
  | rejected secret m e c' c'' hread hmark hwrite =>
    rcases List.mem_cons.1 hx with rfl | hx
    · cases hw
    · rw [List.mem_singleton.1 hx] at hw
      cases hw
  | replaced secret m written events c' c'' hread hmark hwrite =>
    rcases List.mem_cons.1 hx with rfl | hx
    · cases hw
    · obtain rfl := List.mem_singleton.1 hx
      obtain rfl := Option.some.inj hw
      exact ⟨rfl, rfl, (removes_of_update hc hread hmark hwrite).1⟩

/-- What an unlinking leaves behind that ends well: a secret that it would not change again. -/
theorem UnlinkRun.settled (hc : c.Regular) (h : UnlinkRun storeServer ns name owner c log o)
    (hok : o.result = .ok ()) : ∃ s, o.state.secret? ns name = some s ∧
      unmarkReferenced owner s.metadata = .ok ⟨false, s.metadata⟩ := by
  cases h with
  | unread e c' hread => cases hok
  | refused secret e c' hread hmark => cases hok
  | unchanged secret c' hread hmark =>
    obtain ⟨hget, rfl⟩ := Cluster.get_of_storeServer hread
    exact ⟨secret, hget, hmark⟩
  | rejected secret m e c' c'' hread hmark hwrite => cases hok
  | replaced secret m stored events c' c'' hread hmark hwrite =>
    obtain ⟨hremoves, hsettled⟩ := removes_of_update hc hread hmark hwrite
    exact ⟨stored, hremoves.written, hsettled⟩

theorem UnlinkRun.ends (h : UnlinkRun storeServer ns name owner c log o) :
    (∃ x ∈ log, (StoreExchange.written? x.toExchange).isSome = true) ∨
      (o.result = .ok () ∧ o.events = [nothingToUnlink ns name owner]) ∨
      ∃ e, o.result = .error e := by
  cases h with
  | unread e c' hread => exact .inr (.inr ⟨_, rfl⟩)
  | refused secret e c' hread hmark => exact .inr (.inr ⟨_, rfl⟩)
  | unchanged secret c' hread hmark => exact .inr (.inl ⟨rfl, rfl⟩)
  | rejected secret m e c' c'' hread hmark hwrite => exact .inr (.inr ⟨_, rfl⟩)
  | replaced secret m stored events c' c'' hread hmark hwrite =>
    exact .inl ⟨_, List.mem_cons_of_mem _ List.mem_cons_self, rfl⟩

/-- Every call is one of the store in the namespace of the secret. -/
theorem UnlinkRun.answered (h : UnlinkRun storeServer ns name owner c log o) :
    ∀ x ∈ log, (callOf x.request).ns = ns ∧
      storeServer x.request x.before = (x.reply, x.after) := by
  cases h with
  | unread e c' hread => exact List.forall_mem_singleton.2 ⟨rfl, hread⟩
  | refused secret e c' hread hmark => exact List.forall_mem_singleton.2 ⟨rfl, hread⟩
  | unchanged secret c' hread hmark => exact List.forall_mem_singleton.2 ⟨rfl, hread⟩
  | rejected secret m e c' c'' hread hmark hwrite =>
    exact List.forall_mem_cons.2 ⟨⟨rfl, hread⟩, List.forall_mem_singleton.2 ⟨rfl, hwrite⟩⟩
  | replaced secret m stored events c' c'' hread hmark hwrite =>
    exact List.forall_mem_cons.2 ⟨⟨rfl, hread⟩, List.forall_mem_singleton.2 ⟨rfl, hwrite⟩⟩

theorem UnlinkRun.unwritten (h : UnlinkRun storeServer ns name owner c log o)
    (hidle : o.events = [nothingToUnlink ns name owner] ∨ ∃ e, o.result = .error e) :
    ∀ x ∈ log, StoreExchange.written? x.toExchange = none := by
  cases h with
  | unread e c' hread => exact List.forall_mem_singleton.2 rfl
  | refused secret e c' hread hmark => exact List.forall_mem_singleton.2 rfl
  | unchanged secret c' hread hmark => exact List.forall_mem_singleton.2 rfl
  | rejected secret m e c' c'' hread hmark hwrite =>
    exact List.forall_mem_cons.2 ⟨rfl, List.forall_mem_singleton.2 rfl⟩
  | replaced secret m stored events c' c'' hread hmark hwrite =>
    rcases hidle with hevents | ⟨e, he⟩
    · exact absurd (List.cons.inj hevents).1 (unlinkedLine_ne ns name owner)
    · cases he

theorem UnlinkRun.alone (hc : c.Regular) (hooks : c.hooks = [])
    (h : UnlinkRun storeServer ns name owner c log o) :
    o.result = .ok () ↔ ∃ secret marked, c.secret? ns name = some secret ∧
      unmarkReferenced owner secret.metadata = .ok marked := by
  have hfound : ∀ {secret : Secret} {c' : Cluster StoreError},
      storeServer (.get ns name) c = (.ok secret, c') → c.secret? ns name = some secret := by
    intro secret c' hread
    obtain ⟨hget, -⟩ := Cluster.get_of_storeServer hread
    rw [Cluster.enter_of_unhooked hooks] at hget
    exact hget
  cases h with
  | unread e c' hread =>
    refine iff_of_false nofun ?_
    rintro ⟨secret, marked, hstored, -⟩
    obtain ⟨c'', hget, -⟩ := Cluster.get_of_stored hooks hstored
    cases hread.symm.trans hget
  | refused secret e c' hread hmark =>
    refine iff_of_false nofun ?_
    rintro ⟨secret', marked, hstored, hmarked⟩
    obtain rfl := Option.some.inj ((hfound hread).symm.trans hstored)
    cases hmark.symm.trans hmarked
  | unchanged secret c' hread hmark =>
    exact iff_of_true rfl ⟨secret, _, hfound hread, hmark⟩
  | rejected secret m e c' c'' hread hmark hwrite =>
    -- Nobody has come in between, so the replacement is up to date.
    have hname := name_of_unmarkReferenced hc hread hmark
    obtain ⟨-, rfl⟩ := Cluster.get_of_storeServer hread
    have hversion : m.resourceVersion = secret.metadata.resourceVersion := by
      rw [show m = _ from Ownership.sameObject_of_unmarkReferenced hmark]
    have hdate : Shelf.upToDate { secret with metadata := m } secret = true := by
      rw [Shelf.upToDate_congr hversion]
      exact Shelf.upToDate_self secret
    rw [Cluster.enter_of_unhooked hooks] at hwrite
    have hstored := hfound hread
    rw [← hname] at hstored
    obtain ⟨stored, c₂, hanswer, -⟩ := Cluster.update_of_stored
      (c := { c with history := callOf (.get ns name) :: c.history }) hooks hstored hdate
    cases hwrite.symm.trans hanswer
  | replaced secret m stored events c' c'' hread hmark hwrite =>
    exact iff_of_true rfl ⟨secret, _, hfound hread, hmark⟩

/-- Where there is nothing to take off, an unlinking reads and reports, and that is all. -/
theorem UnlinkRun.of_settled (hooks : c.hooks = [])
    (h : UnlinkRun storeServer ns name owner c log o) {s : Secret}
    (hs : c.secret? ns name = some s)
    (hsettled : unmarkReferenced owner s.metadata = .ok ⟨false, s.metadata⟩) :
    o.result = .ok () ∧ o.events = [nothingToUnlink ns name owner] ∧
      log.map (·.request) = [.get ns name] ∧
      ∀ ns' name', o.state.secret? ns' name' = c.secret? ns' name' := by
  obtain ⟨c₁, hget, -, hsame⟩ := Cluster.get_of_stored hooks hs
  cases h with
  | unread e c' hread => cases hread.symm.trans hget
  | refused secret e c' hread hmark =>
    cases hread.symm.trans hget
    cases hmark.symm.trans hsettled
  | unchanged secret c' hread hmark =>
    cases hread.symm.trans hget
    exact ⟨rfl, rfl, rfl, hsame⟩
  | rejected secret m e c' c'' hread hmark hwrite =>
    cases hread.symm.trans hget
    cases hmark.symm.trans hsettled
  | replaced secret m stored events c' c'' hread hmark hwrite =>
    cases hread.symm.trans hget
    cases hmark.symm.trans hsettled

end

/-- What an unlinking does to a cluster, whatever other writers do before each of its calls and
whatever tags the secret has. If it writes, the owner is taken off the secret that is stored right
then, and the other owners, in their written form, and everything else stay. If it finds nothing to
do or fails, it changes no secret. Once it ended well there is nothing more to do. -/
theorem unlink_effect {c : Cluster StoreError} (hc : c.Regular)
    (elsewhere : Program.Server clusterInterface (Cluster StoreError)) (ns name : String)
    (owner : OwnerKey) :
    ∃ log, (unlink ns name owner).steps (withStore elsewhere) c = log.map Step.ofStore ∧
      UnlinkEffect (withStore elsewhere) ns name owner c log
        ((unlink ns name owner).run (withStore elsewhere) c) := by
  obtain ⟨log, hsteps, hrun⟩ := unlink_run (withStore elsewhere) ns name owner c
  have hrun : UnlinkRun storeServer ns name owner c log _ := hrun
  refine ⟨log, hsteps,
    { calls := hrun.calls hc, written := hrun.written hc, ends := hrun.ends, idle := ?_,
      alone := fun hooks => hrun.alone hc hooks, again := ?_ }⟩
  · intro hidle x hx
    obtain ⟨hns, hanswer⟩ := hrun.answered x hx
    have hagree := Cluster.agreeExcept_of_unwritten hanswer (hrun.unwritten hidle x hx)
    rw [hns] at hagree
    exact hagree
  · intro hok c' hooks hsame
    obtain ⟨s, hs, hsettled⟩ := hrun.settled hc hok
    obtain ⟨log', hsteps', hrun'⟩ := unlink_run (withStore elsewhere) ns name owner c'
    have hrun' : UnlinkRun storeServer ns name owner c' log' _ := hrun'
    obtain ⟨hresult, hevents, hrequests, hkept⟩ :=
      hrun'.of_settled hooks (hsame.trans hs) hsettled
    refine ⟨hresult, hevents, ?_, hkept⟩
    have hmap := congrArg (List.map ClusterRequest.store) hrequests
    rw [List.map_map] at hmap
    rw [hsteps', List.map_map]
    exact hmap

/-- A cluster in which the secret comes up right before it is read, and another writer deletes
something else right before it is replaced. -/
def restless : Cluster StoreError where
  hooks := [
    { verb := .get
      writes := [{ metadata := { Ownership.sharedByHandMarked with
        name := some "db", ns := some "app" } }] },
    { verb := .update, deletions := [("app", "cache")] }]

theorem regular_restless : restless.Regular where
  versioned := (Cluster.versioned_empty : (Cluster.empty : Cluster StoreError).Versioned)
  hooks := by simp [restless, Hook.Unversioned, Ownership.sharedByHandMarked]

/-- The owner goes and another one stays. -/
theorem unlink_effect_restless :
    let owner : OwnerKey := ⟨"team-a", "creds"⟩
    let o := (unlink "app" "db" owner).run (withStore noResources) restless
    restless.Regular ∧ o.result = .ok () ∧ ∃ stored, o.state.secret? "app" "db" = some stored ∧
      Ownership.isReferencedBy owner stored.metadata = .ok false ∧
      Ownership.isReferencedBy ⟨"team-b", "db"⟩ stored.metadata = .ok true := by
  intro owner o
  obtain ⟨log, -, heffect⟩ := unlink_effect regular_restless noResources "app" "db" owner
  obtain ⟨hresult, hevents, hother⟩ : o.result = .ok () ∧
      o.events ≠ [nothingToUnlink "app" "db" owner] ∧
      (o.state.secret? "app" "db").map (Ownership.isReferencedBy ⟨"team-b", "db"⟩ ·.metadata)
        = some (.ok true) := by decide +kernel
  refine ⟨regular_restless, hresult, ?_⟩
  -- It ends well and does not say that there is nothing to do, so it has written.
  rcases heffect.ends with ⟨x, hx, hw⟩ | ⟨-, hnothing⟩ | ⟨e, he⟩
  · obtain ⟨stored, hw⟩ := Option.isSome_iff_exists.1 hw
    obtain ⟨-, hstate, hremoves⟩ := heffect.written x hx stored hw
    have hstored : o.state.secret? "app" "db" = some stored := hstate ▸ hremoves.written
    obtain ⟨old, -, hwithout, -⟩ := hremoves.without
    rw [hstored] at hother
    exact ⟨stored, hstored, hwithout.gone.1, Option.some.inj hother⟩
  · exact absurd hnothing hevents
  · cases hresult.symm.trans he

/-- A cluster with a secret of an owner that has slashes in its written form. -/
def slashed : Cluster StoreError :=
  Cluster.empty.put { metadata := {
    name := some "db"
    ns := some "app"
    labels := some (.singleton linkedLabel linkedValue)
    annotations := some (.singleton referencesAnnotation "team/a/creds") } }

/-- With an owner goes another one that is written alike. -/
theorem unlink_sameText :
    let owner : OwnerKey := ⟨"team", "a/creds"⟩
    let other : OwnerKey := ⟨"team/a", "creds"⟩
    let o := (unlink "app" "db" owner).run (withStore noResources) slashed
    slashed.Regular ∧ other ≠ owner ∧ o.result = .ok () ∧
      o.state.calls = [⟨.get, "app", "db"⟩, ⟨.update, "app", "db"⟩] ∧
      (slashed.secret? "app" "db").map (Ownership.isReferencedBy other ·.metadata)
        = some (.ok true) ∧
      (o.state.secret? "app" "db").map (Ownership.isReferencedBy other ·.metadata)
        = some (.ok false) := by
  intro owner other o
  have hregular : slashed.Regular :=
    ⟨(Cluster.advances_put .empty rfl).versioned Cluster.versioned_empty, fun _ h => by cases h⟩
  exact ⟨hregular, by decide +kernel⟩

end Command

end SecretSync
