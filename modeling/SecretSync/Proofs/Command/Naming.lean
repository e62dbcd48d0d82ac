import SecretSync.Proofs.Binding.Effect
import SecretSync.Proofs.Command.SyncRun
import SecretSync.Proofs.Command.SyncTarget

/-!
# `SecretSync.Proofs.Command.Naming`: the names that a sync writes

The store may fail at any call, but otherwise it answers with the secret that
was asked for (`StoreExchange.Faithful`). Then a target with a recorded name
sends that name whenever it writes (`TargetCalls.sent_name`), and the secret
that it ends with has that name, or some name if none is recorded
(`TargetCalls.written_name`).
-/

set_option autoImplicit false

namespace SecretSync

/-! ### One write -/

namespace Handler

section
variable {t : DeploymentTarget} {d : DesiredSecret} {calls : List StoreExchange}
  {r : Except SyncFault Secret}

theorem CreateCalls.sent_name (hc : CreateCalls ⟨t, .ofTags⟩ d calls r) :
    ∀ x ∈ calls, ∀ s, x.request.sent? = some s → s.name = d.name := by
  cases hc with
  | refused e hp => exact List.forall_mem_nil _
  | sent secret hp reply =>
    refine List.forall_mem_singleton.2 fun s hs => ?_
    obtain rfl := Option.some.inj hs
    exact (name_of_prepared_none hp).1

/-- What replaces a stored secret has the name under which that was read. -/
theorem name_of_replacement {stored secret : Secret}
    (hread : StoreExchange.Faithful ⟨.get t.ns d.name, .ok stored⟩)
    (hp : (⟨t, .ofTags⟩ : Handler).prepared d (some stored) = .ok secret) :
    secret.name = d.name := by
  have hname : secret.name = stored.name :=
    congrArg (·.getD "") (name_of_prepared_some hp).1
  exact hname.trans hread

theorem UpdateCalls.sent_name (hu : UpdateCalls ⟨t, .ofTags⟩ d calls r)
    (hfaithful : ∀ x ∈ calls, x.Faithful) :
    ∀ x ∈ calls, ∀ s, x.request.sent? = some s → s.name = d.name := by
  cases hu with
  | unread e =>
    refine List.forall_mem_singleton.2 fun s hs => ?_
    cases hs
  | refused stored e hp =>
    refine List.forall_mem_singleton.2 fun s hs => ?_
    cases hs
  | sent stored secret hp reply =>
    have hread : StoreExchange.Faithful ⟨.get t.ns d.name, .ok stored⟩ :=
      hfaithful _ List.mem_cons_self
    intro x hx s hs
    rcases List.mem_pair.1 hx with rfl | rfl
    · cases hs
    · obtain rfl := Option.some.inj hs
      exact name_of_replacement hread hp

/-- Every secret that a write sends has the wanted name. -/
theorem WriteCalls.sent_name (hw : WriteCalls ⟨t, .ofTags⟩ d calls r)
    (hfaithful : ∀ x ∈ calls, x.Faithful) :
    ∀ x ∈ calls, ∀ s, x.request.sent? = some s → s.name = d.name := by
  cases hw with
  | unnamed _ _ hn hc => exact hc.sent_name
  | updated _ _ hn hu _ => exact hu.sent_name hfaithful
  | recreated calls calls' _ _ hn hu hc _ =>
    obtain ⟨hfirst, -⟩ := List.forall_mem_append.1 hfaithful
    exact List.forall_mem_append.2 ⟨hu.sent_name hfirst, hc.sent_name⟩
  | reupdated calls calls' calls'' _ _ _ hn hu hc hl =>
    obtain ⟨hfirst, hrest⟩ := List.forall_mem_append.1 hfaithful
    obtain ⟨-, hlast⟩ := List.forall_mem_append.1 hrest
    exact List.forall_mem_append.2 ⟨hu.sent_name hfirst,
      List.forall_mem_append.2 ⟨hc.sent_name, hl.sent_name hlast⟩⟩

/-- The secret that a write ends with has the wanted name, and some name if none is wanted. -/
theorem WriteCalls.written_name {s : Secret} (hw : WriteCalls ⟨t, .ofTags⟩ d calls (.ok s))
    (hfaithful : ∀ x ∈ calls, x.Faithful) : s.name ≠ "" ∧ (d.name ≠ "" → s.name = d.name) := by
  rcases hw.of_ok with ⟨earlier, secret, hp, rfl⟩ | ⟨hn, earlier, stored, secret, hp, rfl⟩
  · obtain ⟨hne, hsent⟩ : s.name ≠ "" ∧ (secret.name ≠ "" → s.name = secret.name) :=
      hfaithful ⟨.create t.ns secret, .ok s⟩ (by simp)
    rw [(name_of_prepared_none hp).1] at hsent
    exact ⟨hne, hsent⟩
  · have hupdate : s.name = secret.name := hfaithful ⟨.update t.ns secret, .ok s⟩ (by simp)
    rw [name_of_replacement (hfaithful ⟨.get t.ns d.name, .ok stored⟩ (by simp)) hp] at hupdate
    exact ⟨fun h => hn (hupdate.symm.trans h), fun _ => hupdate⟩

end

/-! ### One target -/

theorem effectiveName_inNamespace {spec : SecretSpec} {ns : String} {owner : OwnerKey}
    {known : String} (hknown : known ≠ "") :
    (DeploymentTarget.inNamespace spec ns owner known).effectiveName false = known := by
  refine DeploymentTarget.effectiveName_of_recorded ?_ hknown
  unfold DeploymentTarget.inNamespace
  simp [hknown]

variable {resource : RemoteSecret} {owner : OwnerKey} {t : TargetSpec} {source : DataSource}
  {calls : List StoreExchange} {result : Except SyncError Secret}

/-- Without `recreate`, a target with a recorded name writes under no other. -/
theorem TargetCalls.sent_name
    (ht : TargetCalls (resource.handlerFor owner t) source false calls result)
    (hfaithful : ∀ x ∈ calls, x.Faithful) (hknown : resource.recordedName t.ns ≠ "") :
    ∀ x ∈ calls, ∀ s, x.request.sent? = some s → s.name = resource.recordedName t.ns := by
  have hreads : ∀ {reads : List StoreExchange},
      (∀ x ∈ reads, Looks (resource.handlerFor owner t) source x) →
      ∀ x ∈ reads, ∀ s, x.request.sent? = some s → s.name = resource.recordedName t.ns := by
    intro reads hreads x hx s hs
    rw [(hreads x hx).isRead.unsent] at hs
    cases hs
  cases ht with
  | stopped _ e h => exact hreads h
  | written reads own data r h hw =>
    obtain ⟨-, hown⟩ := List.forall_mem_append.1 hfaithful
    refine List.forall_mem_append.2 ⟨hreads h, fun x hx s hs => ?_⟩
    exact (hw.sent_name hown x hx s hs).trans (effectiveName_inNamespace hknown)

/-- Without `recreate`, a target ends with a secret of the recorded name, and of some name if none
is recorded. -/
theorem TargetCalls.written_name {s : Secret}
    (ht : TargetCalls (resource.handlerFor owner t) source false calls (.ok s))
    (hfaithful : ∀ x ∈ calls, x.Faithful) :
    s.name ≠ "" ∧ (resource.recordedName t.ns ≠ "" → s.name = resource.recordedName t.ns) := by
  generalize hr : (Except.ok s : Except SyncError Secret) = result at ht
  cases ht with
  | stopped _ e h => cases hr
  | written reads own data r h hw =>
    cases r with
    | error f => cases hr
    | ok s' =>
      obtain rfl : s = s' := Except.ok.inj hr
      obtain ⟨-, hown⟩ := List.forall_mem_append.1 hfaithful
      obtain ⟨hne, hname⟩ := hw.written_name hown
      refine ⟨hne, fun hknown => ?_⟩
      have heffective : ((resource.handlerFor owner t).desired false data).name
          = resource.recordedName t.ns := effectiveName_inNamespace hknown
      rw [heffective] at hname
      exact hname hknown

end Handler

end SecretSync
