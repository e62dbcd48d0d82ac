import SecretSync.Cluster.Basic
import SecretSync.Proofs.Binding.Attempts

/-!
# `SecretSync.Proofs.Binding.Calls`: the calls of a sync

`SyncCalls` lists the sequences of store calls that a sync may make, with what
the sync ends with after each of them. It is a grammar over attempts: a
creation makes one call or none, an update one or two, and a write is up to
three attempts. An update that lost the secret goes over to a creation, and
the creation, if the secret has appeared, goes over to a last update.

`sync_protocol` is the main statement. The store is any server at all, and so
it may answer every call with the same race again. Still the calls follow the
grammar, there are at most five of them, each fallback is taken at most once,
only the last call can be a write that succeeded, and the result is what that
call answered.
-/

set_option autoImplicit false

namespace SecretSync

/-- A call of a store of secrets with its answer. -/
abbrev StoreExchange := Exchange storeInterface

namespace StoreExchange

/-- The secret that a successful create or update answered. -/
def written? : StoreExchange → Option Secret
  | ⟨.create _ _, .ok secret⟩ => some secret
  | ⟨.update _ _, .ok secret⟩ => some secret
  | _ => none

/-- The failure that a call answered. -/
def failure? : StoreExchange → Option StoreError
  | ⟨.get _ _, .error e⟩ => some e
  | ⟨.create _ _, .error e⟩ => some e
  | ⟨.update _ _, .error e⟩ => some e
  | ⟨.list _ _, .error e⟩ => some e
  | _ => none

end StoreExchange

namespace Handler

open Program (Server)
open StoreExchange (written? failure?)

/-! ### The grammar -/

/-- The calls of a creation and what it ends with. -/
inductive CreateCalls (h : Handler) (d : DesiredSecret) :
    List StoreExchange → Except SyncFault Secret → Prop
  /-- Marking refused the secret. -/
  | refused (e : MarkerError) (hp : h.prepared d none = .error e) :
      CreateCalls h d [] (.error (.marking e))
  /-- The marked secret was sent. -/
  | sent (secret : Secret) (hp : h.prepared d none = .ok secret)
      (reply : Except StoreError Secret) :
      CreateCalls h d [⟨.create h.target.ns secret, reply⟩] (reply.mapError .secretUpdate)

/-- The calls of an update and what it ends with. -/
inductive UpdateCalls (h : Handler) (d : DesiredSecret) :
    List StoreExchange → Except SyncFault Secret → Prop
  /-- The secret could not be read. -/
  | unread (e : StoreError) :
      UpdateCalls h d [⟨.get h.target.ns d.name, .error e⟩] (.error (.secretUpdate e))
  /-- Marking refused what was to replace the secret. -/
  | refused (stored : Secret) (e : MarkerError) (hp : h.prepared d (some stored) = .error e) :
      UpdateCalls h d [⟨.get h.target.ns d.name, .ok stored⟩] (.error (.marking e))
  /-- The marked secret was sent. -/
  | sent (stored secret : Secret) (hp : h.prepared d (some stored) = .ok secret)
      (reply : Except StoreError Secret) :
      UpdateCalls h d
        [⟨.get h.target.ns d.name, .ok stored⟩, ⟨.update h.target.ns secret, reply⟩]
        (reply.mapError .secretUpdate)

/-- The calls of a write and what it ends with. -/
inductive WriteCalls (h : Handler) (d : DesiredSecret) :
    List StoreExchange → Except SyncFault Secret → Prop
  /-- Without a name the secret is created, whatever comes of it. -/
  | unnamed (calls : List StoreExchange) (r : Except SyncFault Secret) (hn : d.name = "")
      (hc : CreateCalls h d calls r) : WriteCalls h d calls r
  /-- The update did not lose the secret. -/
  | updated (calls : List StoreExchange) (r : Except SyncFault Secret) (hn : d.name ≠ "")
      (hu : UpdateCalls h d calls r)
      (hr : ∀ detail, r ≠ .error (.secretUpdate (.notFound detail))) : WriteCalls h d calls r
  /-- The update lost the secret, and the secret did not appear again. -/
  | recreated (calls calls' : List StoreExchange) (detail : String)
      (r : Except SyncFault Secret) (hn : d.name ≠ "")
      (hu : UpdateCalls h d calls (.error (.secretUpdate (.notFound detail))))
      (hc : CreateCalls h d calls' r)
      (hr : ∀ detail, r ≠ .error (.secretUpdate (.alreadyExists detail))) :
      WriteCalls h d (calls ++ calls') r
  /-- The update lost the secret, the creation found it, and a last update ended the write. -/
  | reupdated (calls calls' calls'' : List StoreExchange) (detail detail' : String)
      (r : Except SyncFault Secret) (hn : d.name ≠ "")
      (hu : UpdateCalls h d calls (.error (.secretUpdate (.notFound detail))))
      (hc : CreateCalls h d calls' (.error (.secretUpdate (.alreadyExists detail'))))
      (hl : UpdateCalls h d calls'' r) : WriteCalls h d (calls ++ (calls' ++ calls'')) r

/-- The calls of a sync after its data provider has answered, and what the sync ends with. -/
inductive SyncCalls (h : Handler) (recreate : Bool) : Except ProviderError SecretData →
    List StoreExchange → Except SyncError Secret → Prop
  /-- Without data nothing is called. -/
  | unavailable (e : ProviderError) :
      SyncCalls h recreate (.error e) [] (.error (h.failure (.dataFetch e)))
  /-- With data the secret is written. -/
  | written (data : SecretData) (calls : List StoreExchange) (r : Except SyncFault Secret)
      (hw : WriteCalls h (h.desired recreate data) calls r) :
      SyncCalls h recreate (.ok data) calls (r.mapError h.failure)

variable {h : Handler} {d : DesiredSecret} {σ : Type}

/-! ### Every run follows the grammar -/

theorem create_calls (server : Server storeInterface σ) (h : Handler) (d : DesiredSecret) (s : σ) :
    CreateCalls h d ((h.create d).exchanges server s) ((h.create d).run server s).result := by
  cases hp : h.prepared d none with
  | error e =>
    rw [create_of_refused hp]
    exact .refused e hp
  | ok secret =>
    rw [create_of_prepared hp]
    simp only [Program.exchanges, Program.steps_request, Program.steps_reporting,
      Program.steps_done, Program.run_request, Program.run_reporting, Program.run_done]
    exact .sent secret hp _

theorem update_calls (server : Server storeInterface σ) (h : Handler) (d : DesiredSecret) (s : σ) :
    UpdateCalls h d ((h.update d).exchanges server s) ((h.update d).run server s).result := by
  rw [update_eq]
  simp only [Program.exchanges, Program.steps_request, Program.run_request, List.map_cons]
  generalize hread : server (.get h.target.ns d.name) s = read
  obtain ⟨reply, s'⟩ := read
  simp only [Program.stepOf, hread]
  cases reply with
  | error e => exact .unread e
  | ok stored =>
    show UpdateCalls h d (_ :: ((h.replace d stored).steps server s').map Step.toExchange)
      ((h.replace d stored).run server s').result
    cases hp : h.prepared d (some stored) with
    | error e =>
      rw [replace_of_refused hp]
      exact .refused stored e hp
    | ok secret =>
      rw [replace_of_prepared hp]
      simp only [Program.steps_request, Program.steps_reporting, Program.steps_done,
        Program.run_request, Program.run_reporting, Program.run_done]
      exact .sent stored secret hp _

theorem lostSecret_iff {r : Except SyncFault Secret} :
    lostSecret r = true ↔ ∃ detail, r = .error (.secretUpdate (.notFound detail)) := by
  unfold lostSecret
  split
  · rename_i e
    cases e <;> simp [StoreError.isNotFound]
  · rename_i hne
    simp only [Bool.false_eq_true, false_iff, not_exists]
    exact fun detail hr => hne _ hr

theorem foundSecret_iff {r : Except SyncFault Secret} :
    foundSecret r = true ↔ ∃ detail, r = .error (.secretUpdate (.alreadyExists detail)) := by
  unfold foundSecret
  split
  · rename_i e
    cases e <;> simp [StoreError.isAlreadyExists]
  · rename_i hne
    simp only [Bool.false_eq_true, false_iff, not_exists]
    exact fun detail hr => hne _ hr

/-- An update that goes over to creating goes over at most once more. -/
theorem afterUpdate_calls (server : Server storeInterface σ) (hn : d.name ≠ "")
    {calls : List StoreExchange} {r : Except SyncFault Secret} (hu : UpdateCalls h d calls r)
    (s : σ) :
    WriteCalls h d (calls ++ (h.afterUpdate d r).exchanges server s)
      ((h.afterUpdate d r).run server s).result := by
  unfold afterUpdate
  by_cases hlost : lostSecret r = true
  · -- The secret is gone, so a creation follows.
    obtain ⟨detail, rfl⟩ := lostSecret_iff.1 hlost
    have hc := create_calls server h d s
    rw [if_pos hlost]
    simp only [Program.exchanges, Program.steps_reporting, Program.run_reporting,
      Program.steps_bind, Program.run_bind, List.map_append]
    generalize (h.create d).run server s = created at hc ⊢
    unfold afterCreation
    by_cases hfound : foundSecret created.result = true
    · -- It has appeared again. The update that follows is the last: nothing is bound after it.
      obtain ⟨detail', hr⟩ := foundSecret_iff.1 hfound
      rw [hr] at hc
      rw [if_pos hfound]
      simp only [Program.steps_reporting, Program.run_reporting]
      exact .reupdated _ _ _ detail detail' _ hn hu hc
        (update_calls server h d created.state)
    · rw [if_neg hfound]
      simp only [Program.steps_done, Program.run_done, List.map_nil, List.append_nil]
      exact .recreated _ _ detail _ hn hu hc fun detail' hr =>
        hfound (foundSecret_iff.2 ⟨detail', hr⟩)
  · rw [if_neg hlost]
    simp only [Program.exchanges, Program.steps_done, Program.run_done, List.map_nil,
      List.append_nil]
    exact .updated _ _ hn hu fun detail hr => hlost (lostSecret_iff.2 ⟨detail, hr⟩)

theorem materialize_calls (server : Server storeInterface σ) (h : Handler) (d : DesiredSecret)
    (s : σ) :
    WriteCalls h d ((h.materialize d).exchanges server s)
      ((h.materialize d).run server s).result := by
  rw [materialize_eq]
  by_cases hn : d.name.isEmpty = true
  · rw [if_pos hn]
    exact .unnamed _ _ (String.isEmpty_iff.1 hn) (create_calls server h d s)
  · rw [if_neg hn, Program.exchanges_bind, Program.run_bind]
    exact afterUpdate_calls server (fun he => hn (String.isEmpty_iff.2 he))
      (update_calls server h d s) _

theorem write_calls (server : Server storeInterface σ) (h : Handler) (recreate : Bool)
    (data : Except ProviderError SecretData) (s : σ) :
    SyncCalls h recreate data ((h.write recreate data).exchanges server s)
      ((h.write recreate data).run server s).result := by
  cases data with
  | error e => exact .unavailable e
  | ok data =>
    rw [write_ok, Program.exchanges_bind, Program.run_bind]
    have hw := materialize_calls server h (h.desired recreate data) s
    rw [← List.append_nil ((h.materialize _).exchanges server s)] at hw
    exact .written data _ _ hw

/-! ### What the grammar allows -/

theorem CreateCalls.length_le {calls : List StoreExchange} {r : Except SyncFault Secret}
    (hc : CreateCalls h d calls r) : calls.length ≤ 1 := by
  cases hc <;> simp

theorem UpdateCalls.length_le {calls : List StoreExchange} {r : Except SyncFault Secret}
    (hu : UpdateCalls h d calls r) : calls.length ≤ 2 := by
  cases hu <;> simp

/-- A write makes at most five calls. -/
theorem WriteCalls.length_le {calls : List StoreExchange} {r : Except SyncFault Secret}
    (hw : WriteCalls h d calls r) : calls.length ≤ 5 := by
  cases hw with
  | unnamed _ _ _ hc => exact Nat.le_trans hc.length_le (by omega)
  | updated _ _ _ hu _ => exact Nat.le_trans hu.length_le (by omega)
  | recreated _ _ _ _ _ hu hc _ =>
    have hu := hu.length_le
    have hc := hc.length_le
    rw [List.length_append]
    omega
  | reupdated _ _ _ _ _ _ _ hu hc hl =>
    have hu := hu.length_le
    have hc := hc.length_le
    have hl := hl.length_le
    rw [List.length_append, List.length_append]
    omega

/-- The calls of one attempt of a write. -/
inductive AttemptCalls (h : Handler) (d : DesiredSecret) (calls : List StoreExchange) : Prop
  | create {r : Except SyncFault Secret} (hc : CreateCalls h d calls r)
  | update {r : Except SyncFault Secret} (hn : d.name ≠ "") (hu : UpdateCalls h d calls r)

/-- Every call of a write belongs to an attempt, which made no other calls than the write. -/
theorem WriteCalls.attempt {calls : List StoreExchange} {r : Except SyncFault Secret}
    (hw : WriteCalls h d calls r) {x : StoreExchange} (hx : x ∈ calls) :
    ∃ own, AttemptCalls h d own ∧ x ∈ own ∧ own ⊆ calls := by
  cases hw with
  | unnamed _ _ _ hc => exact ⟨calls, .create hc, hx, List.Subset.refl _⟩
  | updated _ _ hn hu _ => exact ⟨calls, .update hn hu, hx, List.Subset.refl _⟩
  | recreated first second _ _ hn hu hc _ =>
    rcases List.mem_append.1 hx with hx | hx
    · exact ⟨first, .update hn hu, hx, List.subset_append_left _ _⟩
    · exact ⟨second, .create hc, hx, List.subset_append_right _ _⟩
  | reupdated first second third _ _ _ hn hu hc hl =>
    have hlater : second ++ third ⊆ first ++ (second ++ third) := List.subset_append_right _ _
    rcases List.mem_append.1 hx with hx | hx
    · exact ⟨first, .update hn hu, hx, List.subset_append_left _ _⟩
    · rcases List.mem_append.1 hx with hx | hx
      · exact ⟨second, .create hc, hx, fun _ hy => hlater (List.mem_append_left _ hy)⟩
      · exact ⟨third, .update hn hl, hx, fun _ hy => hlater (List.mem_append_right _ hy)⟩

/-- Every call of a write goes to the namespace of the target. -/
theorem WriteCalls.namespace {calls : List StoreExchange} {r : Except SyncFault Secret}
    (hw : WriteCalls h d calls r) :
    ∀ x ∈ calls, (Cluster.callOf x.request).ns = h.target.ns := by
  have hcreate : ∀ {own : List StoreExchange} {r : Except SyncFault Secret},
      CreateCalls h d own r → ∀ x ∈ own, (Cluster.callOf x.request).ns = h.target.ns := by
    intro own r hc
    cases hc <;> simp [Cluster.callOf]
  have hupdate : ∀ {own : List StoreExchange} {r : Except SyncFault Secret},
      UpdateCalls h d own r → ∀ x ∈ own, (Cluster.callOf x.request).ns = h.target.ns := by
    intro own r hu
    cases hu <;> simp [Cluster.callOf]
  intro x hx
  obtain ⟨own, hown, hx, -⟩ := hw.attempt hx
  cases hown with
  | create hc => exact hcreate hc x hx
  | update _ hu => exact hupdate hu x hx

/-- The result of some calls is what the last one answered, and no other call was a write that
succeeded. A refused marking makes no call. -/
structure Accounts (calls : List StoreExchange) (r : Except SyncFault Secret) : Prop where
  early : ∀ x ∈ calls.dropLast, written? x = none
  written : ∀ secret, r = .ok secret ↔ calls.getLast?.bind written? = some secret
  failed : ∀ f, r = .error f → (∃ e, f = .marking e) ∨
    ∃ e, f = .secretUpdate e ∧ calls.getLast?.bind failure? = some e

/-- No call of a failed attempt was a write that succeeded. -/
theorem Accounts.unwritten {calls : List StoreExchange} {f : SyncFault}
    (ha : Accounts calls (.error f)) : ∀ x ∈ calls, written? x = none := by
  intro x hx
  cases hlast : calls.getLast? with
  | none => rw [List.getLast?_eq_none_iff.1 hlast] at hx; cases hx
  | some last =>
    obtain ⟨ys, rfl⟩ := List.getLast?_eq_some_iff.1 hlast
    rcases List.mem_append.1 hx with hx | hx
    · exact ha.early x (by simpa using hx)
    · obtain rfl : x = last := by simpa using hx
      -- Had the last call written, the attempt would have ended well.
      cases hw : written? x with
      | none => rfl
      | some secret =>
        have hok := (ha.written secret).2 (by rw [hlast]; exact hw)
        cases hok

/-- A refused marking accounts for calls none of which was a write that succeeded. -/
theorem accounts_of_refused {calls : List StoreExchange} (hall : ∀ x ∈ calls, written? x = none)
    (e : MarkerError) : Accounts calls (.error (.marking e)) where
  early x hx := hall x (List.dropLast_subset calls hx)
  written secret := by
    refine ⟨nofun, ?_⟩
    intro hlast
    obtain ⟨x, hx, hw⟩ := Option.bind_eq_some_iff.1 hlast
    rw [hall x (List.mem_of_getLast? hx)] at hw
    cases hw
  failed f hf := .inl ⟨e, (Except.error.inj hf).symm⟩

/-- The calls of an attempt that failed, and of the one that took its place. -/
theorem Accounts.append {calls calls' : List StoreExchange} {f : SyncFault}
    {r : Except SyncFault Secret} (ha : Accounts calls (.error f)) (ha' : Accounts calls' r)
    (hnil : calls' = [] → ∃ e, r = .error (.marking e)) : Accounts (calls ++ calls') r := by
  cases hlast : calls'.getLast? with
  | none =>
    -- The second attempt made no call, so it was refused, and a refusal accounts for any failure.
    obtain rfl := List.getLast?_eq_none_iff.1 hlast
    obtain ⟨e, rfl⟩ := hnil rfl
    rw [List.append_nil]
    exact accounts_of_refused ha.unwritten e
  | some last =>
    have hne : calls' ≠ [] := fun he => by rw [he] at hlast; cases hlast
    have hlast' : (calls ++ calls').getLast? = calls'.getLast? :=
      List.getLast?_append_of_ne_nil _ hne
    refine ⟨?_, ?_, ?_⟩
    · intro x hx
      rw [List.dropLast_append_of_ne_nil hne] at hx
      rcases List.mem_append.1 hx with hx | hx
      · exact ha.unwritten x hx
      · exact ha'.early x hx
    · intro secret
      rw [hlast']
      exact ha'.written secret
    · intro f' hf
      rw [hlast']
      exact ha'.failed f' hf

/-- The reply to the last call accounts for calls none of which but the last can be a write that
succeeded. -/
theorem accounts_of_reply {calls : List StoreExchange} (hall : ∀ x ∈ calls, written? x = none)
    {x : StoreExchange} (reply : Except StoreError Secret)
    (hwritten : ∀ secret, reply = .ok secret ↔ written? x = some secret)
    (hfailed : ∀ e, reply = .error e → failure? x = some e) :
    Accounts (calls ++ [x]) (reply.mapError .secretUpdate) where
  early y hy := by
    rw [List.dropLast_concat] at hy
    exact hall y hy
  written secret := by
    rw [List.getLast?_concat, Option.bind_some, ← hwritten]
    cases reply <;> simp [Except.mapError]
  failed f hf := by
    rw [List.getLast?_concat, Option.bind_some]
    cases reply with
    | error e => exact .inr ⟨e, (Except.error.inj hf).symm, hfailed e rfl⟩
    | ok secret => cases hf

theorem CreateCalls.accounts {calls : List StoreExchange} {r : Except SyncFault Secret}
    (hc : CreateCalls h d calls r) : Accounts calls r := by
  cases hc with
  | refused e hp => exact accounts_of_refused (by simp) e
  | sent secret hp reply =>
    refine accounts_of_reply (List.forall_mem_nil _) reply ?_ ?_
    · intro created
      cases reply <;> simp [written?]
    · rintro e rfl
      rfl

theorem UpdateCalls.accounts {calls : List StoreExchange} {r : Except SyncFault Secret}
    (hu : UpdateCalls h d calls r) : Accounts calls r := by
  cases hu with
  | unread e =>
    refine accounts_of_reply (List.forall_mem_nil _) (.error e) ?_ ?_
    · simp [written?]
    · rintro e' ⟨⟩
      rfl
  | refused stored e hp => exact accounts_of_refused (by simp [written?]) e
  | sent stored secret hp reply =>
    refine accounts_of_reply (List.forall_mem_singleton.2 rfl) reply ?_ ?_
    · intro updated
      cases reply <;> simp [written?]
    · rintro e rfl
      rfl

theorem CreateCalls.refused_of_nil {r : Except SyncFault Secret} (hc : CreateCalls h d [] r) :
    ∃ e, r = .error (.marking e) := by
  cases hc with
  | refused e hp => exact ⟨e, rfl⟩

/-- A write ends with what its last call answered, and no other call of it succeeded to write. -/
theorem WriteCalls.accounts {calls : List StoreExchange} {r : Except SyncFault Secret}
    (hw : WriteCalls h d calls r) : Accounts calls r := by
  cases hw with
  | unnamed _ _ _ hc => exact hc.accounts
  | updated _ _ _ hu _ => exact hu.accounts
  | recreated calls calls' _ _ _ hu hc _ =>
    exact hu.accounts.append hc.accounts fun hnil => (hnil ▸ hc).refused_of_nil
  | reupdated calls calls' calls'' _ _ _ _ hu hc hl =>
    have hne : calls'' ≠ [] := by cases hl <;> simp
    refine hu.accounts.append (hc.accounts.append hl.accounts (absurd · hne)) fun hnil => ?_
    exact absurd (List.append_eq_nil_iff.1 hnil).2 hne

variable {recreate : Bool} {data : Except ProviderError SecretData}

theorem SyncCalls.length_le {calls : List StoreExchange} {r : Except SyncError Secret}
    (hs : SyncCalls h recreate data calls r) : calls.length ≤ 5 := by
  cases hs with
  | unavailable e => exact Nat.zero_le 5
  | written data calls r hw => exact hw.length_le

/-- No call of a sync but the last was a write that succeeded. -/
theorem SyncCalls.early {calls : List StoreExchange} {r : Except SyncError Secret}
    (hs : SyncCalls h recreate data calls r) : ∀ x ∈ calls.dropLast, written? x = none := by
  cases hs with
  | unavailable e => simp
  | written data calls r hw => exact hw.accounts.early

/-- A sync ends well exactly with the secret that its last call has written. -/
theorem SyncCalls.ok_iff {calls : List StoreExchange} {r : Except SyncError Secret}
    (hs : SyncCalls h recreate data calls r) (secret : Secret) :
    r = .ok secret ↔ calls.getLast?.bind written? = some secret := by
  cases hs with
  | unavailable e => simp
  | written data calls r hw =>
    rw [← hw.accounts.written secret]
    cases r <;> simp [Except.mapError]

/-- What a sync that fails says: there is no data, marking refused, or the last call failed. -/
theorem SyncCalls.error_cases {calls : List StoreExchange} {r : Except SyncError Secret}
    (hs : SyncCalls h recreate data calls r) {e : SyncError} (he : r = .error e) :
    (∃ e', data = .error e' ∧ e = h.failure (.dataFetch e')) ∨
    (∃ e', e = h.failure (.marking e')) ∨
    ∃ e', e = h.failure (.secretUpdate e') ∧ calls.getLast?.bind failure? = some e' := by
  cases hs with
  | unavailable e' => exact .inl ⟨e', rfl, (Except.error.inj he).symm⟩
  | written data calls r hw =>
    cases r with
    | ok secret => cases he
    | error f =>
      obtain rfl : h.failure f = e := Except.error.inj he
      rcases hw.accounts.failed f rfl with ⟨e', rfl⟩ | ⟨e', rfl, hlast⟩
      · exact .inr (.inl ⟨e', rfl⟩)
      · exact .inr (.inr ⟨e', rfl, hlast⟩)

/-- No call of a sync that failed was a write that succeeded. -/
theorem SyncCalls.unwritten {recreate : Bool} {data : Except ProviderError SecretData}
    {calls : List StoreExchange} {e : SyncError} (hs : SyncCalls h recreate data calls (.error e)) :
    ∀ x ∈ calls, StoreExchange.written? x = none := by
  generalize hr : (Except.error e : Except SyncError Secret) = r at hs
  cases hs with
  | unavailable e => simp
  | written data calls r hw =>
    cases r with
    | ok secret => cases hr
    | error f => exact hw.accounts.unwritten

/-! ### The last calls of a sync that succeeded -/

theorem CreateCalls.of_ok {calls : List StoreExchange} {s : Secret}
    (hc : CreateCalls h d calls (.ok s)) :
    ∃ secret, h.prepared d none = .ok secret ∧
      calls = [⟨.create h.target.ns secret, .ok s⟩] := by
  generalize hr : (Except.ok s : Except SyncFault Secret) = r at hc
  cases hc with
  | refused e hp => cases hr
  | sent secret hp reply =>
    cases reply with
    | error e => cases hr
    | ok created =>
      obtain rfl : s = created := Except.ok.inj hr
      exact ⟨secret, hp, rfl⟩

theorem UpdateCalls.of_ok {calls : List StoreExchange} {s : Secret}
    (hu : UpdateCalls h d calls (.ok s)) :
    ∃ stored secret, h.prepared d (some stored) = .ok secret ∧
      calls = [⟨.get h.target.ns d.name, .ok stored⟩, ⟨.update h.target.ns secret, .ok s⟩] := by
  generalize hr : (Except.ok s : Except SyncFault Secret) = r at hu
  cases hu with
  | unread e => cases hr
  | refused stored e hp => cases hr
  | sent stored secret hp reply =>
    cases reply with
    | error e => cases hr
    | ok updated =>
      obtain rfl : s = updated := Except.ok.inj hr
      exact ⟨stored, secret, hp, rfl⟩

/-- A write that succeeds ends with a creation, or with a read and a replacement of what was
read. -/
theorem WriteCalls.of_ok {calls : List StoreExchange} {s : Secret}
    (hw : WriteCalls h d calls (.ok s)) :
    (∃ earlier secret, h.prepared d none = .ok secret ∧
      calls = earlier ++ [⟨.create h.target.ns secret, .ok s⟩]) ∨
    (d.name ≠ "" ∧ ∃ earlier stored secret, h.prepared d (some stored) = .ok secret ∧
      calls = earlier ++
        [⟨.get h.target.ns d.name, .ok stored⟩, ⟨.update h.target.ns secret, .ok s⟩]) := by
  cases hw with
  | unnamed _ _ hn hc =>
    obtain ⟨secret, hp, rfl⟩ := hc.of_ok
    exact .inl ⟨[], secret, hp, rfl⟩
  | updated _ _ hn hu hr =>
    obtain ⟨stored, secret, hp, rfl⟩ := hu.of_ok
    exact .inr ⟨hn, [], stored, secret, hp, rfl⟩
  | recreated calls calls' _ _ hn hu hc hr =>
    obtain ⟨secret, hp, rfl⟩ := hc.of_ok
    exact .inl ⟨calls, secret, hp, rfl⟩
  | reupdated calls calls' calls'' _ _ _ hn hu hc hl =>
    obtain ⟨stored, secret, hp, rfl⟩ := hl.of_ok
    exact .inr ⟨hn, calls ++ calls', stored, secret, hp, (List.append_assoc _ _ _).symm⟩

theorem SyncCalls.of_ok {recreate : Bool} {data : Except ProviderError SecretData}
    {calls : List StoreExchange} {s : Secret} (hs : SyncCalls h recreate data calls (.ok s)) :
    ∃ fetched, data = .ok fetched ∧ WriteCalls h (h.desired recreate fetched) calls (.ok s) := by
  generalize hr : (Except.ok s : Except SyncError Secret) = r at hs
  cases hs with
  | unavailable e => cases hr
  | written fetched calls r hw =>
    cases r with
    | error f => cases hr
    | ok written =>
      obtain rfl : s = written := Except.ok.inj hr
      exact ⟨fetched, rfl, hw⟩

/-! ### Fallbacks -/

/-- How often a fallback is reported. -/
def fallbackCount (lost : WriteKind) (events : List Event) : Nat :=
  events.count (.measure (.fellBack lost))

theorem fallbackCount_append (lost : WriteKind) (events events' : List Event) :
    fallbackCount lost (events ++ events')
      = fallbackCount lost events + fallbackCount lost events' :=
  List.count_append

/-- A creation takes no fallback. -/
theorem fallbackCount_create (server : Server storeInterface σ) (lost : WriteKind) (s : σ) :
    fallbackCount lost ((h.create d).run server s).events = 0 := by
  cases hp : h.prepared d none with
  | error e => rw [create_of_refused hp]; rfl
  | ok secret =>
    rw [create_of_prepared hp]
    simp only [Program.run_request, Program.run_reporting, Program.run_done, List.append_nil]
    cases (server (.create h.target.ns secret) s).1 <;> simp [creationReport, fallbackCount]

/-- An update takes no fallback. -/
theorem fallbackCount_update (server : Server storeInterface σ) (lost : WriteKind) (s : σ) :
    fallbackCount lost ((h.update d).run server s).events = 0 := by
  rw [update_eq, Program.run_request]
  cases (server (.get h.target.ns d.name) s).1 with
  | error e => rfl
  | ok stored =>
    show fallbackCount lost ((h.replace d stored).run server _).events = 0
    cases hp : h.prepared d (some stored) with
    | error e => rw [replace_of_refused hp]; rfl
    | ok secret =>
      have hmark : fallbackCount lost (h.markingReport d stored) = 0 := by
        unfold markingReport
        split
        · rfl
        · split <;> simp [fallbackCount]
      rw [replace_of_prepared hp]
      simp only [Program.run_request, Program.run_reporting, Program.run_done, List.append_nil,
        fallbackCount_append, hmark, Nat.zero_add]
      cases (server (.update h.target.ns secret) _).1 <;>
        simp [replacementReport, fallbackCount]

/-- How often a fallback may still be taken. -/
def fallbacksLeft (existsTaken goneTaken : Bool) : WriteKind → Nat
  | .create => (!existsTaken).toNat
  | .update => (!goneTaken).toNat

theorem fallbackCount_appearanceReport (lost : WriteKind) (goneTaken : Bool) :
    fallbackCount lost (h.appearanceReport d) + fallbacksLeft true goneTaken lost
      = fallbacksLeft false goneTaken lost := by
  cases lost <;> simp [appearanceReport, fallbackCount, fallbacksLeft]

theorem fallbackCount_lossReport (lost : WriteKind) (existsTaken : Bool) :
    fallbackCount lost (h.lossReport d) + fallbacksLeft existsTaken true lost
      = fallbacksLeft existsTaken false lost := by
  cases lost <;> simp [lossReport, fallbackCount, fallbacksLeft]

/-- The attempts take each fallback at most once, and none that has been taken. The induction is on
the turns: one that goes over spends the fallback that it reports. -/
theorem fallbackCount_attempts_le (server : Server storeInterface σ) (lost kind : WriteKind)
    (existsTaken goneTaken : Bool) (s : σ) :
    fallbackCount lost ((h.attempts d kind existsTaken goneTaken).run server s).events
      ≤ fallbacksLeft existsTaken goneTaken lost := by
  induction kind, existsTaken, goneTaken using attempts.induct d generalizing s with
  | case1 kind existsTaken goneTaken ihUpdate ihCreate =>
    cases kind with
    | create =>
      rw [attempts_create, Program.run_bind, fallbackCount_append, fallbackCount_create,
        Nat.zero_add]
      generalize (h.create d).run server s = created
      split
      · -- The guard says that this fallback was left.
        rename_i hover
        have hlater := ihUpdate created.result hover created.state
        obtain rfl : existsTaken = false := hover.2.2
        rw [Program.run_reporting, fallbackCount_append,
          ← fallbackCount_appearanceReport (h := h) (d := d)]
        exact Nat.add_le_add_left hlater _
      · exact Nat.zero_le _
    | update =>
      rw [attempts_update, Program.run_bind, fallbackCount_append, fallbackCount_update,
        Nat.zero_add]
      generalize (h.update d).run server s = updated
      split
      · rename_i hover
        have hlater := ihCreate updated.result hover updated.state
        obtain rfl : goneTaken = false := hover.2
        rw [Program.run_reporting, fallbackCount_append,
          ← fallbackCount_lossReport (h := h) (d := d)]
        exact Nat.add_le_add_left hlater _
      · exact Nat.zero_le _

/-- A write takes each fallback at most once. -/
theorem fallbackCount_materialize_le (server : Server storeInterface σ) (lost : WriteKind)
    (s : σ) : fallbackCount lost ((h.materialize d).run server s).events ≤ 1 := by
  have hleft : fallbacksLeft false false lost = 1 := by cases lost <;> rfl
  rw [← hleft]
  exact fallbackCount_attempts_le server lost _ false false s

theorem fallbackCount_syncReport (lost : WriteKind) (r : Except SyncError Secret) :
    fallbackCount lost (syncReport r) = 0 := by
  cases r <;> simp [syncReport, fallbackCount]

theorem fallbackCount_write_le (server : Server storeInterface σ) (lost : WriteKind)
    (recreate : Bool) (data : Except ProviderError SecretData) (s : σ) :
    fallbackCount lost ((h.write recreate data).run server s).events ≤ 1 := by
  cases data with
  | error e => exact Nat.zero_le 1
  | ok data =>
    rw [write_ok, Program.run_bind]
    simp only [Program.run_done, List.append_nil]
    exact fallbackCount_materialize_le server lost s

/-! ### The protocol -/

/-- The calls of a sync and its result, whatever the store answers. After the calls of the data
provider come at most five of its own, and they follow `SyncCalls`. Each fallback is taken at most
once. Only the last call can be a write that succeeded, and then the sync ends with the secret that
it answered. A sync that fails lacks data, was refused by marking, or ends with the failure that
its last call answered. -/
theorem sync_protocol (server : Server storeInterface σ) (h : Handler)
    (provider : StoreProgram (Except ProviderError SecretData)) (recreate : Bool) (s : σ) :
    let fetched := provider.run server s
    let o := (h.sync provider recreate).run server s
    ∃ (own : List StoreExchange) (events : List Event),
      (h.sync provider recreate).exchanges server s = provider.exchanges server s ++ own ∧
      o.events = fetched.events ++ events ∧
      SyncCalls h recreate fetched.result own o.result ∧
      own.length ≤ 5 ∧
      (∀ lost, fallbackCount lost events ≤ 1) ∧
      (∀ x ∈ own.dropLast, written? x = none) ∧
      (∀ secret, o.result = .ok secret ↔ own.getLast?.bind written? = some secret) ∧
      (∀ e, o.result = .error e →
        (∃ e', fetched.result = .error e' ∧ e = h.failure (.dataFetch e')) ∨
        (∃ e', e = h.failure (.marking e')) ∨
        ∃ e', e = h.failure (.secretUpdate e') ∧ own.getLast?.bind failure? = some e') := by
  intro fetched o
  have hrun := run_sync server provider recreate s h
  have hcalls : SyncCalls h recreate fetched.result
      ((h.write recreate fetched.result).exchanges server fetched.state) o.result := by
    rw [show o.result = _ from congrArg Program.Outcome.result hrun]
    exact write_calls server h recreate fetched.result fetched.state
  refine ⟨_, _, ?_, congrArg Program.Outcome.events hrun, hcalls, hcalls.length_le, ?_,
    hcalls.early, hcalls.ok_iff, fun e => hcalls.error_cases⟩
  · unfold Program.exchanges
    rw [steps_sync, List.map_append]
  · intro lost
    rw [fallbackCount_append, fallbackCount_syncReport, Nat.add_zero]
    exact fallbackCount_write_le server lost recreate _ _

end Handler

end SecretSync
