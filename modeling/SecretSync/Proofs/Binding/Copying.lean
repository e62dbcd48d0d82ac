import SecretSync.Binding.DataProvider
import SecretSync.Proofs.Binding.Idempotence
import SecretSync.Proofs.Binding.Limit
import SecretSync.Proofs.Binding.Undisturbed

/-!
# `SecretSync.Proofs.Binding.Copying`: secrets that are copied

A provider of source secrets makes one read and answers what a reader sees
(`sourceSecret_eq`): the texts of the source, and its bytes under the other keys
(`Secret.get?_contents`). A sync then puts this over the data of its target,
the other way round, so the copy wins (`CopyOf`).

Both orders meet where a secret is copied over itself. Its contents become its
data, they stay its contents, and there is nothing left to copy
(`Overlays.self_copy`).

`sync_copies` is the whole statement. In it, a secret that is its own source can
be copied again if the owner has a key that reads back as it is written. For
another key, marking is not idempotent. The second marking adds the key once
more, and it must have room for that (`fits_again_iff`). There may be none
(`sync_copies_once`).
-/

set_option autoImplicit false

namespace SecretSync

open StoreExchange (written?)

/-! ### What a reader sees -/

namespace Secret

/-- The bytes under a key. -/
def bytes? (s : Secret) (k : String) : Option Bytes := s.data.bind (·.get? k)

/-- The text under a key. -/
def text? (s : Secret) (k : String) : Option String := s.stringData.bind (·.get? k)

/-- A reader sees the texts, and the bytes of the other keys. -/
theorem get?_contents (s : Secret) (k : String) :
    s.contents.get? k = ((s.text? k).map Text.utf8).or (s.bytes? k) := by
  have hbytes : (s.data.getD .empty).get? k = s.bytes? k := by
    unfold bytes?
    cases s.data <;> rfl
  unfold contents text?
  rw [← hbytes]
  cases s.stringData with
  | none => rfl
  | some texts =>
    show ((s.data.getD .empty).merge (SecretData.ofTexts texts)).get? k = _
    rw [SortedMap.get?_merge]
    exact congrArg (Option.or · _) (SortedMap.get?_map Text.utf8 texts k)

theorem contents_of_no_texts {s : Secret} (h : s.stringData = none) :
    s.contents = s.data.getD .empty := by
  unfold contents
  rw [h]

/-- Contents over their own data are the contents. -/
theorem merge_contents (s : Secret) : (s.data.getD .empty).merge s.contents = s.contents := by
  unfold contents
  cases s.stringData with
  | none => exact SortedMap.merge_of_agrees fun k v hk => hk
  | some texts =>
    refine SortedMap.ext_get? fun k => ?_
    simp only [SortedMap.get?_merge]
    cases (SecretData.ofTexts texts).get? k <;> cases (s.data.getD .empty).get? k <;> rfl

end Secret

/-! ### The read of a source -/

namespace DataProvider

variable {key : OwnerKey} {σ : Type} {server : Program.Server storeInterface σ}

/-- What becomes of a read that failed. -/
def sourceFailure (key : OwnerKey) (e : StoreError) : ProviderError :=
  if e.isNotFound then .notFound key.toString else .store e

/-- What is answered for a read. -/
def sourceAnswer (key : OwnerKey) : Except StoreError Secret → Except ProviderError SecretData
  | .ok secret => .ok secret.contents
  | .error e => .error (sourceFailure key e)

/-- What is reported about a read. -/
def sourceReport (key : OwnerKey) : Except StoreError Secret → List Event
  | .ok secret =>
    [.log ⟨.debug, logOrigin, "read source secret data",
      [("source", .text key.toString), ("keys", .number secret.contents.size)]⟩]
  | .error _ => []

/-- The provider makes one read and answers it. -/
theorem sourceSecret_eq (key : OwnerKey) :
    sourceSecret key = .request (.get key.ns key.name) fun reply =>
      Program.reporting (sourceReport key reply) (.done (sourceAnswer key reply)) := by
  refine congrArg (Program.request _) (funext fun reply => ?_)
  cases reply <;> rfl

variable {state state' : σ} {reply : Except StoreError Secret}

theorem run_sourceSecret (h : server (.get key.ns key.name) state = (reply, state')) :
    ((sourceSecret key).run server state).result = sourceAnswer key reply ∧
      ((sourceSecret key).run server state).state = state' ∧
      (sourceSecret key).exchanges server state = [⟨.get key.ns key.name, reply⟩] := by
  rw [sourceSecret_eq]
  simp only [Program.run_request, Program.run_reporting, Program.run_done, Program.exchanges,
    Program.steps_request, Program.steps_reporting, Program.steps_done, Program.stepOf,
    List.map_cons, List.map_nil, h, and_self]

/-- A source that is there is answered with its contents, and nothing is written. -/
theorem sourceSecret_of_stored {c : Cluster StoreError} (hc : c.hooks = []) {source : Secret}
    (hsource : c.secret? key.ns key.name = some source) :
    ((sourceSecret key).run Cluster.storeServer c).result = .ok source.contents ∧
      ∀ x ∈ (sourceSecret key).exchanges Cluster.storeServer c, written? x = none := by
  obtain ⟨c', hget, -⟩ := Cluster.get_of_stored hc hsource
  obtain ⟨hanswer, -, hexchanges⟩ := run_sourceSecret hget
  refine ⟨hanswer, ?_⟩
  rw [hexchanges]
  simp [written?]

end DataProvider

namespace Handler

open Cluster (storeServer)
open DataProvider (sourceSecret sourceFailure)
open MarkerCall (filler utf8ByteSize_filler)

variable {h : Handler} {d : DesiredSecret} {key : OwnerKey} {recreate : Bool}
  {c c' : Cluster StoreError}

/-! ### A source that cannot be read -/

/-- A source that cannot be read ends the sync, and the read is its only call. -/
theorem sync_of_unread {e : StoreError}
    (hget : storeServer (.get key.ns key.name) c = (.error e, c')) :
    ((h.sync (sourceSecret key) recreate).run storeServer c).result
        = .error (h.failure (.dataFetch (sourceFailure key e))) ∧
      (h.sync (sourceSecret key) recreate).exchanges storeServer c
        = [⟨.get key.ns key.name, .error e⟩] := by
  obtain ⟨hresult, -, hexchanges⟩ := DataProvider.run_sourceSecret hget
  have hresult : ((sourceSecret key).run storeServer c).result
      = .error (sourceFailure key e) := hresult
  rw [run_sync, exchanges_sync]
  dsimp only
  rw [hresult, hexchanges, write_error]
  exact ⟨rfl, rfl⟩

/-! ### Data that is there already -/

/-- The update of a stored secret ends as its marker decides. -/
theorem update_of_stored [h.marker.Tagging] (hc : c.hooks = []) {s : Secret}
    (hname : d.name = s.name) (hstored : c.secret? h.target.ns s.name = some s) :
    (∀ m, h.prepared d (some s) = .error m →
      ((h.update d).run storeServer c).result = .error (.marking m)) ∧
    ∀ p, h.prepared d (some s) = .ok p →
      ∃ s', ((h.update d).run storeServer c).result = .ok s' ∧ s'.unversioned = p.unversioned := by
  constructor
  · intro m hp
    obtain ⟨read, hget, -⟩ := Cluster.get_of_stored hc hstored
    have hattempt := attempt_update h d c
    rw [hname, hget] at hattempt
    dsimp only at hattempt
    rw [hp] at hattempt
    exact congrArg Attempt.result hattempt
  · intro p hp
    obtain ⟨s', c', hattempt, hcontent, -⟩ := attempt_update_of_stored hc hname hstored hp
    exact ⟨s', congrArg Attempt.result hattempt, hcontent⟩

/-- A sync with data for a stored secret ends as the update of this secret does. -/
theorem sync_of_stored [h.marker.Tagging] (hc : c.hooks = []) {s : Secret} (hne : s.name ≠ "")
    (hname : h.target.effectiveName recreate = s.name)
    (hstored : c.secret? h.target.ns s.name = some s)
    {provider : StoreProgram (Except ProviderError SecretData)} {data : SecretData}
    (hreads : ∀ x ∈ provider.exchanges storeServer c, written? x = none)
    (hdata : (provider.run storeServer c).result = .ok data) :
    let o := (h.sync provider recreate).run storeServer c
    (∀ m, h.prepared (h.desired recreate data) (some s) = .error m →
      o.result = .error (h.failure (.marking m))) ∧
    ∀ p, h.prepared (h.desired recreate data) (some s) = .ok p →
      ∃ s', o.result = .ok s' ∧ s'.unversioned = p.unversioned := by
  intro o
  let fetched := provider.run storeServer c
  have hfetched : fetched.state.secret? h.target.ns s.name = some s :=
    (Cluster.sameSecrets_run provider hc hreads _ _).trans hstored
  have hn : (h.desired recreate data).name ≠ "" := fun he => hne (hname.symm.trans he)
  obtain ⟨hrefused, hsent⟩ :=
    update_of_stored (Cluster.unhooked_run hc provider) (d := h.desired recreate data) hname
      hfetched
  -- Neither way the update loses the secret, so it is the only attempt.
  have hresult (hkept : lostSecret ((h.update (h.desired recreate data)).run storeServer
      fetched.state).result = false) :
      o.result = ((h.update (h.desired recreate data)).run storeServer
        fetched.state).result.mapError h.failure := by
    have hrun : o = _ := run_sync storeServer provider recreate c h
    rw [hrun]
    dsimp only
    rw [hdata, result_write, (run_materialize_of_kept storeServer hn hkept).1]
  constructor
  · intro m hp
    rw [hresult (by rw [hrefused m hp]; rfl), hrefused m hp]
    rfl
  · intro p hp
    obtain ⟨s', hs', hcontent⟩ := hsent p hp
    refine ⟨s', ?_, hcontent⟩
    rw [hresult (by rw [hs']; rfl), hs']
    rfl

/-! ### Copies -/

/-- What a sync makes of the source: its texts, its bytes under the other keys, and under the keys
that the source has not got what the target had. -/
structure CopyOf (source : Secret) (target : Option Secret) (s : Secret) : Prop where
  texts : ∀ k text, source.text? k = some text → s.bytes? k = some (Text.utf8 text)
  bytes : ∀ k bytes, source.text? k = none → source.bytes? k = some bytes → s.bytes? k = some bytes
  others : ∀ k, source.text? k = none → source.bytes? k = none →
    s.bytes? k = target.bind (·.bytes? k)

/-- What is left to say when a secret is its own source: a sync of `c'` that copies `s` over itself
again. Whatever it writes has the data of `s`. The marker alone can refuse it. The one that keeps
the ownership tags accepts it exactly if the key of the owner reads back as it is written, or if the
annotations are within the limit although the owner is added once more. -/
structure CopiesAgain (h : Handler) (key : OwnerKey) (recreate : Bool) (c' : Cluster StoreError)
    (s : Secret) : Prop where
  written : ∀ s', ((h.sync (sourceSecret key) recreate).run storeServer c').result = .ok s' →
    s'.name = s.name ∧ s'.data = s.data
  refused : ∀ e, ((h.sync (sourceSecret key) recreate).run storeServer c').result = .error e →
    ∃ m, e = h.failure (.marking m) ∧
      (h.marker = .ofTags → m = tooLarge h.target (h.desired recreate s.contents) (some s))
  accepted : h.marker = .ofTags →
    ((∃ s', ((h.sync (sourceSecret key) recreate).run storeServer c').result = .ok s') ↔
      Text.trim h.target.owner.toString = h.target.owner.toString ∨
        markedBytes h.target (h.desired recreate s.contents) (some s) ≤ annotationLimit)

variable {source s : Secret}

/-- The contents of the source over the data of the target. -/
theorem Overlays.copyOf (ho : Overlays h recreate source.contents c c' s) :
    CopyOf source (c.secret? h.target.ns s.name) s := by
  -- Under each key: the text of the source, or else its bytes, or else the bytes of the target.
  have hbytes (k : String) : s.bytes? k
      = (((source.text? k).map Text.utf8).or (source.bytes? k)).or
          ((c.secret? h.target.ns s.name).bind (·.bytes? k)) := by
    unfold Secret.bytes?
    rw [ho.data_eq, Option.bind_some, SortedMap.get?_merge, Secret.get?_contents]
    refine congrArg (Option.or _) ?_
    cases c.secret? h.target.ns s.name with
    | none => rfl
    | some target =>
      show (target.data.getD .empty).get? k = target.data.bind _
      cases target.data <;> rfl
  constructor
  · intro k text htext
    rw [hbytes, htext]
    rfl
  · intro k bytes htext hsource
    rw [hbytes, htext, hsource]
    rfl
  · intro k htext hsource
    rw [hbytes, htext, hsource]
    rfl

/-- A secret that was its own source has the contents of the source as data, and they are its
contents too. -/
theorem Overlays.self_copy (ho : Overlays h recreate source.contents c c' s)
    (hself : c.secret? h.target.ns s.name = some source) :
    s.data = some source.contents ∧ s.contents = source.contents := by
  have hdata : s.data = some source.contents := by
    rw [ho.data_eq, hself]
    exact congrArg some source.merge_contents
  have htexts : s.stringData = source.stringData := by
    rw [ho.stringData_eq, hself]
    rfl
  refine ⟨hdata, SortedMap.ext_get? fun k => ?_⟩
  have hbytes : s.bytes? k = source.contents.get? k := by
    unfold Secret.bytes?
    rw [hdata]
    rfl
  have htext : s.text? k = source.text? k := by
    unfold Secret.text?
    rw [htexts]
  rw [Secret.get?_contents, hbytes, htext, Secret.get?_contents]
  cases source.text? k <;> rfl

/-- Over a secret that has its tags and its data already, what is wanted passes if the key of the
owner reads back as it is written, or if there is room to mark it once more. -/
theorem fits_again_iff {t : DeploymentTarget} {stored : Option Secret} {sent s : Secret}
    (hp : (⟨t, .ofTags⟩ : Handler).prepared d stored = .ok sent)
    (hlabels : s.metadata.labels = sent.metadata.labels)
    (hannotations : s.metadata.annotations = sent.metadata.annotations)
    (hdata : s.data = sent.data) :
    Fits t d (some s) ↔ Text.trim t.owner.toString = t.owner.toString ∨
      markedBytes t d (some s) ≤ annotationLimit := by
  constructor
  · exact Or.imp_left Ownership.trim_of_isManagedBy
  · rintro (htrim | hsmall)
    · -- What was prepared is a fixed point of preparing.
      exact (fits_of_prepared
        (prepared_again htrim hp rfl rfl rfl hlabels hannotations hdata)).1
    · exact .inr hsmall

/-- A further sync from a secret that is its own source ends as its marker decides. The provider
answers the same data, and the place has the wanted name, or there would have been nothing to
copy. -/
theorem Overlays.sync_again [h.marker.Tagging] (hc : c'.hooks = [])
    (ho : Overlays h recreate source.contents c c' s)
    (hself : c.secret? h.target.ns s.name = some source) (hns : key.ns = h.target.ns)
    (hkey : key.name = s.name) :
    let o := (h.sync (sourceSecret key) recreate).run storeServer c'
    (∀ m, h.prepared (h.desired recreate source.contents) (some s) = .error m →
      o.result = .error (h.failure (.marking m))) ∧
    ∀ p, h.prepared (h.desired recreate source.contents) (some s) = .ok p →
      ∃ s', o.result = .ok s' ∧ s'.unversioned = p.unversioned := by
  obtain ⟨hne, hname⟩ : h.target.effectiveName recreate ≠ "" ∧
      s.name = h.target.effectiveName recreate := by
    rcases ho.name with hname | hfree
    · exact hname
    · rw [hself] at hfree
      cases hfree
  have hstored : c'.secret? key.ns key.name = some s := by
    rw [hns, hkey]
    exact ho.stored
  obtain ⟨hanswer, hreads⟩ := DataProvider.sourceSecret_of_stored hc hstored
  rw [(ho.self_copy hself).2] at hanswer
  exact sync_of_stored hc (hname ▸ hne) hname.symm ho.stored hreads hanswer

/-- The wanted data over itself is the wanted data. -/
theorem Overlays.data_again [h.marker.Tagging] (ho : Overlays h recreate source.contents c c' s)
    (hself : c.secret? h.target.ns s.name = some source) {p : Secret}
    (hp : h.prepared (h.desired recreate source.contents) (some s) = .ok p) : p.data = s.data := by
  rw [data_over_of_prepared hp]
  show some ((s.data.getD .empty).merge source.contents) = s.data
  rw [(ho.self_copy hself).1]
  exact congrArg some (SortedMap.merge_of_agrees fun k v hk => hk)

/-- Copying a secret over itself again. -/
theorem Overlays.copiesAgain [h.marker.Tagging] (hc : c'.hooks = [])
    (ho : Overlays h recreate source.contents c c' s)
    (hself : c.secret? h.target.ns s.name = some source) (hns : key.ns = h.target.ns)
    (hkey : key.name = s.name) : CopiesAgain h key recreate c' s := by
  have hcontents := (ho.self_copy hself).2
  obtain ⟨hrefused, hsent⟩ := ho.sync_again hc hself hns hkey
  refine ⟨?_, ?_, ?_⟩
  · intro s' hs'
    cases hp : h.prepared (h.desired recreate source.contents) (some s) with
    | error m =>
      rw [hrefused m hp] at hs'
      cases hs'
    | ok p =>
      obtain ⟨s'', hresult, hcontent⟩ := hsent p hp
      obtain rfl : s'' = s' := Except.ok.inj (hresult.symm.trans hs')
      exact ⟨(Secret.name_of_unversioned hcontent).trans
          (congrArg (·.getD "") (name_of_prepared_some hp).1),
        (Secret.data_of_unversioned hcontent).trans (ho.data_again hself hp)⟩
  · intro e he
    cases hp : h.prepared (h.desired recreate source.contents) (some s) with
    | error m =>
      refine ⟨m, Except.error.inj (he.symm.trans (hrefused m hp)), fun hmarker => ?_⟩
      obtain ⟨t, marker⟩ := h
      obtain rfl : marker = .ofTags := hmarker
      obtain ⟨sent, version, hfirst, -⟩ := ho.content
      rw [hcontents]
      exact (not_fits_of_refused (free_of_prepared hfirst) hp).2
    | ok p =>
      obtain ⟨s', hresult, -⟩ := hsent p hp
      rw [hresult] at he
      cases he
  · -- It is accepted exactly if the marker prepares something, and the marker if it fits.
    intro hmarker
    obtain ⟨t, marker⟩ := h
    obtain rfl : marker = .ofTags := hmarker
    obtain ⟨sent, version, hfirst, hs⟩ := ho.content
    rw [hcontents, ← fits_again_iff hfirst (by rw [hs]) (by rw [hs]) (by rw [hs]),
      ← prepared_iff_fits (free_of_prepared hfirst)]
    constructor
    · rintro ⟨s', hs'⟩
      cases hp : prepared ⟨t, .ofTags⟩ (desired ⟨t, .ofTags⟩ recreate source.contents) (some s) with
      | error m =>
        rw [hrefused m hp] at hs'
        cases hs'
      | ok p => exact ⟨p, rfl⟩
    · rintro ⟨p, hp⟩
      obtain ⟨s', hresult, -⟩ := hsent p hp
      exact ⟨s', hresult⟩

/-! ### The whole statement -/

/-- Copying a secret. A handler whose marker changes labels and annotations only syncs from a source
on a cluster in memory.

If a hook fails the read of the source, the sync reports that the source is not there, or else the
failure of the store, and the read is its only call. The same happens without hooks if there is no
source.

Let a sync end well with `s`, without hooks. Then there was a source, and `s` is a copy of it over
what the target had. Every other secret is as it was. If the source is the target itself, a further
sync copies the same data (`CopiesAgain`). And if `s` has no texts, it can be read back as a source,
with the data that it has.

Every cluster that was made by puts, deletions and requests is `Named`. -/
theorem sync_copies (h : Handler) [h.marker.Tagging] (key : OwnerKey) (recreate : Bool)
    (c : Cluster StoreError) :
    let copy := h.sync (sourceSecret key) recreate
    let o := copy.run storeServer c
    (∀ e, (c.enter (Cluster.callOf (.get key.ns key.name))).1 = some e →
      o.result = .error (h.failure (.dataFetch
        (if e.isNotFound then .notFound key.toString else .store e))) ∧
      copy.exchanges storeServer c = [⟨.get key.ns key.name, .error e⟩]) ∧
    (c.hooks = [] → c.secret? key.ns key.name = none →
      o.result = .error (h.failure (.dataFetch (.notFound key.toString))) ∧
      copy.exchanges storeServer c
        = [⟨.get key.ns key.name, .error (.notFound (key.ns ++ "/" ++ key.name))⟩]) ∧
    (c.hooks = [] → c.Named → ∀ s, o.result = .ok s →
      ∃ source, c.secret? key.ns key.name = some source ∧
        CopyOf source (c.secret? h.target.ns s.name) s ∧
        (∀ ns name, o.state.secret? ns name
          = if ns = h.target.ns ∧ name = s.name then some s else c.secret? ns name) ∧
        (key.ns = h.target.ns → key.name = s.name → CopiesAgain h key recreate o.state s) ∧
        (s.stringData = none → ∃ data, s.data = some data ∧
          ((sourceSecret ⟨h.target.ns, s.name⟩).run storeServer o.state).result = .ok data)) := by
  intro copy o
  refine ⟨?_, ?_, ?_⟩
  · intro e he
    have hget : storeServer (.get key.ns key.name) c
        = (.error e, (c.enter (Cluster.callOf (.get key.ns key.name))).2) := by
      unfold storeServer
      rw [show c.enter (Cluster.callOf (.get key.ns key.name)) = (some e, _) from Prod.ext he rfl]
      rfl
    exact sync_of_unread hget
  · intro hc habsent
    obtain ⟨c', hget⟩ := Cluster.get_of_absent hc habsent
    exact sync_of_unread hget
  · intro hc hnamed s hs
    cases hsource : c.secret? key.ns key.name with
    | none =>
      obtain ⟨c', hget⟩ := Cluster.get_of_absent hc hsource
      rw [show o.result = _ from (sync_of_unread hget).1] at hs
      cases hs
    | some source =>
      obtain ⟨hanswer, hreads⟩ := DataProvider.sourceSecret_of_stored hc hsource
      obtain ⟨data, hdata, ho⟩ := overlays_of_sync hc hnamed hreads hs
      obtain rfl : source.contents = data := Except.ok.inj (hanswer.symm.trans hdata)
      have hunhooked : o.state.hooks = [] := Cluster.unhooked_run hc _
      refine ⟨source, rfl, ho.copyOf, ho.secrets, ?_, ?_⟩
      · intro hns hkey
        rw [hns, hkey] at hsource
        exact ho.copiesAgain hunhooked hsource hns hkey
      · intro htexts
        let place : OwnerKey := ⟨h.target.ns, s.name⟩
        have hplace : o.state.secret? place.ns place.name = some s := ho.stored
        refine ⟨_, ho.data_eq, ?_⟩
        rw [(DataProvider.sourceSecret_of_stored hunhooked hplace).1,
          Secret.contents_of_no_texts htexts, ho.data_eq]
        rfl

/-- A secret with a note and a key that has both bytes and a text. -/
def notedSecret (note : String) : Secret where
  metadata := {
    name := some "db"
    ns := some "app"
    annotations := some (.singleton "note" note) }
  data := some (.singleton "user" (Text.utf8 "admin"))
  stringData := some (.singleton "user" "root")

/-- A secret that is copied over itself gets its text as bytes, and another copy changes no data. -/
theorem sync_copies_self :
    let h : Handler := ⟨.inNamespace { name := "db" } "app" ⟨"team", "creds"⟩ "", .ofTags⟩
    let copy := h.sync (sourceSecret ⟨"app", "db"⟩) false
    let o := copy.run storeServer (Cluster.empty.put (notedSecret "primary"))
    ∃ s s', o.result = .ok s ∧ s.bytes? "user" = some (Text.utf8 "root") ∧
      (copy.run storeServer o.state).result = .ok s' ∧ s'.data = s.data := by
  intro h copy o
  have hsynced : o.result.toOption.map Secret.name = some "db" := by decide +kernel
  obtain ⟨-, -, hcopies⟩ :=
    sync_copies h ⟨"app", "db"⟩ false (Cluster.empty.put (notedSecret "primary"))
  cases hs : o.result with
  | error e => rw [hs] at hsynced; cases hsynced
  | ok s =>
    rw [hs] at hsynced
    have hname : s.name = "db" := Option.some.inj hsynced
    obtain ⟨source, hsource, hcopy, -, hagain, -⟩ :=
      hcopies rfl (Cluster.named_put Cluster.named_empty _) s hs
    have hself := hagain rfl hname.symm
    obtain ⟨s', hs'⟩ := (hself.accepted rfl).2 (.inl (by decide +kernel))
    have htext : source.text? "user" = some "root" := by
      rw [← Option.some.inj hsource]
      decide +kernel
    exact ⟨s, s', rfl, hcopy.texts "user" "root" htext, hs', (hself.written s' hs').2⟩

/-! #### A key that does not read back -/

/-- Without wanted annotations, marking once more exchanges the references only. -/
theorem markedBytes_again {t : DeploymentTarget} (hspec : d.spec.annotations = .empty)
    {first : Option Secret} {second : Secret}
    (hsecond : second.metadata.annotations
      = some ((Tags.ofStored first).marked d.spec t.owner.toString).annotations) :
    let references := withReference t.owner.toString (Tags.ofStored first).listing
    markedBytes t d (some second) + annotationSize referencesAnnotation references
      = markedBytes t d first
        + annotationSize referencesAnnotation (withReference t.owner.toString references) := by
  intro references
  let tags := (Tags.ofStored first).marked d.spec t.owner.toString
  have hstored : (Tags.ofStored (some second)).annotations = tags.annotations :=
    congrArg (·.getD .empty) hsecond
  have hlisting : ((Tags.ofStored first).wanting d.spec).listing
      = (Tags.ofStored first).listing := by
    rw [Tags.listing_wanting, hspec, SortedMap.get?_empty]
    rfl
  have hreferences : tags.annotations.get? referencesAnnotation = some references := by
    rw [Tags.get?_annotations_marked, if_neg (by decide), if_pos rfl, hlisting]
  have hmanager : tags.annotations.get? managerAnnotation = some t.owner.toString := by
    rw [Tags.get?_annotations_marked, if_pos rfl]
  have hlisted : (Tags.ofStored (some second)).listing = references := by
    unfold Tags.listing
    rw [hstored, hreferences, Option.getD_some]
  have hbytes := @markedBytes_eq t d (some second) hspec
  dsimp only at hbytes
  rw [hlisted, hstored, SortedMap.weightAt_of_get? annotationSize hreferences,
    SortedMap.weightAt_of_get? annotationSize hmanager] at hbytes
  have hsize : annotationBytes tags.annotations = markedBytes t d first := rfl
  omega

/-- A target whose owner has a key with a blank at its end. -/
def untrimmedTarget : DeploymentTarget :=
  .inNamespace { name := "db" } "app" ⟨"team-a", "creds "⟩ ""

theorem toString_untrimmed : untrimmedTarget.owner.toString = "team-a/creds " := by decide

section
variable {note : String} {first : Secret}
  (hfirst : first.metadata.annotations = (notedSecret note).metadata.annotations)
include hfirst

theorem annotations_noted :
    (Tags.ofStored (some first)).annotations = SortedMap.empty.insert "note" note := by
  show first.metadata.annotations.getD .empty = _
  rw [hfirst]
  rfl

theorem get?_noted {k : String} (hk : k ≠ "note") :
    (Tags.ofStored (some first)).annotations.get? k = none := by
  rw [annotations_noted hfirst, SortedMap.get?_insert, if_neg hk, SortedMap.get?_empty]

theorem listing_noted : (Tags.ofStored (some first)).listing = "" := by
  unfold Tags.listing
  rw [get?_noted hfirst (by decide), Option.getD_none]

/-- A note of this size leaves just enough room for the tags. -/
theorem markedBytes_noted (hsize : note.utf8ByteSize = 262037) (data : SecretData) :
    markedBytes untrimmedTarget (desired ⟨untrimmedTarget, .ofTags⟩ false data) (some first)
      = annotationLimit := by
  have hbytes := @markedBytes_eq untrimmedTarget (desired ⟨untrimmedTarget, .ofTags⟩ false data)
    (some first) rfl
  have hnote : annotationBytes (Tags.ofStored (some first)).annotations = 262041 := by
    have hkey : "note".utf8ByteSize = 4 := by decide
    have hsum := (SortedMap.empty : SortedMap String).sumOf_insert annotationSize "note" note
    rw [annotationSize, hkey, hsize] at hsum
    rw [annotations_noted hfirst, annotationBytes_eq_sumOf]
    exact hsum
  have hweight {k : String} (hk : k ≠ "note") :
      (Tags.ofStored (some first)).annotations.weightAt annotationSize k = 0 := by
    unfold SortedMap.weightAt
    rw [get?_noted hfirst hk, Option.map_none, Option.getD_none]
  have hreferences : annotationSize referencesAnnotation
      (withReference "team-a/creds " "") = 51 := by decide +kernel
  have hmanager : annotationSize managerAnnotation "team-a/creds " = 52 := by decide +kernel
  dsimp only at hbytes
  rw [hnote, listing_noted hfirst, toString_untrimmed, hreferences, hmanager, hweight (by decide),
    hweight (by decide)] at hbytes
  have hlimit : annotationLimit = 262144 := rfl
  omega

/-- The key does not read back, so marking once more adds it once more. -/
theorem not_fits_again (hsize : note.utf8ByteSize = 262037) (data : SecretData) {second : Secret}
    (hsecond : second.metadata.annotations = some ((Tags.ofStored (some first)).marked
      untrimmedTarget.spec untrimmedTarget.owner.toString).annotations) :
    ¬Fits untrimmedTarget (desired ⟨untrimmedTarget, .ofTags⟩ false data) (some second) := by
  rintro (hmanaged | hsmall)
  · have htrim := Ownership.trim_of_isManagedBy hmanaged
    revert htrim
    decide +kernel
  · have hagain := markedBytes_again (t := untrimmedTarget)
      (d := desired ⟨untrimmedTarget, .ofTags⟩ false data) rfl hsecond
    have hreferences : annotationSize referencesAnnotation (withReference "team-a/creds " "")
        < annotationSize referencesAnnotation (withReference "team-a/creds "
            (withReference "team-a/creds " "")) := by
      decide +kernel
    dsimp only at hagain
    rw [listing_noted hfirst, markedBytes_noted hfirst hsize data, toString_untrimmed] at hagain
    omega

end

/-- With a note of this size, a secret is copied over itself and cannot be copied once more. -/
theorem refused_again {note : String} (hsize : note.utf8ByteSize = 262037) :
    let h : Handler := ⟨untrimmedTarget, .ofTags⟩
    let copy := h.sync (sourceSecret ⟨"app", "db"⟩) false
    let o := copy.run storeServer (Cluster.empty.put (notedSecret note))
    (∃ s, o.result = .ok s ∧ s.name = "db") ∧
      ∃ size, annotationLimit < size ∧ (copy.run storeServer o.state).result
        = .error (h.failure (.marking (.annotationsTooLarge size annotationLimit))) := by
  intro h copy o
  let key : OwnerKey := ⟨"app", "db"⟩
  let c : Cluster StoreError := Cluster.empty.put (notedSecret note)
  have hnamed : c.Named := Cluster.named_put Cluster.named_empty _
  have hfree : ReferencedSet.delimiter ∉ h.target.owner.toString.toList := by decide
  obtain ⟨first, hfirst, hname, hannotations⟩ : ∃ first,
      c.secret? key.ns key.name = some first ∧ first.name = "db" ∧
      first.metadata.annotations = (notedSecret note).metadata.annotations :=
    ⟨_, rfl, rfl, rfl⟩
  have heffective : h.target.effectiveName false = "db" := rfl
  -- The first sync fits.
  have hstored : c.secret? h.target.ns first.name = some first := by
    rw [hname]
    exact hfirst
  obtain ⟨hanswer, hreads⟩ := DataProvider.sourceSecret_of_stored rfl hfirst
  obtain ⟨p, hp⟩ := prepared_of_fits hfree
    (.inr (Nat.le_of_eq (markedBytes_noted hannotations hsize first.contents)))
  obtain ⟨s, hs, hcontent⟩ := (sync_of_stored rfl (by rw [hname]; decide)
    (heffective.trans hname.symm) hstored hreads hanswer).2 p hp
  have hsname : s.name = "db" := (Secret.name_of_unversioned hcontent).trans
    ((congrArg (·.getD "") (name_of_prepared_some hp).1).trans hname)
  obtain ⟨data, -, ho⟩ := overlays_of_sync rfl hnamed hreads hs
  -- The second one does not.
  have hagain : o.state.secret? key.ns key.name = some s := by
    have hplace := ho.stored
    rw [hsname] at hplace
    exact hplace
  have hunhooked : o.state.hooks = [] := Cluster.unhooked_run rfl _
  obtain ⟨hanswer', hreads'⟩ := DataProvider.sourceSecret_of_stored hunhooked hagain
  have hmarked : s.metadata.annotations = some ((Tags.ofStored (some first)).marked
      untrimmedTarget.spec untrimmedTarget.owner.toString).annotations := by
    obtain ⟨p', version, hp', hs'⟩ := ho.content
    rw [hsname, show c.secret? h.target.ns "db" = some first from hfirst] at hp'
    rw [hs']
    exact (tags_of_prepared hp').2
  have hlarge := not_fits_again hannotations hsize s.contents hmarked
  refine ⟨⟨s, hs, hsname⟩, _, ?_, (sync_of_stored hunhooked (by rw [hsname]; decide)
    (heffective.trans hsname.symm) ho.stored hreads' hanswer').1 _
    (prepared_of_not_fits hfree hlarge)⟩
  exact Nat.not_le.1 fun hsmall => hlarge (.inr hsmall)

/-- A secret is copied over itself, and a further sync from it is refused: the second marking would
need more room than the first one has left. -/
theorem sync_copies_once :
    let h : Handler := ⟨untrimmedTarget, .ofTags⟩
    let copy := h.sync (sourceSecret ⟨"app", "db"⟩) false
    let o := copy.run storeServer (Cluster.empty.put (notedSecret (filler 262037)))
    (∃ s, o.result = .ok s ∧ s.name = "db") ∧
      ∃ size, annotationLimit < size ∧ (copy.run storeServer o.state).result
        = .error (h.failure (.marking (.annotationsTooLarge size annotationLimit))) :=
  refused_again (utf8ByteSize_filler 262037)

end Handler

end SecretSync
