import SecretSync.Binding.Handler
import SecretSync.Proofs.Program.Steps

/-!
# `SecretSync.Proofs.Binding.Reads`: the two operations that only read, as trees

Looking for a stale secret makes one request or none, and so does listing.
`getStale_eq` and `list_eq` write the two down, with the reports about the
reply in `reporting`; `staleAnswer` and `listingAnswer` are what the reply
amounts to.
-/

set_option autoImplicit false

namespace SecretSync

namespace Handler

/-! ### Stale secrets -/

/-- What is reported about the secret of a name that no longer fits. -/
def staleReport (h : Handler) (previous : String) : Except StoreError Secret → List Event
  | .ok _ =>
    [.log ⟨.info, logOrigin, "secret no longer corresponds to the target spec",
      [("target_key", .text h.target.owner.toString), ("target_type", .text h.target.kind),
        ("namespace", .text h.target.ns), ("secret", .text previous)]⟩,
      .measure .staleFound]
  | .error e =>
    if e.isNotFound then
      [.log ⟨.debug, logOrigin, "previous secret already gone, nothing stale",
        [("namespace", .text h.target.ns), ("secret", .text previous)]⟩]
    else []

/-- What the read of a name that no longer fits amounts to. -/
def staleAnswer (h : Handler) (previous : String) :
    Except StoreError Secret → Except SyncError (Option Secret)
  | .ok secret => .ok (some secret)
  | .error e =>
    if e.isNotFound then .ok none
    else .error (h.failure (.staleDetection h.target.ns previous e))

/-- A stale secret is looked for only if there is a recorded name that no longer fits. -/
theorem getStale_eq (h : Handler) :
    h.getStale = match h.target.previousName with
      | none => .done (.ok none)
      | some previous =>
        if h.target.corresponds previous then .done (.ok none)
        else .request (.get h.target.ns previous) fun reply =>
          Program.reporting (h.staleReport previous reply)
            (.done (h.staleAnswer previous reply)) := by
  unfold getStale
  cases h.target.previousName with
  | none => rfl
  | some previous =>
    dsimp only
    by_cases hfits : h.target.corresponds previous = true
    · rw [if_pos hfits, if_pos hfits]
      rfl
    · rw [if_neg hfits, if_neg hfits]
      refine congrArg (Program.request _) (funext fun reply => ?_)
      cases reply with
      | ok secret => rfl
      | error e => cases e <;> rfl

/-! ### Listing -/

/-- What is reported about the candidates of a listing. -/
def listingReport (h : Handler) (filter : ListFilter) : Except StoreError (List Secret) → List Event
  | .error _ => []
  | .ok candidates =>
    .log ⟨.debug, logOrigin, "listing secrets managed by target",
      [("target_type", .text h.target.kind), ("target_key", .text h.target.owner.toString),
        ("namespace", .text h.target.ns), ("selector", .text filter.selector),
        ("candidates", .number candidates.length)]⟩ ::
      match h.managedOf candidates with
      | .error _ => []
      | .ok _ => [.measure .listed]

/-- What the candidates of a listing amount to. -/
def listingAnswer (h : Handler) :
    Except StoreError (List Secret) → Except SyncError (List Secret)
  | .error e => .error (h.failure (.list (.store e)))
  | .ok candidates => (h.managedOf candidates).mapError fun e => h.failure (.list e)

/-- A listing asks for the candidates, unless the owner cannot be searched for. -/
theorem list_eq (h : Handler) :
    h.list = match h.marker.managedFilter h.target.owner with
      | .error e => .done (.error (h.failure (.list (.options e))))
      | .ok filter => .request (.list h.target.ns filter) fun reply =>
          Program.reporting (h.listingReport filter reply) (.done (h.listingAnswer reply)) := by
  unfold list
  cases h.marker.managedFilter h.target.owner with
  | error e => rfl
  | ok filter =>
    refine congrArg (Program.request _) (funext fun reply => ?_)
    cases reply with
    | error e => rfl
    | ok candidates =>
      -- Whether every owner is clear decides about the last report and the result.
      cases hm : h.managedOf candidates with
      | error e =>
        simp only [Program.done_bind, listingReport, listingAnswer, hm]
        rfl
      | ok managed =>
        simp only [Program.done_bind, listingReport, listingAnswer, hm]
        rfl

end Handler

end SecretSync
