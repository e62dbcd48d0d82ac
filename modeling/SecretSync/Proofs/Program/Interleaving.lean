import SecretSync.Proofs.Program.Steps

/-!
# `SecretSync.Proofs.Program.Interleaving`: programs side by side

`Interleaved` is a run of several programs on one server in which any program
may be the next to report an event or to make a request. Its log has every
request with the number of the program that made it.

`Program.weave` runs programs by a schedule. `interleaved_weave` says that the
result is such a run and that the log has exactly the steps of the weave, so
what holds of every interleaving holds of every schedule.
-/

set_option autoImplicit false

namespace SecretSync

namespace Program

variable {I : Interface} {α σ : Type}

/-- A run of programs side by side from a state of the server: the requests with the number of the
program that made each, the results, and the state at the end. -/
inductive Interleaved (server : Server I σ) :
    List (Program I α) → σ → List (Nat × Step I σ) → List α → σ → Prop
  /-- All programs are done. -/
  | finished (results : List α) (s : σ) : Interleaved server (results.map .done) s [] results s
  /-- Some program reports an event. -/
  | emit {ps : List (Program I α)} {s s' : σ} {log : List (Nat × Step I σ)} {results : List α}
      (i : Nat) (e : Event) (p : Program I α) (hi : ps[i]? = some (.emit e p))
      (rest : Interleaved server (ps.set i p) s log results s') :
      Interleaved server ps s log results s'
  /-- Some program makes a request. -/
  | request {ps : List (Program I α)} {s s' : σ} {log : List (Nat × Step I σ)} {results : List α}
      (i : Nat) (r : I.Request) (k : I.Reply r → Program I α) (hi : ps[i]? = some (.request r k))
      (rest : Interleaved server (ps.set i (k (server r s).1)) (server r s).2 log results s') :
      Interleaved server ps s ((i, stepOf server r s) :: log) results s'

variable {server : Server I σ} {ps : List (Program I α)} {s s' : σ}
  {log : List (Nat × Step I σ)} {results : List α}

/-- Every program has one result. -/
theorem Interleaved.length_eq (h : Interleaved server ps s log results s') :
    results.length = ps.length := by
  induction h with
  | finished results s => exact (List.length_map _).symm
  | emit i e p hi rest ih => rw [ih, List.length_set]
  | request i r k hi rest ih => rw [ih, List.length_set]

/-! ### Schedules -/

/-- Setting an element to what it is changes nothing. -/
theorem set_of_getElem? {β : Type} {l : List β} {i : Nat} {a : β} (h : l[i]? = some a) :
    l.set i a = l := by
  obtain ⟨hlt, rfl⟩ := List.getElem?_eq_some_iff.1 h
  exact List.set_getElem_self hlt

theorem getElem?_set_of_getElem? {β : Type} {l : List β} {i : Nat} {a : β} (h : l[i]? = some a)
    (b : β) : (l.set i b)[i]? = some b :=
  List.getElem?_set_self (List.getElem?_eq_some_iff.1 h).1

/-- A program may report its events up to its next request. -/
theorem interleaved_of_settle {i : Nat} {p : Program I α} (hi : ps[i]? = some p)
    (h : Interleaved server (ps.set i p.settle.2) s log results s') :
    Interleaved server ps s log results s' := by
  induction p generalizing ps with
  | done a =>
    rw [show (settle (.done a)).2 = .done a from rfl, set_of_getElem? hi] at h
    exact h
  | request r k ih =>
    rw [show (settle (.request r k)).2 = .request r k from rfl, set_of_getElem? hi] at h
    exact h
  | emit e p ih =>
    refine .emit i e p hi (ih (getElem?_set_of_getElem? hi p) ?_)
    rwa [List.set_set]

/-- A program may run to its end before any other one goes on. -/
theorem interleaved_of_run {i : Nat} {p : Program I α} (hi : ps[i]? = some p)
    (h : Interleaved server (ps.set i (.done (p.run server s).result)) (p.run server s).state
      log results s') :
    Interleaved server ps s ((p.steps server s).map (i, ·) ++ log) results s' := by
  induction p generalizing ps s with
  | done a =>
    rw [run_done, set_of_getElem? hi] at h
    exact h
  | emit e p ih =>
    refine .emit i e p hi (ih (getElem?_set_of_getElem? hi p) ?_)
    rwa [List.set_set]
  | request r k ih =>
    refine .request i r k hi (ih _ (getElem?_set_of_getElem? hi _) ?_)
    rwa [List.set_set]

/-- Programs that run one after the other, when others are done already. -/
theorem interleaved_sequence (earlier : List α) (ps : List (Program I α)) (s : σ) :
    ∃ log, Interleaved server (earlier.map .done ++ ps) s log
        (earlier ++ ((sequence ps).run server s).result) ((sequence ps).run server s).state ∧
      log.map Prod.snd = (sequence ps).steps server s := by
  induction ps generalizing earlier s with
  | nil =>
    -- Everything is done, and the log is empty.
    refine ⟨[], ?_, rfl⟩
    show Interleaved server (earlier.map .done ++ []) s [] (earlier ++ []) s
    rw [List.append_nil, List.append_nil]
    exact .finished earlier s
  | cons p rest ih =>
    obtain ⟨log, hlog, hsteps⟩ := ih (earlier ++ [(p.run server s).result]) (p.run server s).state
    -- The first program stands where the finished ones end.
    have hat : (earlier.map .done ++ p :: rest)[earlier.length]? = some p := by
      rw [List.getElem?_append_right (by simp)]
      simp
    have hset : (earlier.map done ++ p :: rest).set earlier.length (.done (p.run server s).result)
        = (earlier ++ [(p.run server s).result]).map done ++ rest := by
      rw [List.set_append_right _ _ (by simp)]
      simp
    refine ⟨(p.steps server s).map (earlier.length, ·) ++ log, ?_, ?_⟩
    · refine interleaved_of_run hat ?_
      rw [hset]
      simpa [sequence, run_bind] using hlog
    · rw [List.map_append, hsteps, List.map_map]
      simp [sequence, steps_bind, Function.comp_def]

/-- A schedule gives an interleaving, with the steps of the weave. -/
theorem interleaved_weave (server : Server I σ) (schedule : List Nat) (ps : List (Program I α))
    (s : σ) :
    ∃ log, Interleaved server ps s log ((weave schedule ps).run server s).result
        ((weave schedule ps).run server s).state ∧
      log.map Prod.snd = (weave schedule ps).steps server s := by
  induction schedule generalizing ps s with
  | nil => exact interleaved_sequence [] ps s
  | cons i schedule ih =>
    unfold weave
    cases hi : ps[i]? with
    | none => exact ih ps s
    | some p =>
      simp only [tellAll_bind, run_reporting, steps_reporting]
      have hsettle : ∀ log results s', Interleaved server (ps.set i p.settle.2) s log results s' →
          Interleaved server ps s log results s' := by
        intro log results s' h
        exact interleaved_of_settle hi h
      -- What is left of the program after its events may only be done or about to ask.
      generalize p.settle.2 = q at hsettle ⊢
      cases q with
      | done a =>
        obtain ⟨log, hlog, hsteps⟩ := ih (ps.set i (.done a)) s
        exact ⟨log, hsettle _ _ _ hlog, hsteps⟩
      | emit e q =>
        obtain ⟨log, hlog, hsteps⟩ := ih (ps.set i (.emit e q)) s
        exact ⟨log, hsettle _ _ _ hlog, hsteps⟩
      | request r k =>
        obtain ⟨log, hlog, hsteps⟩ := ih (ps.set i (k (server r s).1)) (server r s).2
        refine ⟨(i, stepOf server r s) :: log, hsettle _ _ _ (.request i r k ?_ ?_),
          congrArg (stepOf server r s :: ·) hsteps⟩
        · exact getElem?_set_of_getElem? hi _
        · rwa [List.set_set]

end Program

end SecretSync
