import ObjectStorage.Proofs.Layer.Attempts
import ObjectStorage.Proofs.Layer.Journal
import ObjectStorage.Proofs.Operator

/-!
# How often a call gets to a place between layers

Where all layers above a place let every call in, a call gets there once, and once more for each
time that the innermost of those layers that try again does so.  All attempts but the last one
failed for now there, and so did the last one only if no more retries were left.  The call ends as
its last attempt did there, with what the layers above make of it.

* `Layer.LetsIn` — the layers that let every call in;
* `Tried` — the attempts of one call at a place between layers;
* `Stack.tries_call`, `Stack.tried_callVisits` — the attempts of every call, by induction on the
  layers above the place;
* `Stack.kind_handedOn` — the kind of its error, which no layer changes.
-/

namespace ObjectStorage

variable {σ ρ π τ α : Type}

/-- Does a layer let every call through to the layers inside? -/
def Layer.LetsIn : Layer → Prop
  | .limit _ | .index _ => False
  | .context | .retry _ | .logging | .metrics => True

/-- How often layers try again at most. -/
def Stack.retries (layers : List Layer) : Nat := (innermostBackoff? layers).elim 0 (·.maxTimes)

theorem Stack.retries_of_not_mem {layers : List Layer} (h : ∀ b, .retry b ∉ layers) :
    retries layers = 0 := by
  have hnone : layers.filterMap Layer.backoff? = [] := by
    refine List.filterMap_eq_nil_iff.2 fun layer hmem => ?_
    cases layer with
    | retry b => exact absurd hmem (h b)
    | context | limit n | index paths | logging | metrics => rfl
  rw [retries, innermostBackoff?, hnone]
  rfl

/-- **The attempts of one call** at a place between layers: the errors of those that failed for now,
and how the last one ended. -/
structure Tried (operation : Operation) (retries : Nat) (errors : List Error)
    (last : Except Stop Unit) (visits : List Visit) : Prop where
  visits_eq : visits = errors.map (fun e => ⟨operation, .error (.failed e)⟩) ++ [⟨operation, last⟩]
  temporary : ∀ e ∈ errors, e.isTemporary = true
  length_le : errors.length ≤ retries
  /-- The last attempt failed for now only if no more retries were left. -/
  exhausted {e : Error} (h : last = .error (.failed e)) (htemporary : e.isTemporary = true) :
    errors.length = retries

/-- Without retries there is one attempt. -/
theorem Tried.visits_eq_of_once {operation : Operation} {errors : List Error}
    {last : Except Stop Unit} {visits : List Visit} (h : Tried operation 0 errors last visits) :
    visits = [⟨operation, last⟩] := by
  obtain rfl := List.length_eq_zero_iff.1 (Nat.le_zero.1 h.length_le)
  exact h.visits_eq

/-- In every run of an operation the journal tells its attempts, and it ends as the last one did but
for what became of the error. -/
def Run.Tries (operation : Operation) (retries : Nat) (passed : Error → Error)
    (x : Run (σ × List Visit) α) : Prop :=
  ∀ w, ∃ errors last visits, (x w).2.service.2 = w.service.2 ++ visits
    ∧ Tried operation retries errors last visits
    ∧ endingOf (x w).1 = last.mapError (Stop.map passed)

/-! ### Trying again -/

namespace Retry

variable {b : Backoff} {operation : Operation} {path : String} {x : Run τ α} {w w' : World τ}

theorem lastTry_of_temporary {e : Error} (h : x w = (.error (.failed e), w'))
    (he : e.isTemporary = true) (left : Nat) :
    lastTry b operation path x (left + 1) w
      = lastTry b operation path x left { w' with events := w'.events ++ [.retrying operation path
          (b.maxTimes - left) (b.delay (b.maxTimes - left)) e] } := by
  rw [lastTry, h]
  exact if_pos he

/-- An attempt that does not fail for now is the last one. -/
theorem lastTry_of_ends (h : ∀ e, (x w).1 = .error (.failed e) → e.isTemporary = false)
    (left : Nat) : lastTry b operation path x left w = w := by
  cases left with
  | zero => rfl
  | succ left =>
    rw [lastTry]
    rcases hx : x w with ⟨(e | _) | a, w'⟩
    · have he : e.isTemporary = false := h e (by rw [hx])
      exact if_neg (by simp [he])
    · rfl
    · rfl

end Retry

namespace Run

theorem mapError_id (last : Except Stop α) : last.mapError (Stop.map id) = last := by
  rcases last with stop | a
  · exact congrArg Except.error stop.map_id
  · rfl

theorem mapError_comp (f g : Error → Error) (last : Except Stop α) :
    (last.mapError (Stop.map g)).mapError (Stop.map f) = last.mapError (Stop.map (f ∘ g)) := by
  rcases last with (e | _) | a <;> rfl

variable {operation : Operation} {retries : Nat} {passed : Error → Error}
  {x : Run (σ × List Visit) α}

/-- Where nobody tries again there is one attempt. -/
theorem tries_journaled (hx : ∀ w, (x w).2.service.2 = w.service.2) (operation : Operation) :
    (x.journaled operation).Tries operation 0 id := by
  intro w
  refine ⟨[], endingOf (x w).1, [⟨operation, endingOf (x w).1⟩], ?_, ⟨rfl, nofun, Nat.le_refl 0,
    fun _ _ => rfl⟩, (mapError_id _).symm⟩
  show (x w).2.service.2 ++ _ = _
  rw [hx]

theorem Tries.once (hx : x.Tries operation 0 passed) (w : World (σ × List Visit)) :
    ∃ last, (x w).2.service.2 = w.service.2 ++ [⟨operation, last⟩]
      ∧ endingOf (x w).1 = last.mapError (Stop.map passed) := by
  obtain ⟨errors, last, visits, hjournal, htried, hending⟩ := hx w
  exact ⟨last, by rw [hjournal, htried.visits_eq_of_once], hending⟩

/-- **The attempts before the last one**, where nobody inside tries again.  By induction on the
retries that are left. -/
theorem Tries.lastTry (hx : x.Tries operation 0 passed)
    (hpassed : ∀ e, (passed e).isTemporary = e.isTemporary) (b : Backoff) (path : String)
    (left : Nat) (w : World (σ × List Visit)) :
    ∃ errors : List Error,
      (Retry.lastTry b operation path x left w).service.2
        = w.service.2 ++ errors.map (fun e => ⟨operation, .error (.failed e)⟩)
      ∧ (∀ e ∈ errors, e.isTemporary = true) ∧ errors.length ≤ left
      ∧ ∀ e, (x (Retry.lastTry b operation path x left w)).1 = .error (.failed e) →
        e.isTemporary = true → errors.length = left := by
  induction left generalizing w with
  | zero => exact ⟨[], (List.append_nil _).symm, nofun, Nat.le_refl 0, fun _ _ _ => rfl⟩
  | succ left ih =>
    by_cases hends : ∀ e, (x w).1 = .error (.failed e) → e.isTemporary = false
    · rw [Retry.lastTry_of_ends hends]
      refine ⟨[], (List.append_nil _).symm, nofun, Nat.zero_le _, fun e hfailed htemporary => ?_⟩
      rw [hends e hfailed] at htemporary
      cases htemporary
    · push Not at hends
      obtain ⟨e, hfailed, htemporary⟩ := hends
      rw [Bool.ne_false_iff] at htemporary
      rw [Retry.lastTry_of_temporary (Prod.ext hfailed rfl) htemporary]
      obtain ⟨last, hjournal, hending⟩ := hx.once w
      obtain ⟨errors, hrest, hall, hlength, hexhausted⟩ := ih { (x w).2 with
        events := (x w).2.events ++ [.retrying operation path (b.maxTimes - left)
          (b.delay (b.maxTimes - left)) e] }
      -- what failed for now here failed for now at the journal
      obtain ⟨e', rfl, rfl⟩ : ∃ e', last = .error (.failed e') ∧ e = passed e' := by
        rw [hfailed] at hending
        rcases last with (e' | _) | a
        · cases hending
          exact ⟨e', rfl, rfl⟩
        · cases hending
        · cases hending
      refine ⟨e' :: errors, ?_, ?_, Nat.succ_le_succ hlength, fun e hlast he => ?_⟩
      · rw [hrest]
        show (x w).2.service.2 ++ _ = _
        rw [hjournal, List.append_assoc]
        rfl
      · exact List.forall_mem_cons.2 ⟨(hpassed e').symm.trans htemporary, hall⟩
      · exact congrArg Nat.succ (hexhausted e hlast he)

end Run

/-! ### Layers -/

namespace Layer

variable {info : ServiceInfo} {form : Form} {path : String} {action : Action} {layer : Layer}
  {retries : Nat} {handed : Error → Error}
  {inner : Run (σ × List Visit) (Reply (Reader ρ) (Pager π) action)}

theorem endingOf_outcome (layer : Layer)
    (result : Except Stop (Reply (Reader ρ) (Pager π) action)) :
    endingOf (outcome info form path action layer result)
      = (endingOf result).mapError (Stop.map (passed info form path action layer)) := by
  rcases result with (e | _) | reply <;> rfl

/-- A layer that lets calls in and does not try again leaves the attempts as they are. -/
theorem tries_around (hopen : layer.LetsIn) (hretry : ∀ b, layer ≠ .retry b)
    (hinner : inner.Tries (action.operation form) retries handed) :
    (layer.around info form path action inner).Tries (action.operation form) retries
      (passed info form path action layer ∘ handed) := by
  intro w
  rw [around_eq]
  cases henter : enter info form path action inner layer w with
  | inr answer =>
    obtain ⟨n, stop, w', rfl, -⟩ | ⟨paths, reply, rfl, -⟩ := enter_answer henter
    · exact hopen.elim
    · exact hopen.elim
  | inl v =>
    obtain ⟨errors, last, visits, hjournal, htried, hending⟩ := hinner v
    refine ⟨errors, last, visits, ?_, htried, ?_⟩
    · rw [service_noted, hjournal, service_enter hretry henter]
    · rw [endingOf_outcome, hending, Run.mapError_comp]

/-- Of what is not for now any more there are no more attempts. -/
theorem tries_retry_of_some (b : Backoff) (hhanded : ∀ e, (handed e).isTemporary = false)
    (hinner : inner.Tries (action.operation form) retries handed) :
    (Layer.around info form path action inner (.retry b)).Tries (action.operation form) retries
      (passed info form path action (.retry b) ∘ handed) := by
  intro w
  rw [around_eq]
  have hends : ∀ e, (inner w).1 = .error (.failed e) → e.isTemporary = false := by
    intro e hfailed
    obtain ⟨errors, last, visits, -, -, hending⟩ := hinner w
    rw [hfailed] at hending
    rcases last with (e' | _) | a
    · cases hending
      exact hhanded e'
    · cases hending
    · cases hending
  dsimp only [enter]
  rw [Retry.lastTry_of_ends hends]
  obtain ⟨errors, last, visits, hjournal, htried, hending⟩ := hinner w
  refine ⟨errors, last, visits, ?_, htried, ?_⟩
  · rw [service_noted, hjournal]
  · rw [endingOf_outcome, hending, Run.mapError_comp]

/-- **The innermost layer that tries again** makes the attempts. -/
theorem tries_retry_of_none (b : Backoff) (hhanded : ∀ e, (handed e).isTemporary = e.isTemporary)
    (hinner : inner.Tries (action.operation form) 0 handed) :
    (Layer.around info form path action inner (.retry b)).Tries (action.operation form) b.maxTimes
      (passed info form path action (.retry b) ∘ handed) := by
  intro w
  rw [around_eq]
  dsimp only [enter]
  obtain ⟨errors, hbefore, hall, hlength, hexhausted⟩ := hinner.lastTry hhanded b path b.maxTimes w
  obtain ⟨last, hjournal, hending⟩ :=
    hinner.once (Retry.lastTry b (action.operation form) path inner b.maxTimes w)
  refine ⟨errors, last, _, ?_, ⟨rfl, hall, hlength, ?_⟩, ?_⟩
  · rw [service_noted, hjournal, hbefore, List.append_assoc]
  · rintro e rfl htemporary
    have hfailed : (inner (Retry.lastTry b (action.operation form) path inner b.maxTimes w)).1
        = .error (.failed (handed e)) := by
      generalize (inner (Retry.lastTry b (action.operation form) path inner b.maxTimes w)).1
        = result at hending
      rcases result with (e' | _) | reply <;> cases hending
      rfl
    exact hexhausted _ hfailed ((hhanded e).trans htemporary)
  · rw [endingOf_outcome, hending, Run.mapError_comp]

end Layer

namespace Stack

variable (service : Service σ ρ π) (form : Form) (path : String) (action : Action)

/-- What layers hand on is for now only if none of them tries again. -/
theorem isTemporary_handedOn (above : List Layer) (e : Error) :
    (handedOn service form path action above e).isTemporary
      = (e.isTemporary && (innermostBackoff? above).isNone) := by
  induction above with
  | nil => exact (Bool.and_true _).symm
  | cons layer above ih =>
    cases layer with
    | retry b =>
      rw [innermostBackoff?_retry, Option.isNone_some, Bool.and_false]
      exact Retry.isTemporary_conclude b _
    | context =>
      exact (isTemporary_callError service.info.scheme form path action _).trans ih
    | limit n | index paths | logging | metrics => exact ih

/-- No layer changes the kind of an error. -/
theorem kind_handedOn (above : List Layer) (e : Error) :
    (handedOn service form path action above e).kind = e.kind := by
  induction above with
  | nil => rfl
  | cons layer above ih =>
    cases layer with
    | context => exact (Operator.kind_callError service.info.scheme form path action _).trans ih
    | retry b =>
      refine Eq.trans ?_ ih
      show (Retry.conclude b _).kind = _
      rw [Retry.conclude]
      split <;> rfl
    | limit n | index paths | logging | metrics => exact ih

/-- **The attempts of a call** at the journal between layers, where all layers above let every call
in.  By induction on those layers. -/
theorem tries_call {above : List Layer} (habove : ∀ layer ∈ above, layer.LetsIn)
    (inside : List Layer) :
    (journaledCall service above inside form path action).Tries (action.operation form)
      (retries above) (handedOn service form path action above) := by
  induction above with
  | nil => exact Run.tries_journaled (journal_call service inside form path action) _
  | cons layer above ih =>
    have hinner := ih fun layer' hmem => habove layer' (List.mem_cons_of_mem layer hmem)
    have hopen := habove layer List.mem_cons_self
    have hhanded := isTemporary_handedOn service form path action above
    cases layer with
    | retry b =>
      rw [retries, innermostBackoff?_retry]
      cases hinnermost : innermostBackoff? above with
      | none =>
        rw [retries, hinnermost] at hinner
        refine Layer.tries_retry_of_none b (fun e => (hhanded e).trans ?_) hinner
        rw [hinnermost, Option.isNone_none, Bool.and_true]
      | some b' =>
        rw [retries, hinnermost] at hinner
        refine Layer.tries_retry_of_some b (fun e => (hhanded e).trans ?_) hinner
        rw [hinnermost, Option.isNone_some, Bool.and_false]
    | limit n | index paths => exact hopen.elim
    | context | logging | metrics => exact Layer.tries_around hopen nofun hinner

/-- **The visits of one call**: they are its attempts, and without the journal it ends as the last
of them did, with what the layers above make of it. -/
theorem tried_callVisits {above : List Layer} (habove : ∀ layer ∈ above, layer.LetsIn)
    (inside : List Layer) (w : World σ) :
    ∃ errors last, Tried (action.operation form) (retries above) errors last
        (callVisits service above inside form path action w)
      ∧ endingOf (call service (above ++ inside) form path action w).1
        = last.mapError (Stop.map (handedOn service form path action above)) := by
  obtain ⟨errors, last, visits, hjournal, htried, hending⟩ :=
    tries_call service form path action habove inside w.journaled
  obtain rfl : callVisits service above inside form path action w = visits := hjournal
  have hcall := journals_call service above inside form path action w.journaled
  exact ⟨errors, last, htried,
    (congrArg (fun ended => endingOf ended.1) hcall).trans hending⟩

end Stack

end ObjectStorage
