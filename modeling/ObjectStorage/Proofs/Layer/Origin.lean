import ObjectStorage.Proofs.Layer.Pager

/-!
# Where errors come from

A call that fails goes back to one error, which the service gave or a limit raised, and which the
layers above hand on to the caller; a pull that fails goes back to an error of the service.  Layers
that try again change the error at most once: it is marked as one that retries did not cure by the
innermost of them, and the others leave it alone then.

* `Stack.origin?` — the error that ends a call, with the layers above the place where it arose;
* `Stack.errorOf?_call` — the caller gets that error as those layers hand it on;
* `Stack.raised_of_origin?` — the service or a limit has raised it;
* `Pager.origin?`, `Pager.errorOf?_pull`, `Pager.raised_of_originThrough?` — the
  same for pulls;
* `Stack.innermostBackoff?`, `Error.retriedBy` — what becomes of an error between layers that try
  again.
-/

namespace ObjectStorage

variable {σ ρ π α : Type}

/-- The error that a result is, if it is one. -/
def errorOf? : Except Stop α → Option Error
  | .error (.failed e) => some e
  | _ => none

theorem errorOf?_eq_some_iff {result : Except Stop α} {e : Error} :
    errorOf? result = some e ↔ result = .error (.failed e) := by
  rcases result with (e' | _) | a <;> simp [errorOf?]

theorem errorOf?_mapError {β : Type} (f : Error → Error) (g : α → β) (result : Except Stop α) :
    errorOf? ((result.map g).mapError (Stop.map f)) = (errorOf? result).map f := by
  rcases result with (e | _) | a <;> rfl

/-! ### Calls -/

namespace Stack

section

variable (service : Service σ ρ π) (form : Form) (path : String) (action : Action)

/-- The error that ends a call, with the layers above the service or the limit that raised it. -/
def origin? : List Layer → World σ → Option (List Layer × Error)
  | [], w => match service.call form path action w.service with
    | (.error e, _) => some ([], e)
    | (.ok _, _) => none
  | layer :: layers, w =>
    match layer.enter service.info form path action (call service layers form path action) w with
    | .inl w' => (origin? layers w').map fun (above, e) => (layer :: above, e)
    | .inr answer => (errorOf? answer).map fun e => ([], e)

/-- What layers make of an error from below them. -/
def handedOn (above : List Layer) (e : Error) : Error :=
  above.foldr (Layer.passed service.info form path action) e

/-- **A call fails with the error that ends it, as the layers above hand it on.** -/
theorem errorOf?_call (layers : List Layer) (w : World σ) :
    errorOf? (call service layers form path action w).1
      = (origin? service form path action layers w).map
          fun (above, e) => handedOn service form path action above e := by
  induction layers generalizing w with
  | nil =>
    rw [call_nil, base_eq, origin?]
    rcases service.call form path action w.service with ⟨e | reply, s⟩ <;> rfl
  | cons layer layers ih =>
    rw [call_cons, Layer.around_eq, origin?]
    cases layer.enter service.info form path action (call service layers form path action) w with
    | inl w' =>
      dsimp only [Layer.outcome]
      rw [errorOf?_mapError, ih]
      simp only [Option.map_map]
      rfl
    | inr answer =>
      simp only [Option.map_map]
      exact (Option.map_id_apply).symm

end

/-- An error that the service, below all layers, or a limit among them raises. -/
inductive Raised (service : Service σ ρ π) (form : Form) (path : String) (action : Action) :
    List Layer → Error → Prop
  | service {s s' : σ} {e : Error} (h : service.call form path action s = (.error e, s')) :
      Raised service form path action [] e
  | limit {n : Nat} (below : List Layer) {w w' : World σ} {e : Error}
      (h : Limit.acquire n (action.operation form) w = (.error (.failed e), w')) :
      Raised service form path action (.limit n :: below) e

variable {service : Service σ ρ π} {form : Form} {path : String} {action : Action}

/-- A layer that answers itself with an error is a limit. -/
theorem raised_of_enter {layer : Layer} {layers : List Layer} {w : World σ} {e : Error}
    (h : layer.enter service.info form path action (call service layers form path action) w
      = .inr (.error (.failed e))) : Raised service form path action (layer :: layers) e := by
  obtain ⟨n, stop, w', rfl, hstop, hacquire⟩ | ⟨paths, reply, -, hreply⟩ := Layer.enter_answer h
  · cases hstop
    exact .limit layers hacquire
  · cases hreply

/-- The error that ends a call was raised below the layers that hand it on. -/
theorem raised_of_origin? {layers above : List Layer} {w : World σ} {e : Error}
    (h : origin? service form path action layers w = some (above, e)) :
    ∃ below, layers = above ++ below ∧ Raised service form path action below e := by
  induction layers generalizing w above with
  | nil =>
    rw [origin?] at h
    cases hcall : service.call form path action w.service with
    | mk answer s =>
      rw [hcall] at h
      cases answer with
      | ok reply => cases h
      | error e' =>
        cases h
        exact ⟨[], rfl, .service hcall⟩
  | cons layer layers ih =>
    rw [origin?] at h
    cases henter : layer.enter service.info form path action
        (call service layers form path action) w with
    | inl w' =>
      rw [henter] at h
      obtain ⟨⟨above', e'⟩, horigin, heq⟩ := Option.map_eq_some_iff.1 h
      cases heq
      obtain ⟨below, rfl, hraised⟩ := ih horigin
      exact ⟨below, rfl, hraised⟩
    | inr answer =>
      rw [henter] at h
      obtain ⟨e', hanswer, heq⟩ := Option.map_eq_some_iff.1 h
      cases heq
      rw [errorOf?_eq_some_iff.1 hanswer] at henter
      exact ⟨layer :: layers, rfl, raised_of_enter henter⟩

end Stack

/-! ### Pulls -/

namespace Pager

section

variable (service : Service σ ρ π) (form : Form) (path : String)

/-- The error of the service that ends a pull through marks. -/
def originThrough? : List PagerMark → World (σ × Progress π) → Option Error
  | [], w => errorOf? (pullSource service form w).1
  | m :: marks, w => originThrough? marks
      (PagerMark.enter form path (pullThrough service form path marks) m w)

/-- What marks make of an error from below them. -/
def handedOn (marks : List PagerMark) (e : Error) : Error :=
  marks.foldr (PagerMark.passed service.info form path) e

theorem errorOf?_pullThrough (marks : List PagerMark) (w : World (σ × Progress π)) :
    errorOf? (pullThrough service form path marks w).1
      = (originThrough? service form path marks w).map (handedOn service form path marks) := by
  induction marks generalizing w with
  | nil => exact (Option.map_id_apply).symm
  | cons m marks ih =>
    have hmap (result : Except Stop Page) (f : Error → Error) :
        errorOf? (result.mapError (Stop.map f)) = (errorOf? result).map f := by
      rcases result with (e | _) | page <;> rfl
    rw [pullThrough_cons, PagerMark.around_eq, hmap, ih, originThrough?, Option.map_map]
    rfl

/-- The error of the service that ends a pull. -/
def origin? (p : Pager π) (w : World σ) : Option Error :=
  originThrough? service form p.path p.marks (p.pullWorld w)

/-- **A pull fails with the error that ends it, as the marks of the pager hand it on.** -/
theorem errorOf?_pull (p : Pager π) (w : World σ) :
    errorOf? (p.pull service form w).1
      = (p.origin? service form w).map (handedOn service form p.path p.marks) :=
  errorOf?_pullThrough service form p.path p.marks (p.pullWorld w)

end

variable {service : Service σ ρ π} {form : Form} {path : String}

/-- The error that ends a pull was given by a pager of the service. -/
theorem raised_of_originThrough? {marks : List PagerMark} {w : World (σ × Progress π)} {e : Error}
    (h : originThrough? service form path marks w = some e) :
    ∃ q s q' s', service.pull form q s = (.error e, q', s') := by
  induction marks generalizing w with
  | nil =>
    obtain ⟨⟨s, source, listed⟩, permits, events, samples, printed⟩ := w
    cases source with
    | ready page => cases h
    | service q =>
      rcases hpull : service.pull form q s with ⟨e' | page, q', s'⟩
      · simp only [originThrough?, pullSource, Run.onService, hpull] at h
        cases h
        exact ⟨q, s, q', s', hpull⟩
      · simp only [originThrough?, pullSource, Run.onService, hpull] at h
        cases h
  | cons m marks ih => exact ih h

/-- A pager that has its page already does not fail. -/
theorem originThrough?_ready (marks : List PagerMark) {w : World (σ × Progress π)}
    (hready : w.service.2.1.isReady = true) : originThrough? service form path marks w = none := by
  induction marks generalizing w with
  | nil =>
    obtain ⟨⟨s, source, listed⟩, permits, events, samples, printed⟩ := w
    cases source with
    | service q => cases hready
    | ready page => rfl
  | cons m marks ih =>
    refine ih ?_
    cases m with
    | context | logged => exact hready
    | retry b =>
      exact Retry.lastTry_keeps b _ path _ (P := fun s : σ × Progress π => s.2.1.isReady = true)
        (fun v hv => (isReady_pullThrough service form path marks v).trans hv) b.maxTimes hready

end Pager

/-- A stack that gives a pager whose pull fails has no index: the pager of an index has its page
already. -/
theorem Stack.IsPagerOf.index_not_mem {service : Service σ ρ π} {form : Form} {path : String}
    {layers : List Layer} {p : Pager π} (hp : IsPagerOf layers path p) {w : World σ} {e : Error}
    (h : p.origin? service form w = some e) : ∀ paths, .index paths ∉ layers := by
  intro paths hmem
  have hnone : p.origin? service form w = none :=
    Pager.originThrough?_ready p.marks (hp.ready_iff.2 ⟨paths, hmem⟩)
  rw [hnone] at h
  cases h

/-! ### Errors between layers that try again -/

namespace Retry

variable {b b' : Backoff} {e : Error}

theorem conclude_of_temporary (h : e.isTemporary = true) :
    conclude b e = e.exhausted b.maxTimes := if_pos h

theorem conclude_of_not_temporary (h : e.isTemporary = false) : conclude b e = e :=
  if_neg (by simp [h])

/-- What retries did not cure is not for now any more. -/
theorem isTemporary_conclude (b : Backoff) (e : Error) : (conclude b e).isTemporary = false := by
  cases h : e.isTemporary with
  | true => rw [conclude_of_temporary h]; rfl
  | false => rw [conclude_of_not_temporary h, h]

/-- Of several layers that try again the innermost one marks the error. -/
theorem conclude_conclude (b b' : Backoff) (e : Error) :
    conclude b (conclude b' e) = conclude b' e :=
  conclude_of_not_temporary (isTemporary_conclude b' e)

end Retry

/-- What becomes of an error below layers the innermost of which to try again is the one given. -/
def Error.retriedBy (e : Error) : Option Backoff → Error
  | none => e
  | some b => Retry.conclude b e

/-- How often a layer tries again, if it does. -/
def Layer.backoff? : Layer → Option Backoff
  | .retry b => some b
  | _ => none

/-- How often a mark tries again, if it does. -/
def PagerMark.backoff? : PagerMark → Option Backoff
  | .retry b => some b
  | _ => none

/-- The innermost of the layers that try again. -/
def Stack.innermostBackoff? (layers : List Layer) : Option Backoff :=
  (layers.filterMap Layer.backoff?).getLast?

/-- Where some steps try again and the others hand errors on as they are, the innermost of the
former decides. -/
theorem foldr_retriedBy {β : Type} (backoff? : β → Option Backoff) (passed : β → Error → Error)
    {steps : List β}
    (h : ∀ x ∈ steps, passed x = match backoff? x with
      | some b => Retry.conclude b
      | none => id) (e : Error) :
    steps.foldr passed e = e.retriedBy (steps.filterMap backoff?).getLast? := by
  induction steps with
  | nil => rfl
  | cons x steps ih =>
    have hx := h x List.mem_cons_self
    rw [List.foldr_cons, ih fun y hy => h y (List.mem_cons_of_mem x hy), hx]
    cases hretry : backoff? x with
    | none => rw [List.filterMap_cons_none hretry]; rfl
    | some b =>
      rw [List.filterMap_cons_some hretry]
      cases hlast : (steps.filterMap backoff?).getLast? with
      | none =>
        rw [List.getLast?_eq_none_iff.1 hlast]
        rfl
      | some b' =>
        -- a layer further inside has marked the error already, and this one leaves it alone
        rw [List.getLast?_cons, hlast]
        exact Retry.conclude_conclude b b' e

/-- Layers that do not tell operation and path hand an error on as retries leave it. -/
theorem Stack.handedOn_eq (service : Service σ ρ π) (form : Form) (path : String) (action : Action)
    {above : List Layer} (h : .context ∉ above) (e : Error) :
    handedOn service form path action above e = e.retriedBy (innermostBackoff? above) := by
  refine foldr_retriedBy Layer.backoff? _ (fun layer hmem => ?_) e
  cases layer with
  | context => exact absurd hmem h
  | retry b | limit n | index paths | logging | metrics => rfl

/-- The marks of layers that do not tell operation and path hand an error on as retries leave it. -/
theorem Pager.handedOn_eq (service : Service σ ρ π) (form : Form) (path : String)
    {marks : List PagerMark} (h : .context ∉ marks) (e : Error) :
    handedOn service form path marks e
      = e.retriedBy (marks.filterMap PagerMark.backoff?).getLast? := by
  refine foldr_retriedBy PagerMark.backoff? _ (fun m hmem => ?_) e
  cases m with
  | context => exact absurd hmem h
  | retry b | logged => rfl

namespace Stack

theorem context_not_mem_marks {layers : List Layer} (h : Layer.context ∉ layers) :
    PagerMark.context ∉ marks layers := by
  induction layers with
  | nil => exact List.not_mem_nil
  | cons layer layers ih =>
    rw [List.mem_cons, not_or] at h
    have hrest := ih h.2
    cases layer with
    | context => exact absurd rfl h.1
    | retry b => simpa [marks] using hrest
    | logging => simpa [marks] using hrest
    | limit n => exact hrest
    | metrics => exact hrest
    | index paths => exact List.not_mem_nil

/-- Without an index the marks try again as the layers do. -/
theorem filterMap_marks {layers : List Layer} (h : ∀ paths, Layer.index paths ∉ layers) :
    (marks layers).filterMap PagerMark.backoff? = layers.filterMap Layer.backoff? := by
  induction layers with
  | nil => rfl
  | cons layer layers ih =>
    have hrest := ih fun paths hmem => h paths (List.mem_cons_of_mem layer hmem)
    cases layer with
    | index paths => exact absurd List.mem_cons_self (h paths)
    | retry b => exact congrArg (b :: ·) hrest
    | context | logging | limit n | metrics => exact hrest

end Stack

end ObjectStorage
