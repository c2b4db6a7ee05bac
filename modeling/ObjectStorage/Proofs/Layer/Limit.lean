import ObjectStorage.Layer

/-!
# Calls behind a limit

A call behind a limit is three things: to take a permit, the call inside, and to settle it.  A call
that fails gives its permit back when it is settled, and so does one whose reply has no handle; a
reader or a pager takes the permit over.

* `Handle` — a reader or a pager that a call has handed out;
* `Layer.settle`, `Layer.around_limit` — a call behind a limit, in its three parts;
* `Layer.around_limit_eq` — the same, by whether a permit is free;
* `Layer.settle_balanced` — what settling a call does to the permits;
* `Run.Respects` — operations that leave a limit alone;
* `Stack.respects_call` — so do calls through a stack without the limit.
-/

namespace ObjectStorage

variable {σ ρ π : Type}

/-! ### Permits -/

namespace Permits

variable {permits : List Nat} {n : Nat}

@[simp] theorem length_giveBack (permits : List Nat) (n : Nat) :
    (giveBack permits n).length = permits.length := List.length_set

theorem free_giveBack (h : n < permits.length) :
    free (giveBack permits n) n = free permits n + 1 := by
  rw [giveBack, free, List.getElem?_set_self h, Option.getD_some]

theorem free_giveBack_ne {m : Nat} (h : m ≠ n) :
    free (giveBack permits m) n = free permits n := by
  rw [giveBack, free, List.getElem?_set_ne h, free]

theorem length_release (limits : List Nat) (permits : List Nat) :
    (limits.foldl giveBack permits).length = permits.length := by
  induction limits generalizing permits with
  | nil => rfl
  | cons m limits ih => rw [List.foldl_cons, ih, length_giveBack]

/-- Every debt that is paid makes one permit free. -/
theorem free_release (limits : List Nat) (h : n < permits.length) :
    free (limits.foldl giveBack permits) n = free permits n + limits.count n := by
  induction limits generalizing permits with
  | nil => rfl
  | cons m limits ih =>
    have hlength : n < (giveBack permits m).length := by rwa [length_giveBack]
    rw [List.foldl_cons, ih hlength]
    by_cases hm : m = n
    · rw [hm, free_giveBack h, List.count_cons_self]
      omega
    · rw [free_giveBack_ne hm, List.count_cons_of_ne hm]

theorem take?_of_free (h : free permits n ≠ 0) :
    take? permits n = some (permits.set n (free permits n - 1)) := if_neg h

theorem take?_of_none (h : free permits n = 0) : take? permits n = none := if_pos h

end Permits

namespace Limit

variable {n : Nat} {w : World σ}

theorem acquire_of_free (h : Permits.free w.permits n ≠ 0) (operation : Operation) :
    acquire n operation w
      = (.ok (), { w with permits := w.permits.set n (Permits.free w.permits n - 1) }) := by
  simp only [acquire, Permits.take?_of_free h]

theorem acquire_of_none (h : Permits.free w.permits n = 0) (operation : Operation) :
    acquire n operation w
      = (.error (if operation.isBlocking then .failed (exceeded operation) else .waiting), w) := by
  simp only [acquire, Permits.take?_of_none h]

/-- The error of a call that finds no permit is one that trying again may cure. -/
theorem exceeded_isTemporary (operation : Operation) :
    (exceeded operation).kind = .objectRateLimited ∧ (exceeded operation).isTemporary = true := by
  refine ⟨?_, rfl⟩
  show ((Error.new .objectRateLimited "no permits left for blocking call").withOperation
    operation.name).kind = _
  rw [Error.kind_withOperation]
  rfl

end Limit

/-! ### Handles -/

/-- A reader or a pager. -/
inductive Handle (ρ π : Type)
  | reader (r : Reader ρ)
  | pager (p : Pager π)

namespace Handle

/-- The limits to which a handle owes a permit. -/
def owes : Handle ρ π → List Nat
  | .reader r => r.owes
  | .pager p => p.owes

/-- Close a handle. -/
def close : Handle ρ π → Run σ Unit
  | .reader r => r.close
  | .pager p => p.close

theorem close_apply (h : Handle ρ π) (w : World σ) :
    h.close w = (.ok (), { w with permits := h.owes.foldl Permits.giveBack w.permits }) := by
  cases h with
  | reader r => rfl
  | pager p => rfl

end Handle

/-- The handles in a reply: a reader, a pager or none. -/
def Reply.handles : (action : Action) → Reply (Reader ρ) (Pager π) action → List (Handle ρ π)
  | .read _, reply => [.reader reply.2]
  | .list, pager => [.pager pager]
  | .create _, _ | .write _ _, _ | .stat, _ | .delete, _ => []

/-- The handles that a call gives; one that fails gives none. -/
def handlesOf (action : Action) :
    Except Stop (Reply (Reader ρ) (Pager π) action) → List (Handle ρ π)
  | .ok reply => Reply.handles action reply
  | .error _ => []

/-! ### The parts of a call -/

namespace Layer

/-- What a limit does when the call inside has ended. -/
def settle (n : Nat) (action : Action) :
    Except Stop (Reply (Reader ρ) (Pager π) action) → Run σ (Reply (Reader ρ) (Pager π) action)
  | .ok reply => handOver n action reply
  | .error e => fun w => (.error e, { w with permits := Permits.giveBack w.permits n })

/-- A call behind a limit takes a permit, goes on inside and is settled; without a permit it does
not get inside. -/
theorem around_limit (info : ServiceInfo) (form : Form) (path : String) (action : Action)
    (inner : Run σ (Reply (Reader ρ) (Pager π) action)) (n : Nat) (w : World σ) :
    Layer.around info form path action inner (.limit n) w
      = match Limit.acquire n (action.operation form) w with
        | (.ok (), w') => settle n action (inner w').1 (inner w').2
        | (.error e, w') => (.error e, w') := by
  rw [around, Limit.holding, Run.bind_apply, Run.bind_apply]
  cases hacquire : Limit.acquire n (action.operation form) w with
  | mk got w' =>
    cases got with
    | error e => rfl
    | ok =>
      dsimp only
      cases inner w' with
      | mk result w'' =>
        cases result with
        | error e => rfl
        | ok reply => rfl

/-- Whether a permit is free decides: without one the service inside is not reached and nothing
changes, and with one the call goes inside and how it ends is settled. -/
theorem around_limit_eq (info : ServiceInfo) (form : Form) (path : String) (action : Action)
    (inner : Run σ (Reply (Reader ρ) (Pager π) action)) (n : Nat) (w : World σ) :
    let taken : World σ :=
      { w with permits := w.permits.set n (Permits.free w.permits n - 1) }
    Layer.around info form path action inner (.limit n) w
      = if Permits.free w.permits n = 0 then
          (.error (if (action.operation form).isBlocking then
            .failed (Limit.exceeded (action.operation form)) else .waiting), w)
        else settle n action (inner taken).1 (inner taken).2 := by
  intro taken
  rw [around_limit]
  by_cases hfree : Permits.free w.permits n = 0
  · rw [Limit.acquire_of_none hfree, if_pos hfree]
  · rw [Limit.acquire_of_free hfree, if_neg hfree]

/-- A call that has ended makes its permit free or leaves it with the handle that it gives. -/
theorem settle_balanced {n : Nat} {action : Action}
    {result : Except Stop (Reply (Reader ρ) (Pager π) action)} {w : World σ}
    (hn : n < w.permits.length) (hfresh : ∀ h ∈ handlesOf action result, n ∉ h.owes) :
    n < (settle n action result w).2.permits.length
      ∧ Permits.free (settle n action result w).2.permits n
          + (handlesOf action (settle n action result w).1).length
        = Permits.free w.permits n + 1
      ∧ ∀ h ∈ handlesOf action (settle n action result w).1, h.owes.count n = 1 := by
  have hback : n < (Permits.giveBack w.permits n).length := by rwa [Permits.length_giveBack]
  cases result with
  | error e => exact ⟨hback, Permits.free_giveBack hn, fun h hh => absurd hh List.not_mem_nil⟩
  | ok reply =>
    cases action with
    | read range =>
      refine ⟨hn, rfl, fun h hh => ?_⟩
      have hfree : n ∉ reply.2.owes := hfresh (.reader reply.2) List.mem_cons_self
      rw [List.mem_singleton.1 hh]
      show (n :: reply.2.owes).count n = 1
      rw [List.count_cons_self, List.count_eq_zero_of_not_mem hfree]
    | list =>
      refine ⟨hn, rfl, fun h hh => ?_⟩
      have hfree : n ∉ reply.owes := hfresh (.pager reply) List.mem_cons_self
      rw [List.mem_singleton.1 hh]
      show (n :: reply.owes).count n = 1
      rw [List.count_cons_self, List.count_eq_zero_of_not_mem hfree]
    | create _ | write _ _ | stat | delete =>
      exact ⟨hback, Permits.free_giveBack hn, fun h hh => absurd hh List.not_mem_nil⟩

end Layer

/-! ### Operations that leave a limit alone -/

namespace Run

variable {α β : Type} {n : Nat} {P : α → Prop} {Q : β → Prop}

/-- The operation leaves the permits of a limit alone, and its values have a property. -/
def Respects (n : Nat) (P : α → Prop) (x : Run σ α) : Prop :=
  ∀ w, (x w).2.permits[n]? = w.permits[n]? ∧ ∀ a, (x w).1 = .ok a → P a

theorem respects_pure {a : α} (h : P a) : Respects n P (pure a : Run σ α) :=
  fun _ => ⟨rfl, fun _ heq => Except.ok.inj heq ▸ h⟩

theorem respects_fail (e : Error) : Respects n P (fail e : Run σ α) :=
  fun _ => ⟨rfl, fun _ heq => by cases heq⟩

theorem respects_log (e : Event) : Respects n (fun _ => True) (log e : Run σ Unit) :=
  fun _ => ⟨rfl, fun _ _ => trivial⟩

theorem respects_measure (s : Sample) : Respects n (fun _ => True) (measure s : Run σ Unit) :=
  fun _ => ⟨rfl, fun _ _ => trivial⟩

theorem respects_ofExcept {r : Except Error α} (h : ∀ a, r = .ok a → P a) :
    Respects n P (ofExcept r : Run σ α) := by
  cases r with
  | ok a => exact respects_pure (h a rfl)
  | error e => exact respects_fail e

theorem respects_bind {x : Run σ α} {f : α → Run σ β} (hx : Respects n P x)
    (hf : ∀ a, P a → Respects n Q (f a)) : Respects n Q (x >>= f) := by
  intro w
  obtain ⟨hkeeps, hvalue⟩ := hx w
  rw [bind_apply]
  cases hrun : x w with
  | mk result w' =>
    rw [hrun] at hkeeps hvalue
    cases result with
    | error e => exact ⟨hkeeps, fun _ heq => by cases heq⟩
    | ok a =>
      obtain ⟨hnext, hgives⟩ := hf a (hvalue a rfl) w'
      exact ⟨hnext.trans hkeeps, hgives⟩

theorem respects_attempt {x : Run σ α} (hx : Respects n P x) :
    Respects n (fun r => ∀ a, r = .ok a → P a) x.attempt := by
  intro w
  obtain ⟨hkeeps, hvalue⟩ := hx w
  cases hrun : x w with
  | mk result w' =>
    rw [hrun] at hkeeps hvalue
    simp only [attempt, hrun]
    cases result with
    | ok a =>
      refine ⟨hkeeps, fun r heq b hb => hvalue b ?_⟩
      rw [← Except.ok.inj heq] at hb
      rw [Except.ok.inj hb]
    | error stop =>
      cases stop with
      | failed e =>
        refine ⟨hkeeps, fun r heq b hb => ?_⟩
        rw [← Except.ok.inj heq] at hb
        cases hb
      | waiting => exact ⟨hkeeps, fun _ heq => by cases heq⟩

theorem respects_mapError {x : Run σ α} (hx : Respects n P x) (f : Error → Error) :
    Respects n P (x.mapError f) := by
  intro w
  obtain ⟨hkeeps, hvalue⟩ := hx w
  cases hrun : x w with
  | mk result w' =>
    rw [hrun] at hkeeps hvalue
    simp only [mapError, hrun]
    cases result with
    | ok a => exact ⟨hkeeps, hvalue⟩
    | error stop =>
      cases stop with
      | failed e => exact ⟨hkeeps, fun _ heq => by cases heq⟩
      | waiting => exact ⟨hkeeps, fun _ heq => by cases heq⟩

theorem respects_attempts (b : Backoff) (operation : Operation) (path : String) {x : Run σ α}
    (hx : Respects n P x) (left : Nat) :
    Respects n P (Retry.attempts b operation path x left) := by
  induction left with
  | zero =>
    rw [Retry.attempts]
    refine respects_bind (respects_attempt hx) fun r hr => ?_
    cases r with
    | ok a => exact respects_pure (hr a rfl)
    | error e => exact respects_fail _
  | succ left ih =>
    rw [Retry.attempts]
    refine respects_bind (respects_attempt hx) fun r hr => ?_
    cases r with
    | ok a => exact respects_pure (hr a rfl)
    | error e =>
      dsimp only
      split
      · exact respects_bind (respects_log _) fun _ _ => ih
      · exact respects_fail e

end Run

namespace Pager

variable {n : Nat}

/-- To pull a page leaves every limit alone. -/
theorem respects_marks (info : ServiceInfo) (form : Form) (path : String)
    {pull : Run (σ × Progress π) Page} (hpull : Run.Respects n (fun _ => True) pull)
    (marks : List PagerMark) :
    Run.Respects n (fun _ => True)
      (marks.foldr (fun m x => PagerMark.around info form path x m) pull) := by
  induction marks with
  | nil => exact hpull
  | cons m marks ih =>
    rw [List.foldr_cons]
    cases m with
    | context => exact Run.respects_mapError ih _
    | retry backoff => exact Run.respects_attempts backoff _ path ih _
    | logged =>
      refine Run.respects_bind (Run.respects_attempt ih) fun result _ => ?_
      refine Run.respects_bind (P := fun _ => True) (fun w => ⟨?_, fun _ _ => trivial⟩)
        fun _ _ => Run.respects_ofExcept fun _ _ => trivial
      cases result with
      | ok page =>
        cases page with
        | some entries => rfl
        | none => rfl
      | error e => rfl

theorem pull_keeps (service : Service σ ρ π) (form : Form) (p : Pager π) (w : World σ) :
    (p.pull service form w).2.2.permits[n]? = w.permits[n]? := by
  have hsource : Run.Respects n (fun _ => True)
      (pullSource service form : Run (σ × Progress π) Page) := fun _ => ⟨rfl, fun _ _ => trivial⟩
  exact (respects_marks service.info form p.path hsource p.marks
    (w.withService (w.service, p.source, p.listed))).1

end Pager

/-- No handle in the reply owes anything to a limit. -/
def Reply.Fresh (n : Nat) (action : Action) (reply : Reply (Reader ρ) (Pager π) action) : Prop :=
  ∀ h ∈ Reply.handles action reply, n ∉ h.owes

namespace Reply

variable {n : Nat} {action : Action} {reply : Reply (Reader ρ) (Pager π) action}

theorem fresh_mark (m : PagerMark) (h : Fresh n action reply) :
    Fresh n action (Reply.map id (Pager.mark m) action reply) := by
  cases action with
  | list =>
    intro handle hmem
    rw [List.mem_singleton.1 hmem]
    exact h (.pager reply) List.mem_cons_self
  | create _ | read _ | write _ _ | stat | delete => exact h

end Reply

namespace Layer

variable {n : Nat} {action : Action}

theorem respects_handOver {m : Nat} (hne : m ≠ n) {reply : Reply (Reader ρ) (Pager π) action}
    (h : Reply.Fresh n action reply) :
    Run.Respects n (Reply.Fresh n action) (handOver m action reply : Run σ _) := by
  have hkeeps (w : World σ) : (Permits.giveBack w.permits m)[n]? = w.permits[n]? :=
    List.getElem?_set_ne hne
  cases action with
  | read range =>
    refine Run.respects_pure fun handle hmem => ?_
    have hfree : n ∉ reply.2.owes := h (.reader reply.2) List.mem_cons_self
    rw [List.mem_singleton.1 hmem]
    show n ∉ m :: reply.2.owes
    rw [List.mem_cons, not_or]
    exact ⟨Ne.symm hne, hfree⟩
  | list =>
    refine Run.respects_pure fun handle hmem => ?_
    have hfree : n ∉ reply.owes := h (.pager reply) List.mem_cons_self
    rw [List.mem_singleton.1 hmem]
    show n ∉ m :: reply.owes
    rw [List.mem_cons, not_or]
    exact ⟨Ne.symm hne, hfree⟩
  | create _ | write _ _ | stat | delete =>
    exact fun w => ⟨hkeeps w, fun _ _ => fun handle hmem => absurd hmem List.not_mem_nil⟩

theorem respects_settle {m : Nat} (hne : m ≠ n)
    {result : Except Stop (Reply (Reader ρ) (Pager π) action)}
    (h : ∀ reply, result = .ok reply → Reply.Fresh n action reply) :
    Run.Respects n (Reply.Fresh n action) (settle m action result : Run σ _) := by
  cases result with
  | ok reply => exact respects_handOver hne (h reply rfl)
  | error e => exact fun w => ⟨List.getElem?_set_ne hne, fun _ heq => by cases heq⟩

section

variable (info : ServiceInfo) (form : Form) (path : String)
  {inner : Run σ (Reply (Reader ρ) (Pager π) action)}
  (hinner : Run.Respects n (Reply.Fresh n action) inner)
include hinner

/-- Another limit leaves the permits of this one alone. -/
theorem respects_limit {m : Nat} (hne : m ≠ n) :
    Run.Respects n (Reply.Fresh n action)
      (Layer.around info form path action inner (.limit m)) := by
  intro w
  rw [around_limit]
  by_cases hfree : Permits.free w.permits m = 0
  · rw [Limit.acquire_of_none hfree]
    exact ⟨rfl, fun _ heq => by cases heq⟩
  · rw [Limit.acquire_of_free hfree]
    dsimp only
    have htaken : (w.permits.set m (Permits.free w.permits m - 1))[n]? = w.permits[n]? :=
      List.getElem?_set_ne hne
    obtain ⟨hkeeps, hvalue⟩ := hinner { w with
      permits := w.permits.set m (Permits.free w.permits m - 1) }
    obtain ⟨hnext, hgives⟩ := respects_settle hne hvalue (inner { w with
      permits := w.permits.set m (Permits.free w.permits m - 1) }).2
    exact ⟨hnext.trans (hkeeps.trans htaken), hgives⟩

theorem respects_logging :
    Run.Respects n (Reply.Fresh n action)
      (Layer.around info form path action inner .logging) := by
  have hforM (events : List Event) :
      Run.Respects n (fun _ => True) (events.forM fun e => (Run.log e : Run σ Unit)) := by
    induction events with
    | nil => exact Run.respects_pure trivial
    | cons e events ih => exact Run.respects_bind (Run.respects_log e) fun _ _ => ih
  have hend (result : Except Error (Reply (Reader ρ) (Pager π) action)) :
      Run.Respects n (fun _ => True) (logEnd info.scheme form path action result : Run σ Unit) := by
    cases result with
    | ok reply => exact hforM _
    | error e => exact Run.respects_log _
  refine Run.respects_bind (Run.respects_log _) fun _ _ => ?_
  refine Run.respects_bind (Run.respects_attempt hinner) fun result hresult => ?_
  refine Run.respects_bind (hend result) fun _ _ => ?_
  refine Run.respects_bind (Run.respects_ofExcept hresult) fun reply hreply => ?_
  exact Run.respects_pure (Reply.fresh_mark .logged hreply)

/-- Every layer but the limit itself leaves its permits alone. -/
theorem respects_around {layer : Layer} (hne : layer ≠ .limit n) :
    Run.Respects n (Reply.Fresh n action) (Layer.around info form path action inner layer) := by
  cases layer with
  | context =>
    refine Run.respects_bind (Run.respects_mapError hinner _) fun reply hreply => ?_
    exact Run.respects_pure (Reply.fresh_mark .context hreply)
  | retry backoff =>
    refine Run.respects_bind (Run.respects_attempts backoff _ path hinner _) fun reply hreply => ?_
    exact Run.respects_pure (Reply.fresh_mark (.retry backoff) hreply)
  | limit m =>
    exact respects_limit info form path hinner fun heq => hne (by rw [heq])
  | index paths =>
    cases action with
    | list =>
      refine Run.respects_pure fun handle hmem => ?_
      rw [List.mem_singleton.1 hmem]
      exact List.not_mem_nil
    | create _ | read _ | write _ _ | stat | delete => exact hinner
  | logging => exact respects_logging info form path hinner
  | metrics =>
    refine Run.respects_bind (Run.respects_attempt hinner) fun result hresult => ?_
    refine Run.respects_bind (Run.respects_measure _) fun _ _ => ?_
    exact Run.respects_ofExcept hresult

end

end Layer

namespace Stack

variable {n : Nat}

theorem respects_base (service : Service σ ρ π) (form : Form) (path : String) (action : Action) :
    Run.Respects n (Reply.Fresh n action) (base service form path action) := by
  have hservice : Run.Respects n (fun _ => True)
      (Run.onService (service.call form path action)) := fun _ => ⟨rfl, fun _ _ => trivial⟩
  refine Run.respects_bind hservice fun reply _ => Run.respects_pure fun handle hmem => ?_
  cases action with
  | read _ | list =>
    rw [List.mem_singleton.1 hmem]
    exact List.not_mem_nil
  | create _ | write _ _ | stat | delete => exact absurd hmem List.not_mem_nil

/-- A call through layers leaves a limit alone that is none of them. -/
theorem respects_call (service : Service σ ρ π) {layers : List Layer}
    (hlayers : Layer.limit n ∉ layers) (form : Form) (path : String) (action : Action) :
    Run.Respects n (Reply.Fresh n action) (call service layers form path action) := by
  induction layers with
  | nil => exact respects_base service form path action
  | cons layer layers ih =>
    rw [List.mem_cons, not_or] at hlayers
    exact Layer.respects_around service.info form path (ih hlayers.2) (Ne.symm hlayers.1)

end Stack

end ObjectStorage
