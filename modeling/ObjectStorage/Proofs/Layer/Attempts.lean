import ObjectStorage.Proofs.Layer.Origin
import ObjectStorage.Proofs.Layer.Record
import ObjectStorage.Service.Scripted

/-!
# Retries do not multiply

Where several layers try again, a call does not reach the service more often than the innermost of
them has it.  That layer ends with an error that is not for now, and the layers outside leave such
errors alone.  Between two of them a limit may fail for now on its own account, but then the call
has not reached the service at all.

* `Run.Reaches`, `Run.FailsUnreached` — how often an operation reaches the service, and that it has
  not if it fails for now;
* `Run.ReachesBelow` — both, as the innermost layer that tries again has them;
* `Stack.reachesBelow_call`, `Pager.reachesBelow_pull` — calls and pulls through layers;
* `Stack.retries_never_multiply` — the bound, and no error for now where retries are outermost.
-/

namespace ObjectStorage

variable {σ ρ π τ α β : Type}

/-! ### How often an operation reaches the service -/

namespace Run

variable (record : τ → List Contact) (contact : Contact)

/-- Each run of the operation reaches the service at most so often, and always for the same. -/
def Reaches (most : Nat) (x : Run τ α) : Prop :=
  ∀ w, ∃ k ≤ most, record (x w).2.service = record w.service ++ List.replicate k contact

/-- If the operation fails for now, then it has not reached the service. -/
def FailsUnreached (x : Run τ α) : Prop :=
  ∀ w e, (x w).1 = .error (.failed e) → e.isTemporary = true →
    record (x w).2.service = record w.service

/-- How an operation reaches the service through layers the innermost of which to try again is the
one given. -/
def ReachesBelow : Option Backoff → Run τ α → Prop
  | none, x => x.Reaches record contact 1
  | some b, x => x.Reaches record contact (b.maxTimes + 1) ∧ x.FailsUnreached record

/-- The operation never fails for now. -/
def NeverTemporary (x : Run τ α) : Prop :=
  ∀ w e, (x w).1 = .error (.failed e) → e.isTemporary = false

variable {record contact} {x : Run τ α} {y : Run τ β}

/-- An operation that does at most one more run of another one: either it ends without it, and not
because of an error for now below, or it ends as that run does, up to what is not on record. -/
structure Passes (record : τ → List Contact) (x : Run τ α) (y : Run τ β) (w : World τ) : Prop where
  step : record (y w).2.service = record w.service
    ∨ ∃ v, record v.service = record w.service ∧ (y w).2.service = (x v).2.service
      ∧ ∀ e, (y w).1 = .error (.failed e) → e.isTemporary = true →
        ∃ e', (x v).1 = .error (.failed e') ∧ e'.isTemporary = true

theorem Reaches.of_passes {most : Nat} (hx : x.Reaches record contact most)
    (hstep : ∀ w, Passes record x y w) : y.Reaches record contact most := by
  intro w
  obtain hstay | ⟨v, hv, hend, -⟩ := (hstep w).step
  · exact ⟨0, Nat.zero_le _, by rw [hstay, List.replicate_zero, List.append_nil]⟩
  · obtain ⟨k, hk, hreached⟩ := hx v
    exact ⟨k, hk, by rw [hend, hreached, hv]⟩

theorem FailsUnreached.of_passes (hx : x.FailsUnreached record)
    (hstep : ∀ w, Passes record x y w) : y.FailsUnreached record := by
  intro w e hfailed htemporary
  obtain hstay | ⟨v, hv, hend, herror⟩ := (hstep w).step
  · exact hstay
  · obtain ⟨e', hfailed', htemporary'⟩ := herror e hfailed htemporary
    rw [hend, hx v e' hfailed' htemporary', hv]

theorem ReachesBelow.of_passes {retry : Option Backoff} (hx : x.ReachesBelow record contact retry)
    (hstep : ∀ w, Passes record x y w) : y.ReachesBelow record contact retry := by
  cases retry with
  | none => exact Reaches.of_passes hx hstep
  | some b => exact ⟨hx.1.of_passes hstep, hx.2.of_passes hstep⟩

/-- The attempts before the last one reach the service at most as often as there are retries. -/
theorem Reaches.lastTry (hx : x.Reaches record contact 1) (b : Backoff) (operation : Operation)
    (path : String) (left : Nat) (w : World τ) :
    ∃ k ≤ left, record (Retry.lastTry b operation path x left w).service
      = record w.service ++ List.replicate k contact := by
  induction left generalizing w with
  | zero => exact ⟨0, Nat.le_refl 0, by rw [List.replicate_zero, List.append_nil]; rfl⟩
  | succ left ih =>
    obtain ⟨k, hk, hreached⟩ := hx w
    have hstay : ∃ k ≤ left + 1, record w.service = record w.service ++ List.replicate k contact :=
      ⟨0, Nat.zero_le _, by rw [List.replicate_zero, List.append_nil]⟩
    rw [Retry.lastTry]
    generalize x w = ended at hreached ⊢
    obtain ⟨(e | _) | a, w'⟩ := ended
    · dsimp only
      split
      · obtain ⟨l, hl, hrest⟩ := ih { w' with events := w'.events ++ [.retrying operation path
          (b.maxTimes - left) (b.delay (b.maxTimes - left)) e] }
        refine ⟨k + l, by omega, ?_⟩
        rw [hrest, ← List.replicate_append_replicate, ← List.append_assoc, ← hreached]
      · exact hstay
    · exact hstay
    · exact hstay

/-- To try again reaches the service as the innermost layer that tries again has it. -/
theorem ReachesBelow.retry {innermost : Option Backoff}
    (hx : x.ReachesBelow record contact innermost) {b : Backoff} {operation : Operation}
    {path : String} (hend : ∀ w, (y w).2.service
      = (x (Retry.lastTry b operation path x b.maxTimes w)).2.service)
    (hnever : y.NeverTemporary) :
    y.ReachesBelow record contact (some (innermost.getD b)) := by
  have hunreached : y.FailsUnreached record := by
    intro w e hfailed htemporary
    rw [hnever w e hfailed] at htemporary
    cases htemporary
  refine ⟨?_, hunreached⟩
  intro w
  rw [hend]
  cases innermost with
  | none =>
    -- nothing below tries again, so that each attempt reaches the service at most once
    obtain ⟨k, hk, hbefore⟩ := hx.lastTry b operation path b.maxTimes w
    obtain ⟨l, hl, hlast⟩ := hx (Retry.lastTry b operation path x b.maxTimes w)
    have hmost : k + l ≤ b.maxTimes + 1 := Nat.add_le_add hk hl
    refine ⟨k + l, hmost, ?_⟩
    rw [hlast, hbefore, List.append_assoc, List.replicate_append_replicate]
  | some inner =>
    -- an attempt is followed by another one only if it has not reached the service
    obtain ⟨hreaches, hfails⟩ := hx
    have hbefore : record (Retry.lastTry b operation path x b.maxTimes w).service
        = record w.service := by
      refine Retry.lastTry_keeps_of_temporary b operation path x
        (P := fun s => record s = record w.service) ?_ b.maxTimes rfl
      intro v v' e hattempt htemporary hv
      have hsame := hfails v e (by rw [hattempt]) htemporary
      rw [hattempt] at hsame
      exact hsame.trans hv
    obtain ⟨k, hk, hlast⟩ := hreaches (Retry.lastTry b operation path x b.maxTimes w)
    exact ⟨k, hk, by rw [hlast, hbefore]⟩

end Run

/-! ### What layers hand on -/

theorem isTemporary_callError (scheme : Scheme) (form : Form) (path : String) (action : Action)
    (e : Error) : (Layer.callError scheme form path action e).isTemporary = e.isTemporary := by
  have hstatus : (Layer.callError scheme form path action e).status = e.status := by
    cases action <;> exact Error.status_withOperation e _
  rw [Error.isTemporary, hstatus, Error.isTemporary]

theorem isTemporary_pullError (scheme : Scheme) (form : Form) (path : String) (e : Error) :
    (Pager.pullError scheme form path e).isTemporary = e.isTemporary := by
  have hstatus : (Pager.pullError scheme form path e).status = e.status :=
    Error.status_withOperation e _
  rw [Error.isTemporary, hstatus, Error.isTemporary]

/-- No layer makes an error one for now. -/
theorem Layer.isTemporary_of_passed (info : ServiceInfo) (form : Form) (path : String)
    (action : Action) (layer : Layer) {e : Error}
    (h : (passed info form path action layer e).isTemporary = true) : e.isTemporary = true := by
  cases layer with
  | context => rwa [passed, isTemporary_callError] at h
  | retry b =>
    rw [passed, Retry.isTemporary_conclude] at h
    cases h
  | limit n | index paths | logging | metrics => exact h

/-- No mark makes an error one for now. -/
theorem Pager.PagerMark.isTemporary_of_passed (info : ServiceInfo) (form : Form) (path : String)
    (m : PagerMark) {e : Error} (h : (passed info form path m e).isTemporary = true) :
    e.isTemporary = true := by
  cases m with
  | context => rwa [passed, isTemporary_pullError] at h
  | retry b =>
    rw [passed, Retry.isTemporary_conclude] at h
    cases h
  | logged => exact h

/-! ### Calls -/

namespace Layer

variable {info : ServiceInfo} {form : Form} {path : String} {action : Action} {layer : Layer}
  {inner : Run τ (Reply (Reader ρ) (Pager π) action)}

/-- The error of a call that was let in is the one from inside, as the layer hands it on. -/
theorem failed_of_outcome {result : Except Stop (Reply (Reader ρ) (Pager π) action)} {e : Error}
    (h : outcome info form path action layer result = .error (.failed e)) :
    ∃ e', result = .error (.failed e') ∧ e = passed info form path action layer e' := by
  have herror : (errorOf? result).map (passed info form path action layer) = some e := by
    rw [← errorOf?_mapError _ (dressed action layer) result]
    exact errorOf?_eq_some_iff.2 h
  obtain ⟨e', hresult, heq⟩ := Option.map_eq_some_iff.1 herror
  exact ⟨e', errorOf?_eq_some_iff.1 hresult, heq.symm⟩

/-- A layer that does not try again lets a call in at most once. -/
theorem passes_around (record : τ → List Contact) (hretry : ∀ b, layer ≠ .retry b) (w : World τ) :
    Run.Passes record inner (layer.around info form path action inner) w := by
  constructor
  rw [around_eq]
  cases henter : enter info form path action inner layer w with
  | inr answer => exact .inl rfl
  | inl v =>
    refine .inr ⟨v, by rw [service_enter hretry henter], service_noted _ _ _, ?_⟩
    intro e hfailed htemporary
    obtain ⟨e', hinside, rfl⟩ := failed_of_outcome hfailed
    exact ⟨e', hinside, isTemporary_of_passed info form path action layer htemporary⟩

/-- After retries no error is one for now. -/
theorem neverTemporary_retry (info : ServiceInfo) (b : Backoff) :
    (Layer.around info form path action inner (.retry b)).NeverTemporary := by
  intro w e hfailed
  rw [around_eq] at hfailed
  obtain ⟨e', -, rfl⟩ := failed_of_outcome hfailed
  exact Retry.isTemporary_conclude b e'

/-- Other layers raise no error for now, limits apart. -/
theorem neverTemporary_around (hinner : inner.NeverTemporary) (hlimit : ∀ n, layer ≠ .limit n) :
    (layer.around info form path action inner).NeverTemporary := by
  intro w e hfailed
  rw [around_eq] at hfailed
  cases henter : enter info form path action inner layer w with
  | inl v =>
    rw [henter] at hfailed
    obtain ⟨e', hinside, rfl⟩ := failed_of_outcome hfailed
    have hnot : ¬(passed info form path action layer e').isTemporary = true := by
      intro htemporary
      have hinner' := hinner v e' hinside
      rw [isTemporary_of_passed info form path action layer htemporary] at hinner'
      cases hinner'
    exact Bool.eq_false_iff.2 hnot
  | inr answer =>
    rw [henter] at hfailed
    obtain ⟨n, stop, w', rfl, -⟩ | ⟨paths, reply, -, rfl⟩ := enter_answer henter
    · exact absurd rfl (hlimit n)
    · cases hfailed

end Layer

namespace Stack

variable (service : Service σ ρ π) (form : Form) (path : String)

theorem innermostBackoff?_retry (b : Backoff) (layers : List Layer) :
    innermostBackoff? (.retry b :: layers) = some ((innermostBackoff? layers).getD b) := by
  have hfirst : Layer.backoff? (.retry b) = some b := rfl
  rw [innermostBackoff?, List.filterMap_cons_some hfirst, List.getLast?_cons, innermostBackoff?]

/-- **A call through layers reaches the service as the innermost layer that tries again has it.**
By induction on the layers. -/
theorem reachesBelow_call (layers : List Layer) (action : Action) :
    (call service.recorded layers form path action).ReachesBelow Prod.snd
      (.call form path action) (innermostBackoff? layers) := by
  induction layers with
  | nil =>
    intro w
    rw [call_nil, base_eq]
    exact ⟨1, Nat.le_refl 1, rfl⟩
  | cons layer layers ih =>
    rw [call_cons]
    by_cases hretry : ∃ b, layer = .retry b
    · obtain ⟨b, rfl⟩ := hretry
      have hend (w : World (σ × List Contact)) :
          (Layer.around service.info form path action
              (call service.recorded layers form path action) (.retry b) w).2.service
            = (call service.recorded layers form path action (Retry.lastTry b
                (action.operation form) path (call service.recorded layers form path action)
                b.maxTimes w)).2.service := by
        rw [Layer.around_eq]
        exact Layer.service_noted _ _ _
      rw [innermostBackoff?_retry]
      exact ih.retry hend (Layer.neverTemporary_retry service.info b)
    · have hplain : ∀ b, layer ≠ .retry b := fun b heq => hretry ⟨b, heq⟩
      have hsame : innermostBackoff? (layer :: layers) = innermostBackoff? layers := by
        cases layer with
        | retry b => exact absurd rfl (hplain b)
        | context | limit n | index paths | logging | metrics => rfl
      rw [hsame]
      exact ih.of_passes (Layer.passes_around Prod.snd hplain)

/-- If a layer tries again and no limit lies outside of it, then calls never fail for now. -/
theorem neverTemporary_call {above : List Layer} (hlimit : ∀ n, .limit n ∉ above) (b : Backoff)
    (below : List Layer) (action : Action) :
    (call service (above ++ .retry b :: below) form path action).NeverTemporary := by
  induction above with
  | nil => exact Layer.neverTemporary_retry service.info b
  | cons layer above ih =>
    have hrest := ih fun n hmem => hlimit n (List.mem_cons_of_mem layer hmem)
    have hlayer : ∀ n, layer ≠ .limit n := by
      rintro n rfl
      exact hlimit n List.mem_cons_self
    exact Layer.neverTemporary_around hrest hlayer

end Stack

/-! ### Pulls -/

namespace Pager

variable (service : Service σ ρ π) (form : Form) (path : String)

/-- A pull through one more mark ends with the error from inside, as the mark hands it on. -/
theorem failed_of_pullThrough {m : PagerMark} {marks : List PagerMark}
    {w : World (σ × Progress π)} {e : Error}
    (h : (pullThrough service form path (m :: marks) w).1 = .error (.failed e)) :
    ∃ e', (pullThrough service form path marks
        (PagerMark.enter form path (pullThrough service form path marks) m w)).1
          = .error (.failed e')
      ∧ e = PagerMark.passed service.info form path m e' := by
  rw [pullThrough_cons, PagerMark.around_eq] at h
  generalize pullThrough service form path marks (PagerMark.enter form path
    (pullThrough service form path marks) m w) = ended at h ⊢
  rcases ended with ⟨(e' | _) | page, w'⟩
  · cases h
    exact ⟨e', rfl, rfl⟩
  · cases h
  · cases h

/-- What is on record of a service while a page is pulled. -/
abbrev pullRecord (s : (σ × List Contact) × Progress π) : List Contact := s.1.2

/-- A pull from the source reaches the service at most once. -/
theorem reaches_pullSource :
    (pullSource service.recorded form).Reaches (pullRecord (π := π)) (.pull form) 1 := by
  rintro ⟨⟨s, source, listed⟩, permits, events, samples, printed⟩
  cases source with
  | service q => exact ⟨1, Nat.le_refl 1, rfl⟩
  | ready page =>
    refine ⟨0, Nat.zero_le 1, ?_⟩
    rw [List.replicate_zero, List.append_nil]
    rfl

/-- **A pull through marks reaches the service as the innermost mark that tries again has it.**
By induction on the marks. -/
theorem reachesBelow_pull (marks : List PagerMark) :
    (pullThrough service.recorded form path marks).ReachesBelow (pullRecord (π := π))
      (.pull form) (marks.filterMap PagerMark.backoff?).getLast? := by
  induction marks with
  | nil => exact reaches_pullSource service form
  | cons m marks ih =>
    have hservice (w : World ((σ × List Contact) × Progress π)) :
        (pullThrough service.recorded form path (m :: marks) w).2.service
          = (pullThrough service.recorded form path marks (PagerMark.enter form path
              (pullThrough service.recorded form path marks) m w)).2.service := by
      rw [pullThrough_cons, PagerMark.around_eq]
      exact PagerMark.service_noted _ _ _ _ _
    cases m with
    | retry b =>
      have hnever :
          (pullThrough service.recorded form path (.retry b :: marks)).NeverTemporary := by
        intro w e hfailed
        obtain ⟨e', -, rfl⟩ := failed_of_pullThrough service.recorded form path hfailed
        exact Retry.isTemporary_conclude b e'
      have hfirst : PagerMark.backoff? (.retry b) = some b := rfl
      rw [List.filterMap_cons_some hfirst, List.getLast?_cons]
      exact ih.retry hservice hnever
    | context | logged =>
      refine ih.of_passes fun w => ⟨.inr ⟨w, rfl, hservice w, ?_⟩⟩
      intro e hfailed htemporary
      obtain ⟨e', hinside, heq⟩ := failed_of_pullThrough service.recorded form path hfailed
      rw [heq] at htemporary
      exact ⟨e', hinside, PagerMark.isTemporary_of_passed _ form path _ htemporary⟩

/-- A pager that has its page already does not reach the service. -/
theorem reaches_ready (marks : List PagerMark) {w : World ((σ × List Contact) × Progress π)}
    (hready : w.service.2.1.isReady = true) :
    pullRecord (pullThrough service.recorded form path marks w).2.service
      = pullRecord w.service := by
  refine (pullThrough_keeps service.recorded form
    (P := fun s => s.2.1.isReady = true ∧ pullRecord s = pullRecord w.service) ?_ path marks
    ⟨hready, rfl⟩).2
  rintro ⟨⟨s, source, listed⟩, permits, events, samples, printed⟩ ⟨hsource, hsame⟩
  cases source with
  | service q => cases hsource
  | ready page => exact ⟨rfl, hsame⟩

/-- Through a mark that tries again no error is one for now. -/
theorem isTemporary_handedOn {marks : List PagerMark} {b : Backoff} (h : .retry b ∈ marks)
    (e : Error) : (handedOn service form path marks e).isTemporary = false := by
  induction marks with
  | nil => cases h
  | cons m marks ih =>
    rw [Bool.eq_false_iff]
    intro htemporary
    obtain rfl | hmem := List.mem_cons.1 h
    · exact Bool.false_ne_true ((Retry.isTemporary_conclude b _).symm.trans htemporary)
    · have hinside := PagerMark.isTemporary_of_passed service.info form path m htemporary
      rw [show List.foldr _ e marks = handedOn service form path marks e from rfl, ih hmem]
        at hinside
      cases hinside

end Pager

namespace Stack

variable {service : Service σ ρ π} {layers : List Layer} {form : Form} {path : String}

/-- Without an index every layer that tries again has put its mark on the pagers. -/
theorem retry_mem_marks (hindex : ∀ paths, .index paths ∉ layers) {b : Backoff}
    (h : .retry b ∈ layers) : .retry b ∈ marks layers := by
  have hmem : b ∈ (marks layers).filterMap PagerMark.backoff? := by
    rw [filterMap_marks hindex]
    exact List.mem_filterMap.2 ⟨.retry b, h, rfl⟩
  obtain ⟨m, hm, hbackoff⟩ := List.mem_filterMap.1 hmem
  cases m with
  | retry b' =>
    cases hbackoff
    exact hm
  | context | logged => cases hbackoff

/-- A pull from a pager of a stack reaches the service as the innermost layer that tries again has
it; a pager of an index does not reach the service. -/
theorem reaches_of_isPagerOf {p : Pager π} (hp : IsPagerOf layers path p) {b : Backoff}
    (hb : innermostBackoff? layers = some b) (w : World (σ × List Contact)) :
    ∃ k ≤ b.maxTimes + 1, (p.pull service.recorded form w).2.2.service.2
      = w.service.2 ++ List.replicate k (.pull form) := by
  rw [Pager.pull_eq]
  by_cases hindex : ∃ paths, .index paths ∈ layers
  · have hready := Pager.reaches_ready service form p.path p.marks (w := p.pullWorld w)
      (hp.ready_iff.2 hindex)
    refine ⟨0, Nat.zero_le _, ?_⟩
    rw [List.replicate_zero, List.append_nil]
    exact hready
  · have hreaches := Pager.reachesBelow_pull service form p.path p.marks
    rw [hp.marks_eq, filterMap_marks (not_exists.1 hindex)] at hreaches
    rw [show (layers.filterMap Layer.backoff?).getLast? = some b from hb] at hreaches
    rw [hp.marks_eq]
    exact hreaches.1 (p.pullWorld w)

/-- A pull from a pager of a stack that tries again never fails for now. -/
theorem not_temporary_of_isPagerOf {p : Pager π} (hp : IsPagerOf layers path p) {b : Backoff}
    (hb : Layer.retry b ∈ layers) {w : World σ} {e : Error}
    (hfailed : (p.pull service form w).1 = .error (.failed e)) : e.isTemporary = false := by
  have herror : (p.origin? service form w).map (Pager.handedOn service form p.path p.marks)
      = some e := by
    rw [← Pager.errorOf?_pull]
    exact errorOf?_eq_some_iff.2 hfailed
  obtain ⟨e', horigin, rfl⟩ := Option.map_eq_some_iff.1 herror
  have hmark : .retry b ∈ p.marks := by
    rw [hp.marks_eq]
    exact retry_mem_marks (hp.index_not_mem horigin) hb
  exact Pager.isTemporary_handedOn service form p.path hmark e'

/-- **Retries never multiply.**  Let a stack have layers of any kind in any order, over any service.
If the innermost layer that tries again does so at most `m` times, then a call through the stack
reaches the service for nothing but that call, and at most `m + 1` times; and so does a pull from
any pager that the stack gives.  If some layer tries again and no limit lies outside of it, then
neither calls nor pulls ever fail with an error for now. -/
theorem retries_never_multiply (service : Service σ ρ π) (layers : List Layer) (form : Form)
    (path : String) :
    (∀ b, innermostBackoff? layers = some b →
      (∀ action (w : World (σ × List Contact)), ∃ k ≤ b.maxTimes + 1,
        (call service.recorded layers form path action w).2.service.2
          = w.service.2 ++ List.replicate k (.call form path action))
      ∧ ∀ p, Gives service.recorded layers form path p → ∀ w : World (σ × List Contact),
        ∃ k ≤ b.maxTimes + 1, (p.pull service.recorded form w).2.2.service.2
          = w.service.2 ++ List.replicate k (.pull form))
    ∧ ∀ above b below, layers = above ++ .retry b :: below → (∀ n, .limit n ∉ above) →
      (∀ action (w : World σ) e,
        (call service layers form path action w).1 = .error (.failed e) → e.isTemporary = false)
      ∧ ∀ p, Gives service layers form path p → ∀ (w : World σ) e,
        (p.pull service form w).1 = .error (.failed e) → e.isTemporary = false := by
  constructor
  · intro b hb
    constructor
    · intro action w
      have hreaches := reachesBelow_call service form path layers action
      rw [hb] at hreaches
      exact hreaches.1 w
    · intro p hp w
      exact reaches_of_isPagerOf (isPagerOf_of_gives hp) hb w
  · intro above b below hlayers hlimit
    subst hlayers
    constructor
    · intro action w e hfailed
      exact neverTemporary_call service form path hlimit b below action w e hfailed
    · intro p hp w e hfailed
      have hmem : .retry b ∈ above ++ .retry b :: below :=
        List.mem_append_right above List.mem_cons_self
      exact not_temporary_of_isPagerOf (isPagerOf_of_gives hp) hmem hfailed

/-! ### One retry within three -/

/-- A service that answers with what was laid down for it. -/
def flakyService : Service Scripted.State Scripted.Pieces Scripted.Pages :=
  Scripted.service { scheme := .memory }

/-- The service fails for now whenever it is asked, and so does its pager. -/
def flakyWorld : World Scripted.State where
  service :=
    let failure := (Error.new .unexpected "busy").temporary
    { outcomes := [(.call .async .stat, List.replicate 8 (.failed failure)),
        (.call .async .list, [.list (List.replicate 8 (.error failure))])] }
  permits := [1]

/-- One retry, behind a limit, within three retries. -/
def nestedLayers : List Layer :=
  [.logging, .retry { maxTimes := 3 }, .limit 0, .retry { maxTimes := 1 }, .context]

/-- The pager of these layers. -/
def nestedPager : Pager Scripted.Pages where
  source := .service (List.replicate 8 (.error (Error.new .unexpected "busy").temporary))
  path := "d/"
  marks := [.logged, .retry { maxTimes := 3 }, .retry { maxTimes := 1 }, .context]
  owes := [0]

theorem retries_never_multiply_nested :
    innermostBackoff? nestedLayers = some { maxTimes := 1 }
      ∧ (∀ n, .limit n ∉ [Layer.logging])
      ∧ Gives flakyService nestedLayers .async "d/" nestedPager
      ∧ (∃ k ≤ 2, (call flakyService.recorded nestedLayers .async "a" .stat
          { flakyWorld with service := (flakyWorld.service, []) }).2.service.2
            = List.replicate k (.call .async "a" .stat))
      ∧ (∃ e, (call flakyService nestedLayers .async "a" .stat flakyWorld).1 = .error (.failed e)
          ∧ e.isTemporary = false)
      ∧ ∃ e, (nestedPager.pull flakyService .async flakyWorld).1 = .error (.failed e)
          ∧ e.isTemporary = false := by
  have hlimit : ∀ n, .limit n ∉ [Layer.logging] := by
    intro n hmem
    cases List.mem_singleton.1 hmem
  have hgives : Gives flakyService nestedLayers .async "d/" nestedPager :=
    .listed (w := flakyWorld) rfl
  obtain ⟨hbound, -⟩ := retries_never_multiply flakyService nestedLayers .async "a"
  obtain ⟨-, hnever⟩ := retries_never_multiply flakyService nestedLayers .async "d/"
  obtain ⟨-, hnever'⟩ := retries_never_multiply flakyService nestedLayers .async "a"
  obtain ⟨hcalls, -⟩ := hbound { maxTimes := 1 } rfl
  obtain ⟨hfailed, -⟩ := hnever' [.logging] _ _ rfl hlimit
  obtain ⟨-, hpulled⟩ := hnever [.logging] _ _ rfl hlimit
  refine ⟨rfl, hlimit, hgives, hcalls .stat _, ?_, ?_⟩
  · exact ⟨_, rfl, hfailed .stat flakyWorld _ rfl⟩
  · exact ⟨_, rfl, hpulled nestedPager hgives flakyWorld _ rfl⟩

end Stack

end ObjectStorage
