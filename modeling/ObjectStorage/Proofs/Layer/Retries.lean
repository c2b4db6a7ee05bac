import Mathlib.Data.Nat.Find
import Mathlib.Tactic.IntervalCases
import ObjectStorage.Proofs.Layer.Attempts
import ObjectStorage.Proofs.Layer.Pull

/-!
# How often an operation is tried

A service answers the same call again and again with a sequence of outcomes, one for each state that
the call before has left behind.  A layer that tries again takes from this sequence the errors for
now at its head, as many of them as it may, and the outcome after them; it logs one event for each
error that it passes over, and leaves the rest of the sequence alone.

* `Step.after`, `Step.outcome` — the states and the outcomes of a step that is taken repeatedly;
* `Step.FailsFirst` — the errors for now at the head of the outcomes;
* `Retry.lastTry_onService` — where the last attempt begins, by induction on the retries left;
* `Retry.Ends`, `Retry.exists_ends` — how the attempts end, whether the retries suffice or not;
* `Retry.run_of_ends` — an operation with retries;
* `Stack.attempts_exact` — calls and pulls through a layer that tries again.
-/

namespace ObjectStorage

variable {σ ρ π τ α β : Type}

/-! ### Steps that are repeated -/

namespace Step

/-- The state after so many steps. -/
def after (step : τ → Except Error α × τ) (s : τ) : Nat → τ
  | 0 => s
  | n + 1 => (step (after step s n)).2

/-- The outcome of a step, counted from 0. -/
def outcome (step : τ → Except Error α × τ) (s : τ) (n : Nat) : Except Error α :=
  (step (after step s n)).1

/-- Is this an error for now? -/
def IsTemporary (result : Except Error α) : Prop :=
  ∃ e, result = .error e ∧ e.isTemporary = true

/-- The first `t` outcomes are the errors given, all of them for now. -/
def FailsFirst (step : τ → Except Error α × τ) (s : τ) (errors : Nat → Error) (t : Nat) : Prop :=
  ∀ i < t, outcome step s i = .error (errors i) ∧ (errors i).isTemporary = true

theorem not_isTemporary_ok (a : α) : ¬ IsTemporary (.ok a) := by
  rintro ⟨e, he, -⟩
  cases he

variable {step : τ → Except Error α × τ} {s : τ} {errors : Nat → Error} {t : Nat}

theorem FailsFirst.mono (h : FailsFirst step s errors t) {m : Nat} (hm : m ≤ t) :
    FailsFirst step s errors m := fun i hi => h i (Nat.lt_of_lt_of_le hi hm)

/-- The error that an outcome is. -/
def errorAt (step : τ → Except Error α × τ) (s : τ) (i : Nat) : Error :=
  match outcome step s i with
  | .error e => e
  | .ok _ => default

theorem failsFirst_errorAt (h : ∀ i < t, IsTemporary (outcome step s i)) :
    FailsFirst step s (errorAt step s) t := by
  intro i hi
  obtain ⟨e, he, htemporary⟩ := h i hi
  have hat : errorAt step s i = e := by rw [errorAt, he]
  rw [hat]
  exact ⟨he, htemporary⟩

end Step

/-! ### Trying again -/

namespace Retry

open Step

variable (b : Backoff) (operation : Operation) (path : String)

/-- The events that are logged when the errors given are passed over, numbered from 1. -/
def retryEvents (errors : Nat → Error) (t : Nat) : List Event :=
  (List.range t).map fun i => .retrying operation path (i + 1) (b.delay (i + 1)) (errors i)

theorem retryEvents_succ (errors : Nat → Error) (t : Nat) :
    retryEvents b operation path errors (t + 1) = retryEvents b operation path errors t
      ++ [.retrying operation path (t + 1) (b.delay (t + 1)) (errors t)] := by
  rw [retryEvents, List.range_succ, List.map_append]
  rfl

variable (step : τ → Except Error α × τ) (errors : Nat → Error)

/-- The world after `t` attempts that failed for now. -/
def tried (w : World τ) (t : Nat) : World τ :=
  { w with
    service := after step w.service t
    events := w.events ++ retryEvents b operation path errors t }

theorem tried_zero (w : World τ) : tried b operation path step errors w 0 = w := by
  simp only [tried, after, retryEvents, List.range_zero, List.map_nil, List.append_nil]

theorem onService_tried (w : World τ) (i : Nat) :
    Run.onService step (tried b operation path step errors w i)
      = ((outcome step w.service i).mapError .failed,
          { tried b operation path step errors w i with
            service := after step w.service (i + 1) }) := Run.onService_apply step _

variable {step errors}

/-- **Where the last attempt begins**: after the errors for now at the head, or as many of them as
there are retries.  By induction on the retries that are left: `i` attempts were made before, so
that the next retry has the number `i + 1`. -/
theorem lastTry_onService {w : World τ} {t : Nat} (hfails : FailsFirst step w.service errors t)
    (hstop : t = b.maxTimes ∨ ¬ IsTemporary (outcome step w.service t)) (left : Nat) {i : Nat}
    (hleft : i + left = b.maxTimes) (hi : i ≤ t) (ht : t ≤ b.maxTimes) :
    lastTry b operation path (Run.onService step) left (tried b operation path step errors w i)
      = tried b operation path step errors w t := by
  induction left generalizing i with
  | zero =>
    have hit : i = t := by omega
    rw [lastTry, hit]
  | succ left ih =>
    rw [lastTry]
    by_cases hit : i = t
    · -- the outcome is none that is tried again
      subst hit
      have hnot : ¬ IsTemporary (outcome step w.service i) := hstop.resolve_left (by omega)
      rw [onService_tried]
      cases houtcome : outcome step w.service i with
      | ok a => rfl
      | error e =>
        have he : ¬ e.isTemporary = true := fun he => hnot ⟨e, houtcome, he⟩
        exact if_neg he
    · have hlt : i < t := Nat.lt_of_le_of_ne hi hit
      obtain ⟨herror, htemporary⟩ := hfails i hlt
      have hnumber : b.maxTimes - left = i + 1 := by omega
      have hlogged : { tried b operation path step errors w i with
            service := after step w.service (i + 1)
            events := (tried b operation path step errors w i).events
              ++ [.retrying operation path (i + 1) (b.delay (i + 1)) (errors i)] }
          = tried b operation path step errors w (i + 1) := by
        simp only [tried, retryEvents_succ, List.append_assoc]
      rw [onService_tried, herror]
      simp only [Except.mapError, htemporary, if_true, hnumber]
      rw [hlogged]
      exact ih (by omega) hlt

/-- An operation with retries ends as the last of its attempts. -/
theorem run_onService {w : World τ} {t : Nat} (hfails : FailsFirst step w.service errors t)
    (hstop : t = b.maxTimes ∨ ¬ IsTemporary (outcome step w.service t)) (ht : t ≤ b.maxTimes) :
    run b operation path (Run.onService step) w
      = ((outcome step w.service t).mapError fun e => .failed (conclude b e),
          { w with
            service := after step w.service (t + 1)
            events := w.events ++ retryEvents b operation path errors t }) := by
  have hlast : lastTry b operation path (Run.onService step) b.maxTimes w
      = tried b operation path step errors w t := by
    have hbegin := lastTry_onService b operation path hfails hstop b.maxTimes (Nat.zero_add _)
      (Nat.zero_le t) ht
    rwa [tried_zero] at hbegin
  rw [run, attempts_eq, hlast]
  rw [onService_tried]
  refine Prod.ext ?_ rfl
  cases outcome step w.service t <;> rfl

/-- How attempts with retries end: after how many retries, and with which result. -/
inductive Ends (step : τ → Except Error α × τ) (s : τ) (errors : Nat → Error) :
    Nat → Except Error α → Prop
  /-- The retries suffice, and the first outcome that is not an error for now is not changed. -/
  | head {t : Nat} (hfails : FailsFirst step s errors t) (ht : t ≤ b.maxTimes)
      (hstop : ¬ IsTemporary (outcome step s t)) : Ends step s errors t (outcome step s t)
  /-- The retries do not suffice, and the last error is marked persistent, with their number. -/
  | more {t : Nat} (hfails : FailsFirst step s errors t) (ht : b.maxTimes < t) :
      Ends step s errors b.maxTimes (.error { errors b.maxTimes with
        status := .persistent
        context := (errors b.maxTimes).context ++ [("retried", toString b.maxTimes)] })

/-- Whatever the outcomes are, the attempts end. -/
theorem exists_ends (step : τ → Except Error α × τ) (s : τ) :
    ∃ errors retries result, Ends b step s errors retries result := by
  classical
  by_cases h : ∃ t ≤ b.maxTimes, ¬ IsTemporary (outcome step s t)
  · obtain ⟨hmost, hstop⟩ := Nat.find_spec h
    have hbefore : ∀ i < Nat.find h, IsTemporary (outcome step s i) := by
      intro i hi
      have hmin := Nat.find_min h hi
      exact not_not.1 fun hnot => hmin ⟨Nat.le_of_lt (Nat.lt_of_lt_of_le hi hmost), hnot⟩
    exact ⟨_, _, _, .head (failsFirst_errorAt hbefore) hmost hstop⟩
  · have hall : ∀ i < b.maxTimes + 1, IsTemporary (outcome step s i) := fun i hi =>
      not_not.1 fun hnot => h ⟨i, Nat.le_of_lt_succ hi, hnot⟩
    exact ⟨_, _, _, .more (failsFirst_errorAt hall) (Nat.lt_succ_self b.maxTimes)⟩

theorem Ends.failsFirst {s : τ} {retries : Nat} {result : Except Error α}
    (h : Ends b step s errors retries result) : FailsFirst step s errors retries := by
  cases h with
  | head hfails _ _ => exact hfails
  | more hfails ht => exact hfails.mono (Nat.le_of_lt ht)

/-- Attempts end in the same way where the outcomes are the same, but for the values. -/
theorem Ends.map {s : τ} {retries : Nat} {result : Except Error α} {τ' : Type}
    {step' : τ' → Except Error β × τ'} {s' : τ'} (f : α → β)
    (h : Ends b step s errors retries result)
    (hsame : ∀ i ≤ retries, outcome step' s' i = (outcome step s i).map f) :
    Ends b step' s' errors retries (result.map f) := by
  have hfirst {t : Nat} (hfails : FailsFirst step s errors t) (ht : t ≤ retries + 1) :
      FailsFirst step' s' errors t := by
    intro i hi
    obtain ⟨herror, htemporary⟩ := hfails i hi
    rw [hsame i (by omega), herror]
    exact ⟨rfl, htemporary⟩
  cases h with
  | head hfails ht hstop =>
    rw [← hsame retries (Nat.le_refl retries)]
    refine .head (hfirst hfails (Nat.le_succ retries)) ht ?_
    rintro ⟨e, he, htemporary⟩
    rw [hsame retries (Nat.le_refl retries)] at he
    cases houtcome : outcome step s retries with
    | ok a =>
      rw [houtcome] at he
      cases he
    | error e' =>
      rw [houtcome] at he
      cases he
      exact hstop ⟨e, houtcome, htemporary⟩
  | more hfails ht =>
    exact .more (hfirst (hfails.mono ht) (Nat.le_refl _)) (Nat.lt_succ_self b.maxTimes)

/-- **An operation with retries** makes one attempt more than there are retries, logs the retries,
and ends as its attempts do. -/
theorem run_of_ends {w : World τ} {retries : Nat} {result : Except Error α}
    (h : Ends b step w.service errors retries result) :
    run b operation path (Run.onService step) w
      = (result.mapError .failed,
          { w with
            service := after step w.service (retries + 1)
            events := w.events ++ retryEvents b operation path errors retries }) := by
  cases h with
  | head hfails ht hstop =>
    rw [run_onService b operation path hfails (.inr hstop) ht]
    refine Prod.ext ?_ rfl
    cases houtcome : outcome step w.service retries with
    | ok a => rfl
    | error e =>
      have he : ¬ e.isTemporary = true := fun he => hstop ⟨e, houtcome, he⟩
      have hconclude : conclude b e = e := if_neg he
      show (Except.error (Stop.failed (conclude b e)) : Except Stop α) = .error (.failed e)
      rw [hconclude]
  | more hfails ht =>
    obtain ⟨herror, htemporary⟩ := hfails b.maxTimes ht
    rw [run_onService b operation path (hfails.mono (Nat.le_of_lt ht)) (.inl rfl) (Nat.le_refl _),
      herror]
    have hconclude : conclude b (errors b.maxTimes) = (errors b.maxTimes).exhausted b.maxTimes :=
      if_pos htemporary
    refine Prod.ext ?_ rfl
    show (Except.error (Stop.failed (conclude b (errors b.maxTimes))) : Except Stop α) = _
    rw [hconclude]
    rfl

end Retry

/-! ### Calls -/

open Step Retry

namespace Stack

variable (service : Service σ ρ π) (b : Backoff) (form : Form) (path : String)

/-- A reply of a service through a layer that tries again: a pager carries its mark. -/
def retriedReply (action : Action) : Reply ρ π action → Reply (Reader ρ) (Pager π) action :=
  Reply.map (⟨·, []⟩) (fun pager => { source := .service pager, path, marks := [.retry b] }) action

/-- What repeated calls leave on record. -/
theorem after_recorded (action : Action) (s : σ × List Contact) (n : Nat) :
    after (service.recorded.call form path action) s n
      = (after (service.call form path action) s.1 n,
          s.2 ++ List.replicate n (.call form path action)) := by
  induction n with
  | zero => rw [List.replicate_zero, List.append_nil]; rfl
  | succ n ih =>
    rw [after, ih, List.replicate_succ', ← List.append_assoc]
    rfl

/-- A call of the service, with its handle as it is handed out. -/
def baseStep (action : Action) (s : σ) : Except Error (Reply (Reader ρ) (Pager π) action) × σ :=
  ((service.call form path action s).1.map (Reply.unmarked path action),
    (service.call form path action s).2)

theorem base_eq_onService (action : Action) :
    base service form path action = Run.onService (baseStep service form path action) := by
  funext w
  rw [base_eq, Run.onService_apply]
  rfl

theorem after_baseStep (action : Action) (s : σ) (n : Nat) :
    after (baseStep service form path action) s n = after (service.call form path action) s n := by
  induction n with
  | zero => rfl
  | succ n ih =>
    rw [after, after, ih]
    rfl

theorem outcome_baseStep (action : Action) (s : σ) (n : Nat) :
    outcome (baseStep service form path action) s n
      = (outcome (service.call form path action) s n).map (Reply.unmarked path action) := by
  rw [outcome, after_baseStep]
  rfl

/-- A call through a layer that tries again. -/
theorem call_of_ends {action : Action} {w : World (σ × List Contact)} {errors : Nat → Error}
    {retries : Nat} {result : Except Error (Reply ρ π action)}
    (h : Ends b (service.call form path action) w.service.1 errors retries result) :
    call service.recorded [.retry b] form path action w
      = ((result.map (retriedReply b path action)).mapError .failed,
          { w with
            service := (after (service.call form path action) w.service.1 (retries + 1),
              w.service.2 ++ List.replicate (retries + 1) (.call form path action))
            events := w.events
              ++ retryEvents b (action.operation form) path errors retries }) := by
  have hbase : Ends b (baseStep service.recorded form path action) w.service errors retries
      (result.map (Reply.unmarked path action)) := by
    refine h.map b (Reply.unmarked path action) fun i _ => ?_
    rw [outcome_baseStep, outcome, after_recorded]
    rfl
  rw [call_cons, call_nil, base_eq_onService, Layer.around, Run.bind_apply,
    run_of_ends b _ path hbase, after_baseStep, after_recorded]
  cases result with
  | error e => rfl
  | ok reply => cases action <;> rfl

end Stack

/-! ### Pulls -/

namespace Pager

variable (service : Service σ ρ π) (b : Backoff) (form : Form)

/-- A pull from a pager of the service. -/
def pullStep (s : π × σ) : Except Error Page × (π × σ) := service.pull form s.1 s.2

/-- How many entries a pull has delivered. -/
def delivered : Except Error Page → Nat
  | .ok (some entries) => entries.length
  | _ => 0

/-- A pull from where the pages come, with what it changes in the pager and on record. -/
def sourceStep (s : (σ × List Contact) × Progress π) :
    Except Error Page × ((σ × List Contact) × Progress π) :=
  match s with
  | (s, .ready page, listed) => (.ok page, s, .ready none, listed + (page.getD []).length)
  | ((s, record), .service pager, listed) =>
    let (result, pager, s) := service.pull form pager s
    (result, (s, record ++ [.pull form]), .service pager, listed + delivered result)

theorem pullSource_eq_onService :
    pullSource service.recorded form = Run.onService (sourceStep service form) := by
  funext w
  obtain ⟨⟨⟨s, record⟩, source, listed⟩, permits, events, samples, printed⟩ := w
  cases source with
  | ready page => rfl
  | service q => rfl

/-- Where a pager of the service is after so many pulls, and what they leave on record. -/
def pulledState (s : π × σ) (record : List Contact) (listed n : Nat) :
    (σ × List Contact) × Progress π :=
  (((after (pullStep service form) s n).2, record ++ List.replicate n (.pull form)),
    .service (after (pullStep service form) s n).1, listed)

theorem sourceStep_pulledState (s : π × σ) (record : List Contact) (listed n : Nat) :
    sourceStep service form (pulledState service form s record listed n)
      = (outcome (pullStep service form) s n, pulledState service form s record
          (listed + delivered (outcome (pullStep service form) s n)) (n + 1)) := by
  rw [pulledState, pulledState, List.replicate_succ', ← List.append_assoc]
  rfl

variable {service b form}

/-- Pulls that fail deliver nothing. -/
theorem after_sourceStep {s : π × σ} {errors : Nat → Error} {t : Nat}
    (hfails : FailsFirst (pullStep service form) s errors t) (record : List Contact)
    (listed : Nat) {n : Nat} (hn : n ≤ t) :
    after (sourceStep service form) ((s.2, record), .service s.1, listed) n
      = pulledState service form s record listed n := by
  induction n with
  | zero =>
    rw [pulledState, List.replicate_zero, List.append_nil]
    rfl
  | succ n ih =>
    obtain ⟨herror, -⟩ := hfails n hn
    rw [after, ih (Nat.le_of_succ_le hn), sourceStep_pulledState, herror]
    rfl

/-- The last attempt delivers what the retries deliver. -/
theorem delivered_of_ends {s : π × σ} {errors : Nat → Error} {retries : Nat}
    {result : Except Error Page} (h : Ends b (pullStep service form) s errors retries result) :
    delivered result = delivered (outcome (pullStep service form) s retries) := by
  cases h with
  | head _ _ _ => rfl
  | more hfails ht =>
    obtain ⟨herror, -⟩ := hfails b.maxTimes ht
    rw [herror]
    rfl

/-- A pull through the mark of a layer that tries again. -/
theorem pull_of_ends {p : Pager π} {q : π} (hmarks : p.marks = [.retry b])
    (hsource : p.source = .service q) {w : World (σ × List Contact)} {errors : Nat → Error}
    {retries : Nat} {result : Except Error Page}
    (h : Ends b (pullStep service form) (q, w.service.1) errors retries result) :
    p.pull service.recorded form w
      = (result.mapError .failed,
          { p with
            source := .service (after (pullStep service form) (q, w.service.1) (retries + 1)).1
            listed := p.listed + delivered result },
          { w with
            service := ((after (pullStep service form) (q, w.service.1) (retries + 1)).2,
              w.service.2 ++ List.replicate (retries + 1) (.pull form))
            events := w.events
              ++ retryEvents b (.call form .list) p.path errors retries }) := by
  obtain ⟨source, path, listed, marks, owes⟩ := p
  cases hmarks
  cases hsource
  have hafter (n : Nat) (hn : n ≤ retries) :
      after (sourceStep service form) (w.service, PageSource.service q, listed) n
        = pulledState service form (q, w.service.1) w.service.2 listed n :=
    after_sourceStep h.failsFirst w.service.2 listed hn
  have hsame (i : Nat) (hi : i ≤ retries) :
      outcome (sourceStep service form) (w.service, PageSource.service q, listed) i
        = (outcome (pullStep service form) (q, w.service.1) i).map id := by
    rw [outcome, hafter i hi, sourceStep_pulledState, Except.map_id]
    rfl
  have hends := h.map b id hsame
  rw [Except.map_id] at hends
  have hrun := run_of_ends b (.call form .list) path
    (w := w.withService (w.service, PageSource.service q, listed)) hends
  have hlast : after (sourceStep service form) (w.service, PageSource.service q, listed)
      (retries + 1) = pulledState service form (q, w.service.1) w.service.2
        (listed + delivered result) (retries + 1) := by
    rw [after, hafter retries (Nat.le_refl retries), sourceStep_pulledState, delivered_of_ends h]
  rw [← pullSource_eq_onService] at hrun
  rw [pull_of_run rfl hrun, World.withService, hlast, id]
  rfl

end Pager

namespace Stack

variable {b : Backoff} {path : String}

/-- A layer that tries again gives pagers of the service with its mark. -/
theorem exists_source_of_isPagerOf {p : Pager π} (h : IsPagerOf [.retry b] path p) :
    ∃ q, p.source = .service q := by
  have hnot : ¬ p.source.isReady = true := by
    intro hready
    obtain ⟨paths, hmem⟩ := h.ready_iff.1 hready
    cases List.mem_singleton.1 hmem
  cases hsource : p.source with
  | service q => exact ⟨q, rfl⟩
  | ready page =>
    rw [hsource] at hnot
    exact absurd rfl hnot

/-- **The attempts of a layer that tries again are exact.**  Let the call inside give any sequence
of outcomes, of any length and from any state.  The attempts end in one of the two ways that
`Retry.Ends` tells.  With `retries` the errors for now at the head of the outcomes, or all that the
layer may pass over if these are more, the service is called `retries + 1` times, each time for the
same; then the layer ends as told, the service is where just these calls leave it, and one event is
logged for every retry, with the numbers from 1 on.  The same holds for the pulls of the pagers that
the layer gives, which deliver what the last pull delivers. -/
theorem attempts_exact (service : Service σ ρ π) (b : Backoff) (form : Form) (path : String) :
    (∀ action (w : World (σ × List Contact)),
      (∃ errors retries result,
        Ends b (service.call form path action) w.service.1 errors retries result)
      ∧ ∀ errors retries result,
        Ends b (service.call form path action) w.service.1 errors retries result →
        call service.recorded [.retry b] form path action w
          = ((result.map (retriedReply b path action)).mapError .failed,
              { w with
                service := (after (service.call form path action) w.service.1 (retries + 1),
                  w.service.2 ++ List.replicate (retries + 1) (.call form path action))
                events := w.events
                  ++ retryEvents b (action.operation form) path errors retries }))
    ∧ ∀ p, Gives service.recorded [.retry b] form path p → ∃ q, p.source = .service q ∧
      ∀ w : World (σ × List Contact),
        (∃ errors retries result,
          Ends b (Pager.pullStep service form) (q, w.service.1) errors retries result)
        ∧ ∀ errors retries result,
          Ends b (Pager.pullStep service form) (q, w.service.1) errors retries result →
          p.pull service.recorded form w
            = (result.mapError .failed,
                { p with
                  source := .service
                    (after (Pager.pullStep service form) (q, w.service.1) (retries + 1)).1
                  listed := p.listed + Pager.delivered result },
                { w with
                  service :=
                    ((after (Pager.pullStep service form) (q, w.service.1) (retries + 1)).2,
                      w.service.2 ++ List.replicate (retries + 1) (.pull form))
                  events := w.events
                    ++ retryEvents b (.call form .list) path errors retries }) := by
  constructor
  · intro action w
    exact ⟨exists_ends b _ _, fun errors retries result h => call_of_ends service b form path h⟩
  · intro p hp
    have his := isPagerOf_of_gives hp
    obtain ⟨q, hq⟩ := exists_source_of_isPagerOf his
    refine ⟨q, hq, fun w => ⟨exists_ends b _ _, fun errors retries result h => ?_⟩⟩
    rw [← his.path_eq]
    exact Pager.pull_of_ends his.marks_eq hq h

/-! ### A service that is busy for a while -/

/-- The error of a service that is busy. -/
def busy : Error := (Error.new .unexpected "busy").temporary

/-- The service is busy twice before it answers, and so is its pager. -/
def busyWorld : World (Scripted.State × List Contact) where
  service :=
    ({ outcomes := [(.call .async .delete, [.failed busy, .failed busy, .done]),
        (.call .async .list, [.list [.error busy, .error busy, .ok (some [])]])] }, [])

/-- The pager of that service through a layer that tries again twice. -/
def busyPager : Pager Scripted.Pages where
  source := .service [.error busy, .error busy, .ok (some [])]
  path := "d/"
  marks := [.retry { maxTimes := 2 }]

theorem attempts_exact_busy :
    let delete := flakyService.call .async "a" .delete
    let pull := Pager.pullStep flakyService .async
    let pages : Scripted.Pages := [.error busy, .error busy, .ok (some [])]
    let given : Error := { busy with
      status := .persistent
      context := [("retried", "1")] }
    Ends { maxTimes := 2 } delete busyWorld.service.1 (fun _ => busy) 2 (.ok ())
      ∧ Ends { maxTimes := 1 } delete busyWorld.service.1 (fun _ => busy) 1 (.error given)
      ∧ Gives flakyService.recorded [.retry { maxTimes := 2 }] .async "d/" busyPager
      ∧ Ends { maxTimes := 2 } pull (pages, busyWorld.service.1) (fun _ => busy) 2 (.ok (some []))
      ∧ (call flakyService.recorded [.retry { maxTimes := 2 }] .async "a" .delete busyWorld).1
        = .ok ()
      ∧ (call flakyService.recorded [.retry { maxTimes := 1 }] .async "a" .delete busyWorld).1
        = .error (.failed given)
      ∧ (busyPager.pull flakyService.recorded .async busyWorld).2.2.service.2
        = List.replicate 3 (.pull .async) := by
  intro delete pull pages given
  have hdelete : FailsFirst delete busyWorld.service.1 (fun _ => busy) 2
      ∧ outcome delete busyWorld.service.1 2 = .ok () := by
    refine ⟨fun i hi => ?_, rfl⟩
    interval_cases i <;> exact ⟨rfl, rfl⟩
  have hpull : FailsFirst pull (pages, busyWorld.service.1) (fun _ => busy) 2
      ∧ outcome pull (pages, busyWorld.service.1) 2 = .ok (some []) := by
    refine ⟨fun i hi => ?_, rfl⟩
    interval_cases i <;> exact ⟨rfl, rfl⟩
  have hcured : Ends { maxTimes := 2 } delete busyWorld.service.1 (fun _ => busy) 2 (.ok ()) :=
    hdelete.2 ▸ .head hdelete.1 (Nat.le_refl 2) (hdelete.2 ▸ not_isTemporary_ok ())
  have hgiven : Ends { maxTimes := 1 } delete busyWorld.service.1 (fun _ => busy) 1
      (.error given) := .more hdelete.1 (Nat.lt_succ_self 1)
  have hpage : Ends { maxTimes := 2 } pull (pages, busyWorld.service.1) (fun _ => busy) 2
      (.ok (some [])) :=
    hpull.2 ▸ .head hpull.1 (Nat.le_refl 2) (hpull.2 ▸ not_isTemporary_ok (some []))
  have hgives : Gives flakyService.recorded [.retry { maxTimes := 2 }] .async "d/" busyPager :=
    .listed (w := busyWorld) rfl
  obtain ⟨hcalls, -⟩ := attempts_exact flakyService { maxTimes := 2 } .async "a"
  obtain ⟨hcalls', -⟩ := attempts_exact flakyService { maxTimes := 1 } .async "a"
  obtain ⟨-, hpulls⟩ := attempts_exact flakyService { maxTimes := 2 } .async "d/"
  obtain ⟨q, hq, hpulled⟩ := hpulls busyPager hgives
  cases hq
  refine ⟨hcured, hgiven, hgives, hpage, ?_, ?_, ?_⟩
  · rw [(hcalls .delete busyWorld).2 _ _ _ hcured]
    rfl
  · rw [(hcalls' .delete busyWorld).2 _ _ _ hgiven]
    rfl
  · rw [(hpulled busyWorld).2 _ _ _ hpage]
    rfl

end Stack

end ObjectStorage
