import ObjectStorage.Proofs.Layer.Observer
import ObjectStorage.Proofs.Layer.Visits
import ObjectStorage.Proofs.Metrics.Report
import ObjectStorage.Service.Scripted

/-!
# What the metrics count

A layer that measures stands somewhere in a stack, with any layers above and below it, of which no
other one measures.  A journal that is kept right above it tells which calls get there and how they
end, and exactly these are counted: each once, under its own operation, and under the kind of its
error if it fails.  Only of calls that never end, as they wait for a permit of a limit below, is
there nothing to count.

* `Visit.sample?`, `Accounts` — what is measured of a visit, and books that tell the same;
* `Stack.accounts_call`, `Stack.accounts_info` — calls and questions through the stack;
* `Metrics.journal` — the journal of a run, and `Metrics.samples_run`, what is measured of it;
* `Metrics.Counted` — the numbers of one operation, as the metrics report them;
* `Metrics.counts_exactly` — the numbers are right, and what they count above and below retries.
-/

namespace ObjectStorage

variable {σ ρ π τ α : Type}

/-! ### What is measured of a visit -/

namespace Visit

/-- The kind of the error with which a visit ended. -/
def failure? (v : Visit) : Option ErrorKind :=
  match v.ending with
  | .error (.failed e) => some e.kind
  | _ => none

/-- Does the call still wait for a permit? -/
def isWaiting (v : Visit) : Bool :=
  match v.ending with
  | .error .waiting => true
  | _ => false

/-- What is measured of a visit, once the call has ended. -/
def sample? (scheme : Scheme) (v : Visit) : Option Sample :=
  if v.isWaiting then none else some ⟨scheme, v.operation, v.failure?⟩

variable {v : Visit}

theorem sample?_of_waiting (h : v.isWaiting = true) (scheme : Scheme) : v.sample? scheme = none :=
  if_pos h

theorem sample?_of_ended (h : v.isWaiting = false) (scheme : Scheme) :
    v.sample? scheme = some ⟨scheme, v.operation, v.failure?⟩ := if_neg (by simp [h])

theorem failure?_of_waiting (h : v.isWaiting = true) : v.failure? = none := by
  obtain ⟨operation, (e | _) | a⟩ := v
  · cases h
  · rfl
  · cases h

end Visit

/-- The journal and the samples were continued with the same visits, of which some may still wait if
there is anything to wait for. -/
def Accounts (mayWait : Prop) (scheme : Scheme) (w w' : World (σ × List Visit)) : Prop :=
  ∃ visits, w'.service.2 = w.service.2 ++ visits
    ∧ w'.samples = w.samples ++ visits.filterMap (Visit.sample? scheme)
    ∧ ∀ v ∈ visits, v.isWaiting = true → mayWait

theorem accounting_accounts (mayWait : Prop) (scheme : Scheme) :
    Accounting (Accounts (σ := σ) mayWait scheme) where
  same hservice hsamples := by
    refine ⟨[], ?_, ?_, nofun⟩
    · rw [hservice, List.append_nil]
    · rw [hsamples, List.filterMap_nil, List.append_nil]
  trans := by
    rintro w w' w'' ⟨visits, hjournal, hsamples, hwaiting⟩
      ⟨visits', hjournal', hsamples', hwaiting'⟩
    refine ⟨visits ++ visits', ?_, ?_, fun v hmem => ?_⟩
    · rw [hjournal', hjournal, List.append_assoc]
    · rw [hsamples', hsamples, List.filterMap_append, List.append_assoc]
    · exact (List.mem_append.1 hmem).elim (hwaiting v) (hwaiting' v)

theorem accounting_samples : Accounting fun w w' : World τ => w'.samples = w.samples where
  same _ hsamples := hsamples
  trans h h' := h'.trans h

/-! ### Calls and questions -/

namespace Stack

variable (service : Service σ ρ π)

/-- A call waits only for a permit of a limit that it gets to. -/
theorem limit_mem_of_waiting {layers : List Layer} {form : Form} {path : String} {action : Action}
    {w : World σ} (h : (call service layers form path action w).1 = .error .waiting) :
    ∃ n, .limit n ∈ layers := by
  induction layers generalizing w with
  | nil =>
    rw [call_nil, base_eq] at h
    generalize (service.call form path action w.service).1 = answer at h
    cases answer <;> cases h
  | cons layer layers ih =>
    rw [call_cons, Layer.around_eq] at h
    cases henter : Layer.enter service.info form path action
        (call service layers form path action) layer w with
    | inl v =>
      rw [henter] at h
      have hinside : (call service layers form path action v).1 = .error .waiting := by
        dsimp only at h
        generalize (call service layers form path action v).1 = result at h
        rcases result with (e | _) | reply
        · cases h
        · rfl
        · cases h
      obtain ⟨n, hmem⟩ := ih hinside
      exact ⟨n, List.mem_cons_of_mem layer hmem⟩
    | inr answer =>
      rw [henter] at h
      obtain ⟨n, stop, w', rfl, -⟩ | ⟨paths, reply, -, rfl⟩ := Layer.enter_answer henter
      · exact ⟨n, List.mem_cons_self⟩
      · cases h

/-- A service tells what it is through any layers. -/
theorem info_ok (layers : List Layer) (w : World σ) :
    ∃ told w', info service layers w = (.ok told, w') ∧ told.scheme = service.info.scheme := by
  induction layers generalizing w with
  | nil => exact ⟨service.info, w, rfl, rfl⟩
  | cons layer layers ih =>
    obtain ⟨told, w', hinfo, hscheme⟩ := ih w
    cases layer with
    | context | retry b | limit n => exact ⟨told, w', hinfo, hscheme⟩
    | logging => exact ih { w with events := w.events ++ [.metadataAsked service.info.scheme] }
    | index paths => exact ⟨_, w', Run.bind_of_ok hinfo, hscheme⟩
    | metrics => exact ⟨told, _, Run.bind_of_ok hinfo, hscheme⟩

variable {above below : List Layer} (habove : .metrics ∉ above) (hbelow : .metrics ∉ below)

section

variable (form : Form) (path : String) (action : Action)

include hbelow in
/-- Where no layer measures, nothing is measured. -/
theorem samples_call (w : World σ) :
    (call service below form path action w).2.samples = w.samples := by
  induction below generalizing w with
  | nil => rw [call_nil, base_eq]
  | cons layer below ih =>
    obtain ⟨hlayer, hrest⟩ := List.ne_and_not_mem_of_not_mem_cons hbelow
    exact accounting_samples.around hlayer.symm (ih hrest) w

include hbelow in
theorem samples_info (w : World σ) : (info service below w).2.samples = w.samples := by
  induction below generalizing w with
  | nil => rfl
  | cons layer below ih =>
    obtain ⟨hlayer, hrest⟩ := List.ne_and_not_mem_of_not_mem_cons hbelow
    exact accounting_samples.aroundInfo hlayer.symm (ih hrest) w

include hbelow in
/-- A call that gets to the layer that measures is measured there as the journal has it. -/
theorem accounts_visit :
    ((call service.journaled (.metrics :: below) form path action).journaled
        (action.operation form)).Moves
      (Accounts (∃ n, .limit n ∈ below) service.info.scheme) := by
  intro w
  have hjournal := journal_call service below form path action w
  have hsamples := samples_call service.journaled hbelow form path action w
  have hwaiting : (call service.journaled below form path action w).1 = .error .waiting →
      ∃ n, .limit n ∈ below := limit_mem_of_waiting service.journaled
  have hcall : (call service.journaled (.metrics :: below) form path action).journaled
        (action.operation form) w
      = (let (result, w') := Layer.around service.info form path action
            (call service.journaled below form path action) .metrics w
        (result, w'.withService
          (w'.service.1, w'.service.2 ++ [⟨action.operation form, endingOf result⟩]))) := rfl
  rw [hcall, Layer.around_eq]
  dsimp only [Layer.enter]
  generalize call service.journaled below form path action w = ended at hjournal hsamples hwaiting
  obtain ⟨result, w'⟩ := ended
  refine ⟨[⟨action.operation form, endingOf result⟩], ?_, ?_, ?_⟩
  · rcases result with (e | _) | reply <;> exact congrArg (· ++ _) hjournal
  · rcases result with (e | _) | reply
    · exact congrArg (· ++ _) hsamples
    · exact hsamples.trans (List.append_nil _).symm
    · exact congrArg (· ++ _) hsamples
  · intro v hmem hv
    obtain rfl := List.mem_singleton.1 hmem
    rcases result with (e | _) | reply
    · cases hv
    · exact hwaiting rfl
    · cases hv

include habove hbelow in
/-- **A call through the stack** is accounted for.  By induction on the layers above. -/
theorem accounts_call :
    (journaledCall service above (.metrics :: below) form path action).Moves
      (Accounts (∃ n, .limit n ∈ below) service.info.scheme) := by
  induction above with
  | nil => exact accounts_visit service hbelow form path action
  | cons layer above ih =>
    obtain ⟨hlayer, hrest⟩ := List.ne_and_not_mem_of_not_mem_cons habove
    exact (accounting_accounts _ _).around hlayer.symm (ih hrest)

end

/-- Whoever asks what the service is gets to the journal once, and is answered. -/
theorem journaledInfo_visits (above inside : List Layer) (w : World (σ × List Visit)) :
    (journaledInfo service above inside w).2.service.2 = w.service.2 ++ [⟨.metadata, .ok ()⟩] := by
  induction above generalizing w with
  | nil =>
    obtain ⟨told, w', hinfo, -⟩ := info_ok service.journaled inside w
    have hjournal := journal_info service inside w
    rw [hinfo] at hjournal
    have hvisit : ((info service.journaled inside).journaled .metadata w).2.service.2
        = (info service.journaled inside w).2.service.2
          ++ [⟨.metadata, endingOf (info service.journaled inside w).1⟩] := rfl
    refine hvisit.trans ?_
    rw [hinfo, hjournal]
    rfl
  | cons layer above ih =>
    exact Layer.aroundInfo_once
      (R := fun (s s' : σ × List Visit) => s'.2 = s.2 ++ [⟨.metadata, .ok ()⟩]) ih layer w

include habove hbelow in
/-- **The question what a service is** is accounted for. -/
theorem accounts_info :
    (journaledInfo service above (.metrics :: below)).Moves
      (Accounts (∃ n, .limit n ∈ below) service.info.scheme) := by
  induction above with
  | nil =>
    intro w
    obtain ⟨told, w', hinfo, hscheme⟩ := info_ok service.journaled below w
    have hsamples := samples_info service.journaled hbelow w
    have hjournal := journal_info service below w
    rw [hinfo] at hsamples hjournal
    have hasked : info service.journaled (.metrics :: below) w
        = (.ok told, { w' with samples := w'.samples ++ [⟨told.scheme, .metadata, none⟩] }) :=
      Run.bind_of_ok hinfo
    refine ⟨[⟨.metadata, .ok ()⟩], journaledInfo_visits service [] _ w, ?_, ?_⟩
    · show (info service.journaled (.metrics :: below) w).2.samples = _
      rw [hasked, hscheme]
      exact congrArg (· ++ _) hsamples
    · intro v hmem hv
      obtain rfl := List.mem_singleton.1 hmem
      cases hv
  | cons layer above ih =>
    obtain ⟨hlayer, hrest⟩ := List.ne_and_not_mem_of_not_mem_cons habove
    exact (accounting_accounts _ _).aroundInfo hlayer.symm (ih hrest)

end Stack

/-! ### Pulls -/

/-- Pulls are not measured. -/
theorem Pager.samples_pull (service : Service σ ρ π) (form : Form) (p : Pager π) (w : World σ) :
    (p.pull service form w).2.2.samples = w.samples := by
  have hnoted (m : PagerMark) (result : Except Stop Page) (v : World (σ × Pager.Progress π)) :
      (PagerMark.noted service.info p.path m result v).samples = v.samples := by
    cases m with
    | context | retry b => rfl
    | logged => rcases result with (e | _) | (_ | entries) <;> rfl
  rw [pull_eq]
  exact moves_pullThrough accounting_samples.ledger service form p.path (fun _ => rfl)
    (fun m _ => hnoted m) (p.pullWorld w)

namespace Metrics

open Observer

/-! ### Runs -/

section

variable (service : Service σ ρ π) (above below : List Layer)

/-- What one deed writes in the journal above the layer that measures.  Pulls, reads and closes do
not get there. -/
def visitsOf (deed : Deed) (w : World σ) : List Visit :=
  match deed with
  | .ask => Stack.infoVisits service above (.metrics :: below) w
  | .call form path action => Stack.callVisits service above (.metrics :: below) form path action w
  | .pull _ | .read _ _ | .close _ => []

/-- The journal of a run, above the layer that measures. -/
def journal : List Deed → Stage σ ρ π → List Visit
  | [], _ => []
  | deed :: deeds, stage =>
    visitsOf service above below deed stage.world
      ++ journal deeds (step { service, layers := above ++ .metrics :: below } deed stage).2

variable {above below} (habove : .metrics ∉ above) (hbelow : .metrics ∉ below)
include habove hbelow

/-- **One deed**: what is measured is what the journal has. -/
theorem samples_step (deed : Deed) (stage : Stage σ ρ π) :
    (step { service, layers := above ++ .metrics :: below } deed stage).2.world.samples
        = stage.world.samples ++ (visitsOf service above below deed stage.world).filterMap
          (Visit.sample? service.info.scheme)
      ∧ ∀ v ∈ visitsOf service above below deed stage.world,
        v.isWaiting = true → ∃ n, .limit n ∈ below := by
  have hnothing (w : World σ) (h : w.samples = stage.world.samples) :
      w.samples = stage.world.samples ++ [].filterMap (Visit.sample? service.info.scheme)
        ∧ ∀ v ∈ ([] : List Visit), v.isWaiting = true → ∃ n, .limit n ∈ below :=
    ⟨h.trans (List.append_nil _).symm, nofun⟩
  cases deed with
  | ask =>
    obtain ⟨visits, hjournal, hsamples, hwaiting⟩ :=
      Stack.accounts_info service habove hbelow stage.world.journaled
    obtain rfl : Stack.infoVisits service above (.metrics :: below) stage.world = visits := hjournal
    have hplain := Stack.journals_info service above (.metrics :: below) stage.world.journaled
    refine ⟨?_, hwaiting⟩
    show (Stack.info service (above ++ .metrics :: below) stage.world).2.samples = _
    rw [show stage.world = stage.world.journaled.unjournaled from rfl, hplain]
    exact hsamples
  | call form path action =>
    obtain ⟨visits, hjournal, hsamples, hwaiting⟩ :=
      Stack.accounts_call service habove hbelow form path action stage.world.journaled
    obtain rfl : Stack.callVisits service above (.metrics :: below) form path action stage.world
      = visits := hjournal
    have hplain := Stack.journals_call service above (.metrics :: below) form path action
      stage.world.journaled
    refine ⟨?_, hwaiting⟩
    show (Stack.call service (above ++ .metrics :: below) form path action
      stage.world).2.samples = _
    rw [show stage.world = stage.world.journaled.unjournaled from rfl, hplain]
    exact hsamples
  | pull slot =>
    rw [step]
    split
    · exact hnothing _ (Pager.samples_pull _ _ _ _)
    · exact hnothing _ rfl
  | read slot count =>
    rw [step]
    split
    · exact hnothing _ rfl
    · exact hnothing _ rfl
  | close slot =>
    rw [step]
    split
    · next form handle hslot =>
      rw [Handle.close_apply]
      exact hnothing _ rfl
    · exact hnothing _ rfl

/-- **What is measured of a run** is what its journal has.  By induction on the deeds. -/
theorem samples_run (deeds : List Deed) (stage : Stage σ ρ π) :
    (run { service, layers := above ++ .metrics :: below } deeds stage).2.world.samples
        = stage.world.samples ++ (journal service above below deeds stage).filterMap
          (Visit.sample? service.info.scheme)
      ∧ ∀ v ∈ journal service above below deeds stage,
        v.isWaiting = true → ∃ n, .limit n ∈ below := by
  induction deeds generalizing stage with
  | nil => exact ⟨(List.append_nil _).symm, nofun⟩
  | cons deed deeds ih =>
    obtain ⟨hfirst, hwaiting⟩ := samples_step service habove hbelow deed stage
    obtain ⟨hrest, hwaiting'⟩ :=
      ih (step { service, layers := above ++ .metrics :: below } deed stage).2
    refine ⟨?_, fun v hmem => (List.mem_append.1 hmem).elim (hwaiting v) (hwaiting' v)⟩
    rw [journal, List.filterMap_append, ← List.append_assoc, ← hfirst]
    exact hrest

end

/-! ### The numbers -/

/-- How often calls of an operation got to the layer that measures. -/
def reached (visits : List Visit) (operation : Operation) : Nat :=
  visits.countP fun v => v.operation = operation

/-- How many of them wait there for a permit. -/
def waiting (visits : List Visit) (operation : Operation) : Nat :=
  visits.countP fun v => v.operation = operation ∧ v.isWaiting = true

/-- How many of them failed with an error of a kind. -/
def failed (visits : List Visit) (operation : Operation) (kind : ErrorKind) : Nat :=
  visits.countP fun v => v.operation = operation ∧ v.failure? = some kind

variable (scheme : Scheme) (visits : List Visit) (operation : Operation)

/-- **Every visit that ended is counted** as a request. -/
theorem requests_visits :
    requests (visits.filterMap (Visit.sample? scheme)) scheme operation + waiting visits operation
      = reached visits operation := by
  induction visits with
  | nil => rfl
  | cons v visits ih =>
    rw [reached, List.countP_cons, ← reached, ← ih, waiting, List.countP_cons, ← waiting]
    cases hv : v.isWaiting with
    | true =>
      rw [List.filterMap_cons_none (Visit.sample?_of_waiting hv scheme)]
      by_cases hop : v.operation = operation <;> simp [hop, Nat.add_assoc]
    | false =>
      rw [List.filterMap_cons_some (Visit.sample?_of_ended hv scheme), requests, List.countP_cons,
        ← requests]
      by_cases hop : v.operation = operation <;> simp [hop, Nat.add_right_comm]

/-- **Every visit that failed is counted** as an error of its kind. -/
theorem errors_visits (kind : ErrorKind) :
    errors (visits.filterMap (Visit.sample? scheme)) scheme operation kind
      = failed visits operation kind := by
  induction visits with
  | nil => rfl
  | cons v visits ih =>
    rw [failed, List.countP_cons, ← failed, ← ih]
    cases hv : v.isWaiting with
    | true =>
      rw [List.filterMap_cons_none (Visit.sample?_of_waiting hv scheme),
        Visit.failure?_of_waiting hv]
      simp
    | false =>
      rw [List.filterMap_cons_some (Visit.sample?_of_ended hv scheme), errors, List.countP_cons,
        ← errors]
      simp

theorem waiting_eq_zero {visits : List Visit} (h : ∀ v ∈ visits, v.isWaiting = false)
    (operation : Operation) : waiting visits operation = 0 := by
  refine List.countP_eq_zero.2 fun v hmem hv => ?_
  rw [decide_eq_true_eq, h v hmem] at hv
  cases hv.2

/-- What is measured of visits has the labels of one service. -/
theorem requests_visits_of_ne {scheme' : Scheme} (h : scheme' ≠ scheme) :
    requests (visits.filterMap (Visit.sample? scheme)) scheme' operation = 0 := by
  refine List.countP_eq_zero.2 fun s hmem hs => ?_
  obtain ⟨v, -, hsample⟩ := List.mem_filterMap.1 hmem
  rw [decide_eq_true_eq] at hs
  cases hv : v.isWaiting with
  | true =>
    rw [Visit.sample?_of_waiting hv] at hsample
    cases hsample
  | false =>
    rw [Visit.sample?_of_ended hv] at hsample
    cases hsample
    exact h hs.1.symm

/-- **The numbers of one operation**: what the metrics count against the journal, and the lines of
the report that tell the numbers. -/
structure Counted (samples : List Sample) (scheme : Scheme) (visits : List Visit)
    (operation : Operation) : Prop where
  requests_eq : requests samples scheme operation + waiting visits operation
    = reached visits operation
  errors_eq (kind : ErrorKind) :
    errors samples scheme operation kind = failed visits operation kind
  sum_le : (ErrorKind.names.map fun named => errors samples scheme operation named.1).sum
    ≤ requests samples scheme operation
  elsewhere (scheme' : Scheme) (h : scheme' ≠ scheme) : requests samples scheme' operation = 0
  requests_told (count : Nat) : requestsLine scheme operation count ∈ report samples
    ↔ count = requests samples scheme operation ∧ count ≠ 0
  durations_told (count : Nat) : durationsLine scheme operation count ∈ report samples
    ↔ count = requests samples scheme operation ∧ count ≠ 0
  errors_told (kind : ErrorKind) (count : Nat) :
    errorsLine scheme operation kind count ∈ report samples
      ↔ count = errors samples scheme operation kind ∧ count ≠ 0

/-- What is measured of visits counts them. -/
theorem counted_visits :
    Counted (visits.filterMap (Visit.sample? scheme)) scheme visits operation where
  requests_eq := requests_visits scheme visits operation
  errors_eq := errors_visits scheme visits operation
  sum_le := sum_errors_le_requests _ scheme operation
  elsewhere _ h := requests_visits_of_ne scheme visits operation h
  requests_told := requestsLine_mem_report_iff _ scheme operation
  durations_told := durationsLine_mem_report_iff _ scheme operation
  errors_told := errorsLine_mem_report_iff _ scheme operation

/-- **Metrics count exactly.**  Let a layer that measures stand in any stack on any service, where
no other one measures, and let anything be done with the operator and its handles from a world in
which nothing was measured.  For every operation the metrics tell how many calls of it got to the
layer, but for those that wait there for a permit, and how many of them failed with errors of each
kind.  Who asks what the service is gets to the layer once.  A call of which the layers above let
everything in gets there once if none of them tries again, and ends as it did there; if some do, it
gets there once for each attempt, with what that attempt ended with.  None of this is changed by the
journal that tells it. -/
theorem counts_exactly (service : Service σ ρ π) {above below : List Layer}
    (habove : .metrics ∉ above) (hbelow : .metrics ∉ below) (deeds : List Deed) {w : World σ}
    (hw : w.samples = []) :
    let inside := .metrics :: below
    let samples :=
      (run { service, layers := above ++ inside } deeds { world := w }).2.world.samples
    let visits := journal service above below deeds { world := w }
    (∀ operation, Counted samples service.info.scheme visits operation
        ∧ ((∀ n, .limit n ∉ below) → waiting visits operation = 0))
      ∧ (∀ v : World σ, Stack.infoVisits service above inside v = [⟨.metadata, .ok ()⟩]
        ∧ Stack.info service (above ++ inside) v
          = ((Stack.journaledInfo service above inside v.journaled).1,
            (Stack.journaledInfo service above inside v.journaled).2.unjournaled))
      ∧ ∀ (form : Form) (path : String) (action : Action) (v : World σ),
        Stack.call service (above ++ inside) form path action v
            = ((Stack.journaledCall service above inside form path action v.journaled).1,
              (Stack.journaledCall service above inside form path action v.journaled).2.unjournaled)
          ∧ ((∀ layer ∈ above, layer.LetsIn) → ∃ errors last,
            Tried (action.operation form) (Stack.retries above) errors last
                (Stack.callVisits service above inside form path action v)
              ∧ endingOf (Stack.call service (above ++ inside) form path action v).1
                = last.mapError (Stop.map (Stack.handedOn service form path action above))
              ∧ (∀ e, (Stack.handedOn service form path action above e).kind = e.kind)
              ∧ ((∀ b, .retry b ∉ above) →
                Stack.callVisits service above inside form path action v
                  = [⟨action.operation form, last⟩])) := by
  intro inside samples visits
  obtain ⟨hsamples, hwaiting⟩ := samples_run service habove hbelow deeds { world := w }
  rw [hw, List.nil_append] at hsamples
  refine ⟨fun operation => ⟨?_, fun hlimit => waiting_eq_zero (fun v hmem => ?_) operation⟩,
    fun v => ⟨Stack.journaledInfo_visits service above inside v.journaled,
      Stack.journals_info service above inside v.journaled⟩,
    fun form path action v =>
      ⟨Stack.journals_call service above inside form path action v.journaled, fun hopen => ?_⟩⟩
  · have hcounted := counted_visits service.info.scheme visits operation
    rw [← hsamples] at hcounted
    exact hcounted
  · refine Bool.eq_false_iff.2 fun hv => ?_
    obtain ⟨n, hmem⟩ := hwaiting v hmem hv
    exact hlimit n hmem
  · obtain ⟨errors, last, htried, hending⟩ :=
      Stack.tried_callVisits service form path action hopen inside v
    refine ⟨errors, last, htried, hending, Stack.kind_handedOn service form path action above,
      fun hretry => ?_⟩
    rw [Stack.retries_of_not_mem hretry] at htried
    exact htried.visits_eq_of_once

/-! ### One retry, above and below -/

/-- A service that fails for now when it is first asked about an object, and then has none. -/
def goneService : Service Scripted.State Scripted.Pieces Scripted.Pages :=
  Scripted.service { scheme := .memory }

/-- The world of this service, in which nothing was measured. -/
def goneWorld : World Scripted.State where
  service := {
    outcomes := [(.call .async .stat, [.failed (Error.new .unexpected "busy").temporary,
      .failed (.new .objectNotFound "gone")])] }

/-- What is done: to ask what the service is, and to ask about an object. -/
def twoDeeds : List Deed := [.ask, .call .async "a" .stat]

/-- Below a layer that tries again both attempts are counted, and above it the call is. -/
theorem counts_exactly_retried :
    let once : List Layer := [.retry { maxTimes := 1 }]
    let below := journal goneService once [] twoDeeds { world := goneWorld }
    let above := journal goneService [] once twoDeeds { world := goneWorld }
    let samplesBelow := (run { service := goneService, layers := once ++ [.metrics] } twoDeeds
      { world := goneWorld }).2.world.samples
    let samplesAbove := (run { service := goneService, layers := .metrics :: once } twoDeeds
      { world := goneWorld }).2.world.samples
    (.metrics ∉ once ∧ .metrics ∉ ([] : List Layer) ∧ goneWorld.samples = [])
      ∧ reached below (.call .async .stat) = 2 ∧ reached below .metadata = 1
      ∧ failed below (.call .async .stat) .unexpected = 1
      ∧ failed below (.call .async .stat) .objectNotFound = 1
      ∧ reached above (.call .async .stat) = 1
      ∧ failed above (.call .async .stat) .objectNotFound = 1
      ∧ (∀ operation, Counted samplesBelow .memory below operation
        ∧ Counted samplesAbove .memory above operation)
      ∧ requestsLine .memory (.call .async .stat) 2 ∈ report samplesBelow
      ∧ errorsLine .memory (.call .async .stat) .objectNotFound 1 ∈ report samplesAbove := by
  intro once below above samplesBelow samplesAbove
  have honce : .metrics ∉ once := by
    intro hmem
    cases List.mem_singleton.1 hmem
  obtain ⟨hbelow, -⟩ := counts_exactly goneService honce List.not_mem_nil twoDeeds
    (w := goneWorld) rfl
  obtain ⟨habove, -⟩ := counts_exactly goneService List.not_mem_nil honce twoDeeds
    (w := goneWorld) rfl
  refine ⟨⟨honce, List.not_mem_nil, rfl⟩, rfl, rfl, rfl, rfl, rfl, rfl,
    fun operation => ⟨(hbelow operation).1, (habove operation).1⟩, ?_, ?_⟩
  · exact ((hbelow (.call .async .stat)).1.requests_told 2).2 ⟨rfl, by decide⟩
  · exact ((habove (.call .async .stat)).1.errors_told .objectNotFound 1).2 ⟨rfl, by decide⟩

end Metrics

end ObjectStorage
