import ObjectStorage.Proofs.Layer.Limit

/-!
# How a call passes a layer

A call through a layer has three parts: the layer lets it in, or answers itself; the call inside;
and what the layer makes of the way in which that ended.  For a layer that tries again the call
inside is the last one, and the earlier ones belong to the way in.  The pulls of a pager pass the
marks of layers in the same way.

* `Retry.lastTry`, `Retry.attempts_eq` — an operation with retries ends as its last attempt does;
* `Layer.enter`, `Layer.passed`, `Layer.dressed`, `Layer.noted` — the parts of a call;
* `Layer.around_eq` — a call through a layer, in its parts;
* `Layer.enter_answer` — which layers answer a call themselves;
* `PagerMark.around_eq` — a pull through the mark of a layer, in its parts.
-/

namespace ObjectStorage

variable {σ ρ π α : Type}

/-- Change the error of an operation that failed. -/
def Stop.map (f : Error → Error) : Stop → Stop
  | .failed e => .failed (f e)
  | .waiting => .waiting

theorem Stop.map_id (s : Stop) : s.map id = s := by
  cases s <;> rfl

namespace Run

theorem attempt_of_waiting {x : Run σ α} {w w' : World σ} (h : x w = (.error .waiting, w')) :
    x.attempt w = (.error .waiting, w') := by
  simp only [attempt, h]

theorem mapError_eq (f : Error → Error) (x : Run σ α) (w : World σ) :
    x.mapError f w = ((x w).1.mapError (Stop.map f), (x w).2) := by
  cases h : x w with
  | mk r w' =>
    cases r with
    | ok a => rw [mapError_of_ok h]; rfl
    | error s =>
      cases s with
      | failed e => rw [mapError_of_failed h]; rfl
      | waiting => simp only [mapError, h]; rfl

end Run

/-! ### Trying again -/

namespace Retry

/-- What becomes of an error that is not tried again. -/
def conclude (b : Backoff) (e : Error) : Error :=
  if e.isTemporary then e.exhausted b.maxTimes else e

section

variable (b : Backoff) (operation : Operation) (path : String) (x : Run σ α)

/-- The world in which the last attempt begins, with at most `left` retries. -/
def lastTry : (left : Nat) → World σ → World σ
  | 0, w => w
  | left + 1, w => match x w with
    | (.error (.failed e), w') =>
      if e.isTemporary then
        lastTry left { w' with events := w'.events ++ [.retrying operation path
          (b.maxTimes - left) (b.delay (b.maxTimes - left)) e] }
      else w
    | _ => w

/-- **An operation with retries ends as its last attempt does**, but that an error for now is
marked as one that retries did not cure.  By induction on the retries that are left. -/
theorem attempts_eq (left : Nat) (w : World σ) :
    attempts b operation path x left w
      = ((x (lastTry b operation path x left w)).1.mapError (Stop.map (conclude b)),
          (x (lastTry b operation path x left w)).2) := by
  induction left generalizing w with
  | zero =>
    rw [attempts, lastTry]
    cases h : x w with
    | mk r w' =>
      cases r with
      | ok a => rw [Run.bind_of_ok (Run.attempt_of_ok h)]; rfl
      | error s =>
        cases s with
        | failed e => rw [Run.bind_of_ok (Run.attempt_of_failed h)]; rfl
        | waiting => rw [Run.bind_of_error (Run.attempt_of_waiting h)]; rfl
  | succ left ih =>
    cases h : x w with
    | mk r w' =>
      cases r with
      | ok a => simp only [attempts_of_ok h, lastTry, h]; rfl
      | error s =>
        cases s with
        | failed e =>
          by_cases he : e.isTemporary
          · simp only [attempts_of_temporary h he, lastTry, h, he, if_true]
            exact ih _
          · rw [attempts, Run.bind_of_ok (Run.attempt_of_failed h)]
            have hconclude : conclude b e = e := if_neg he
            simp only [lastTry, h, he, Bool.false_eq_true, if_false, Run.fail_apply]
            show _ = ((.error (.failed (conclude b e)), w') : Except Stop α × World σ)
            rw [hconclude]
        | waiting =>
          rw [attempts, Run.bind_of_error (Run.attempt_of_waiting h)]
          simp only [lastTry, h]
          rfl

/-- What every attempt that fails for now keeps of the state of the service still holds when the
last one begins. -/
theorem lastTry_keeps_of_temporary {P : σ → Prop}
    (hx : ∀ w w' e, x w = (.error (.failed e), w') → e.isTemporary = true → P w.service →
      P w'.service) (left : Nat) {w : World σ} (hw : P w.service) :
    P (lastTry b operation path x left w).service := by
  induction left generalizing w with
  | zero => exact hw
  | succ left ih =>
    rw [lastTry]
    rcases h : x w with ⟨(e | _) | a, w'⟩
    · by_cases he : e.isTemporary
      · simp only [he, if_true]
        exact ih (hx w w' e h he hw)
      · simp only [he, Bool.false_eq_true, if_false]
        exact hw
    · exact hw
    · exact hw

/-- What every attempt keeps of the state of the service still holds when the last one begins. -/
theorem lastTry_keeps {P : σ → Prop} (hx : ∀ w, P w.service → P (x w).2.service) (left : Nat)
    {w : World σ} (hw : P w.service) : P (lastTry b operation path x left w).service :=
  lastTry_keeps_of_temporary b operation path x
    (fun w _ _ h _ hw => (congrArg (fun ended => P ended.2.service) h).mp (hx w hw)) left hw

end

end Retry

/-! ### Calls -/

namespace Layer

section

variable (info : ServiceInfo) (form : Form) (path : String) (action : Action)

/-- How a layer begins: it lets the call in, for the last time, or it answers itself. -/
def enter (inner : Run σ (Reply (Reader ρ) (Pager π) action)) :
    Layer → World σ → World σ ⊕ Except Stop (Reply (Reader ρ) (Pager π) action)
  | .context, w | .metrics, w => .inl w
  | .retry b, w => .inl (Retry.lastTry b (action.operation form) path inner b.maxTimes w)
  | .limit n, w => match Limit.acquire n (action.operation form) w with
    | (.ok (), w') => .inl w'
    | (.error stop, _) => .inr (.error stop)
  | .index paths, w => match action with
    | .list => .inr (.ok { source := .ready (some (paths.children path)), path })
    | _ => .inl w
  | .logging, w => .inl { w with events := w.events ++ [startEvent info.scheme form path action] }

/-- What a layer makes of an error from inside. -/
def passed : Layer → Error → Error
  | .context => callError info.scheme form path action
  | .retry b => Retry.conclude b
  | .limit _ | .index _ | .logging | .metrics => id

/-- What a layer makes of a reply from inside. -/
def dressed : Layer → Reply (Reader ρ) (Pager π) action → Reply (Reader ρ) (Pager π) action
  | .context => Reply.map id (Pager.mark .context) action
  | .retry b => Reply.map id (Pager.mark (.retry b)) action
  | .limit n => Reply.map (Reader.owe n) (Pager.owe n) action
  | .logging => Reply.map id (Pager.mark .logged) action
  | .index _ | .metrics => id

/-- What a layer makes of how the call inside ended. -/
def outcome (layer : Layer) (result : Except Stop (Reply (Reader ρ) (Pager π) action)) :
    Except Stop (Reply (Reader ρ) (Pager π) action) :=
  (result.map (dressed action layer)).mapError (Stop.map (passed info form path action layer))

/-- What a layer notes down when the call inside has ended, apart from the service. -/
def noted : Layer → Except Stop (Reply (Reader ρ) (Pager π) action) → World σ → World σ
  | .limit n, result, w => (settle n action result w).2
  | .logging, .ok reply, w =>
    { w with events := w.events ++ endEvents info.scheme form path action reply }
  | .logging, .error (.failed e), w =>
    { w with events := w.events ++ [.failed info.scheme (action.operation form) path e] }
  | .metrics, .ok _, w =>
    { w with samples := w.samples ++ [⟨info.scheme, action.operation form, none⟩] }
  | .metrics, .error (.failed e), w =>
    { w with samples := w.samples ++ [⟨info.scheme, action.operation form, some e.kind⟩] }
  | _, _, w => w

end

section

variable {info : ServiceInfo} {form : Form} {path : String} {action : Action}

theorem forM_log (events : List Event) (w : World σ) :
    (events.forM fun e => Run.log e : Run σ Unit) w
      = (.ok (), { w with events := w.events ++ events }) := by
  induction events generalizing w with
  | nil => simp [List.forM]
  | cons e events ih =>
    have hlog : (Run.log e : Run σ Unit) w = (.ok (), { w with events := w.events ++ [e] }) := rfl
    show (Run.log e >>= fun _ => events.forM fun e => Run.log e : Run σ Unit) w = _
    rw [Run.bind_of_ok hlog, ih, List.append_assoc]
    rfl

theorem settle_fst (n : Nat) (result : Except Stop (Reply (Reader ρ) (Pager π) action))
    (w : World σ) :
    (settle n action result w).1 = outcome info form path action (.limit n) result := by
  cases result with
  | error s => cases s <;> rfl
  | ok reply => cases action <;> rfl

/-- A layer that changes neither replies nor errors gives on what it gets. -/
theorem mapError_map_id (result : Except Stop α) :
    (result.map id).mapError (Stop.map id) = result := by
  rcases result with stop | a
  · exact congrArg Except.error stop.map_id
  · rfl

/-- **A call through a layer**: the way in, the call inside, and what is made of its end. -/
theorem around_eq (layer : Layer) (inner : Run σ (Reply (Reader ρ) (Pager π) action))
    (w : World σ) :
    layer.around info form path action inner w
      = match enter info form path action inner layer w with
        | .inl w' => (outcome info form path action layer (inner w').1,
            noted info form path action layer (inner w').1 (inner w').2)
        | .inr answer => (answer, w) := by
  cases layer with
  | context =>
    rw [around, Run.bind_apply, Run.mapError_eq]
    dsimp only [enter]
    rcases inner w with ⟨stop | reply, w'⟩ <;> rfl
  | retry b =>
    rw [around, Retry.run, Run.bind_apply, Retry.attempts_eq]
    dsimp only [enter]
    rcases inner (Retry.lastTry b (action.operation form) path inner b.maxTimes w)
      with ⟨stop | reply, w'⟩ <;> rfl
  | limit n =>
    rw [around_limit]
    dsimp only [enter]
    by_cases hfree : Permits.free w.permits n = 0
    · rw [Limit.acquire_of_none hfree]
    · rw [Limit.acquire_of_free hfree]
      dsimp only
      rw [← settle_fst]
      rfl
  | index paths =>
    cases action with
    | list => rfl
    | create _ | read _ | write _ _ | stat | delete =>
      dsimp only [enter, outcome, noted]
      exact Prod.ext (mapError_map_id (inner w).1).symm rfl
  | logging =>
    have hlog : (Run.log (startEvent info.scheme form path action) : Run σ Unit) w
        = (.ok (), { w with events := w.events ++ [startEvent info.scheme form path action] }) :=
      rfl
    rw [around, Run.bind_of_ok hlog]
    dsimp only [enter]
    rcases h : inner { w with
      events := w.events ++ [startEvent info.scheme form path action] } with ⟨stop | reply, w'⟩
    · cases stop with
      | failed e => rw [Run.bind_of_ok (Run.attempt_of_failed h)]; rfl
      | waiting => rw [Run.bind_of_error (Run.attempt_of_waiting h)]; rfl
    · rw [Run.bind_of_ok (Run.attempt_of_ok h)]
      dsimp only [logEnd]
      rw [Run.bind_of_ok (forM_log _ w')]
      rfl
  | metrics =>
    rw [around]
    dsimp only [enter]
    rcases h : inner w with ⟨stop | reply, w'⟩
    · cases stop with
      | failed e => rw [Run.bind_of_ok (Run.attempt_of_failed h)]; rfl
      | waiting => rw [Run.bind_of_error (Run.attempt_of_waiting h)]; rfl
    · rw [Run.bind_of_ok (Run.attempt_of_ok h)]; rfl

theorem outcome_eq_ok_iff {layer : Layer}
    {result : Except Stop (Reply (Reader ρ) (Pager π) action)}
    {reply : Reply (Reader ρ) (Pager π) action} :
    outcome info form path action layer result = .ok reply
      ↔ ∃ inside, result = .ok inside ∧ dressed action layer inside = reply := by
  constructor
  · intro h
    cases result with
    | error stop => cases h
    | ok inside =>
      cases h
      exact ⟨inside, rfl, rfl⟩
  · rintro ⟨inside, rfl, rfl⟩
    rfl

/-- To note something down leaves the service alone. -/
theorem service_noted (layer : Layer) (result : Except Stop (Reply (Reader ρ) (Pager π) action))
    (w : World σ) : (noted info form path action layer result w).service = w.service := by
  cases layer with
  | limit n =>
    rcases result with stop | reply
    · rfl
    · cases action <;> rfl
  | logging => rcases result with (e | _) | reply <;> rfl
  | metrics => rcases result with (e | _) | reply <;> rfl
  | context | retry b | index paths => rfl

/-- A layer that answers itself is a limit that refuses, or an index that has the page. -/
theorem enter_answer {layer : Layer} {inner : Run σ (Reply (Reader ρ) (Pager π) action)}
    {w : World σ} {answer : Except Stop (Reply (Reader ρ) (Pager π) action)}
    (h : enter info form path action inner layer w = .inr answer) :
    (∃ n stop w', layer = .limit n ∧ answer = .error stop
        ∧ Limit.acquire n (action.operation form) w = (.error stop, w'))
      ∨ ∃ paths reply, layer = .index paths ∧ answer = .ok reply := by
  cases layer with
  | limit n =>
    rw [enter] at h
    cases hacquire : Limit.acquire n (action.operation form) w with
    | mk got w' =>
      rw [hacquire] at h
      cases got with
      | ok _ => cases h
      | error stop =>
        cases h
        exact .inl ⟨n, stop, w', rfl, rfl, hacquire⟩
  | index paths =>
    cases action with
    | list =>
      cases h
      exact .inr ⟨paths, _, rfl, rfl⟩
    | create _ | read _ | write _ _ | stat | delete => cases h
  | context | retry b | logging | metrics => cases h

/-- Only a layer that tries again lets the service change before the call that it lets in. -/
theorem service_enter {layer : Layer} (hretry : ∀ b, layer ≠ .retry b)
    {inner : Run σ (Reply (Reader ρ) (Pager π) action)} {w w' : World σ}
    (h : enter info form path action inner layer w = .inl w') : w'.service = w.service := by
  cases layer with
  | retry b => exact absurd rfl (hretry b)
  | limit n =>
    rw [enter] at h
    by_cases hfree : Permits.free w.permits n = 0
    · rw [Limit.acquire_of_none hfree] at h
      cases h
    · rw [Limit.acquire_of_free hfree] at h
      cases h
      rfl
  | index paths =>
    cases action with
    | list => cases h
    | create _ | read _ | write _ _ | stat | delete =>
      cases h
      rfl
  | context | logging | metrics =>
    cases h
    rfl

end

end Layer

/-! ### Calls of the service -/

/-- A reply of a service, with its handle as a stack without layers hands it out. -/
def Reply.unmarked (path : String) (action : Action) :
    Reply ρ π action → Reply (Reader ρ) (Pager π) action :=
  Reply.map (⟨·, []⟩) (fun pager => { source := .service pager, path }) action

namespace Stack

variable (service : Service σ ρ π) (form : Form) (path : String) (action : Action)

theorem base_eq (w : World σ) :
    base service form path action w
      = (((service.call form path action w.service).1.map (Reply.unmarked path action)).mapError
          .failed, { w with service := (service.call form path action w.service).2 }) := by
  rw [base, Run.bind_apply]
  simp only [Run.onService]
  cases (service.call form path action w.service).1 <;> rfl

theorem call_nil : call service [] form path action = base service form path action := rfl

theorem call_cons (layer : Layer) (layers : List Layer) :
    call service (layer :: layers) form path action
      = layer.around service.info form path action (call service layers form path action) := rfl

end Stack

/-! ### Pulls -/

namespace Pager.PagerMark

section

variable (info : ServiceInfo) (form : Form) (path : String)

/-- How a pull passes a mark on its way in, for the last time. -/
def enter (pull : Run (σ × Progress π) Page) :
    PagerMark → World (σ × Progress π) → World (σ × Progress π)
  | .context, w | .logged, w => w
  | .retry b, w => Retry.lastTry b (.call form .list) path pull b.maxTimes w

/-- What a mark makes of an error from inside. -/
def passed : PagerMark → Error → Error
  | .context => pullError info.scheme form path
  | .retry b => Retry.conclude b
  | .logged => id

/-- What a mark notes down when the pull inside has ended. -/
def noted : PagerMark → Except Stop Page → World (σ × Progress π) → World (σ × Progress π)
  | .logged, .ok none, w =>
    { w with events := w.events ++ [.listFinished info.scheme path w.service.2.2] }
  | .logged, .error (.failed e), w =>
    { w with events := w.events ++ [.listFailed info.scheme path e] }
  | _, _, w => w

/-- **A pull through the mark of a layer**: the way in, the pull inside, and what is made of its
end. -/
theorem around_eq (m : PagerMark) (pull : Run (σ × Progress π) Page)
    (w : World (σ × Progress π)) :
    PagerMark.around info form path pull m w
      = ((pull (enter form path pull m w)).1.mapError (Stop.map (passed info form path m)),
          noted info path m (pull (enter form path pull m w)).1
            (pull (enter form path pull m w)).2) := by
  cases m with
  | context => rw [around, Run.mapError_eq]; rfl
  | retry b => rw [around, Retry.run, Retry.attempts_eq]; rfl
  | logged =>
    rw [around]
    dsimp only [enter]
    rcases h : pull w with ⟨(e | _) | page, w'⟩
    · rw [Run.bind_of_ok (Run.attempt_of_failed h)]; rfl
    · rw [Run.bind_of_error (Run.attempt_of_waiting h)]; rfl
    · rw [Run.bind_of_ok (Run.attempt_of_ok h)]
      cases page <;> rfl

theorem service_noted (m : PagerMark) (result : Except Stop Page) (w : World (σ × Progress π)) :
    (noted info path m result w).service = w.service := by
  cases m with
  | logged => rcases result with (e | _) | (_ | page) <;> rfl
  | context | retry b => rfl

theorem permits_noted (m : PagerMark) (result : Except Stop Page) (w : World (σ × Progress π)) :
    (noted info path m result w).permits = w.permits := by
  cases m with
  | logged => rcases result with (e | _) | (_ | page) <;> rfl
  | context | retry b => rfl

/-- What the pulls inside keep of the service and the pager, a pull through a mark keeps. -/
theorem around_keeps {P : σ × Progress π → Prop} {pull : Run (σ × Progress π) Page}
    (hpull : ∀ w, P w.service → P (pull w).2.service) (m : PagerMark)
    {w : World (σ × Progress π)} (hw : P w.service) :
    P (PagerMark.around info form path pull m w).2.service := by
  have henter : P (enter form path pull m w).service := by
    cases m with
    | context | logged => exact hw
    | retry b => exact Retry.lastTry_keeps b _ path pull hpull b.maxTimes hw
  rw [around_eq, service_noted]
  exact hpull _ henter

end

end Pager.PagerMark

namespace Pager

/-- A pull through marks, the outermost first. -/
def pullThrough (service : Service σ ρ π) (form : Form) (path : String) (marks : List PagerMark) :
    Run (σ × Progress π) Page :=
  marks.foldr (fun m x => PagerMark.around service.info form path x m) (pullSource service form)

theorem pullThrough_cons (service : Service σ ρ π) (form : Form) (path : String) (m : PagerMark)
    (marks : List PagerMark) :
    pullThrough service form path (m :: marks)
      = PagerMark.around service.info form path (pullThrough service form path marks) m := rfl

/-- The world of a pull: the service with what the pull changes in the pager. -/
def pullWorld (p : Pager π) (w : World σ) : World (σ × Progress π) :=
  w.withService (w.service, p.source, p.listed)

theorem pull_eq (service : Service σ ρ π) (form : Form) (p : Pager π) (w : World σ) :
    p.pull service form w
      = ((pullThrough service form p.path p.marks (p.pullWorld w)).1,
          { p with
            source := (pullThrough service form p.path p.marks (p.pullWorld w)).2.service.2.1
            listed := (pullThrough service form p.path p.marks (p.pullWorld w)).2.service.2.2 },
          (pullThrough service form p.path p.marks (p.pullWorld w)).2.withService
            (pullThrough service form p.path p.marks (p.pullWorld w)).2.service.1) := rfl

/-- What a pull from the source keeps, a pull through marks keeps. -/
theorem pullThrough_keeps (service : Service σ ρ π) (form : Form) {P : σ × Progress π → Prop}
    (hpull : ∀ w, P w.service → P (pullSource service form w).2.service) (path : String)
    (marks : List PagerMark) {w : World (σ × Progress π)} (hw : P w.service) :
    P (pullThrough service form path marks w).2.service := by
  induction marks generalizing w with
  | nil => exact hpull w hw
  | cons m marks ih =>
    exact PagerMark.around_keeps service.info form path (fun _ => ih) m hw

end Pager

end ObjectStorage
