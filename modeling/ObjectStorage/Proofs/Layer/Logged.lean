import ObjectStorage.Proofs.Layer.Ledger
import ObjectStorage.Proofs.Layer.Observer
import ObjectStorage.Proofs.Layer.Pager
import ObjectStorage.Service.Scripted

/-!
# What is logged of how operations end

A layer that logs tells of every call when it begins and when it has ended, and of every pull when
it has ended the listing or failed.  What the layers inside tell in between stays as it is.  The
events of each deed of a run are taken apart here into those of the layer and those from inside, and
are compared with a rule: a failure is told once, at the level of debugging if callers expect it and
as a warning otherwise, and so is a success that leaves nothing open, after its start.

Two kinds of deeds do not follow the rule.  Pulls that fail are always told as warnings, and of a
blocking read that succeeds nothing is told but its start.

* `Event.Added`, `Run.Logs` — operations that only add to what was logged;
* `Stack.logs_call`, `Pager.logs_pullThrough` — so do calls and pulls through layers;
* `Logging.inside` — what the layers inside log of a deed;
* `Logging.Told` — the rule for one deed;
* `Logging.Slips`, `Logging.ToldOfSlip` — the deeds that break it, and what is told of them;
* `Logging.marked_run` — the pagers that are open in a run;
* `Logging.outcomes_logged_iff` — which deeds of a run follow the rule.
-/

namespace ObjectStorage

variable {σ ρ π α : Type}

/-! ### Adding to the log -/

/-- Only events with a property were added to what was logged. -/
def Event.Added (P : Event → Prop) (before after : List Event) : Prop :=
  ∃ added, after = before ++ added ∧ ∀ e ∈ added, P e

namespace Event

variable {P : Event → Prop} {before middle after : List Event}

theorem Added.refl (events : List Event) : Added P events events :=
  ⟨[], (List.append_nil events).symm, List.forall_mem_nil _⟩

theorem Added.one {e : Event} (h : P e) (events : List Event) : Added P events (events ++ [e]) :=
  ⟨[e], rfl, fun _ hmem => List.mem_singleton.1 hmem ▸ h⟩

theorem Added.trans (h : Added P before middle) (h' : Added P middle after) :
    Added P before after := by
  obtain ⟨added, rfl, hadded⟩ := h
  obtain ⟨added', rfl, hadded'⟩ := h'
  refine ⟨added ++ added', List.append_assoc _ _ _, fun e hmem => ?_⟩
  exact (List.mem_append.1 hmem).elim (hadded e) (hadded' e)

end Event

namespace Run

/-- The operation only adds to what was logged, and only events with a property. -/
def Logs (P : Event → Prop) (x : Run σ α) : Prop :=
  ∀ w, Event.Added P w.events (x w).2.events

/-- The events that an operation adds to what was logged. -/
def logged (x : Run σ α) (w : World σ) : List Event := (x w).2.events.drop w.events.length

variable {P : Event → Prop} {x : Run σ α}

theorem Logs.events_eq (h : x.Logs P) (w : World σ) :
    (x w).2.events = w.events ++ x.logged w := by
  obtain ⟨added, hadded, -⟩ := h w
  rw [logged, hadded, List.drop_left]

theorem Logs.of_mem (h : x.Logs P) (w : World σ) : ∀ e ∈ x.logged w, P e := by
  obtain ⟨added, hadded, hall⟩ := h w
  rw [logged, hadded, List.drop_left]
  exact hall

end Run

/-- If trying again is logged with events that have the property, then only those are added by what
layers do besides calls. -/
theorem Event.ledger_added {P : Event → Prop}
    (hretry : ∀ operation path attempt delay e, P (.retrying operation path attempt delay e)) :
    Ledger fun w w' : World σ => Added P w.events w'.events where
  trans := Added.trans
  permits w _ := .refl w.events
  retrying w operation path attempt delay e :=
    .one (hretry operation path attempt delay e) w.events

section

variable {P : Event → Prop}
  (hretry : ∀ operation path attempt delay e, P (.retrying operation path attempt delay e))

/-! ### Calls -/

namespace Layer

variable {info : ServiceInfo} {form : Form} {path : String} {action : Action}

theorem added_noted {layer : Layer} (hown : layer = .logging → ∀ e, P e)
    (result : Except Stop (Reply (Reader ρ) (Pager π) action)) (w : World σ) :
    Event.Added P w.events (noted info form path action layer result w).events := by
  cases layer with
  | logging =>
    have hall : ∀ e, P e := hown rfl
    rcases result with (e | _) | reply
    · exact .one (hall _) w.events
    · exact .refl w.events
    · exact ⟨_, rfl, fun e _ => hall e⟩
  | limit n =>
    rcases result with stop | reply
    · exact .refl w.events
    · cases action <;> exact .refl w.events
  | metrics => rcases result with (e | _) | reply <;> exact .refl w.events
  | context | retry b | index paths => exact .refl w.events

include hretry in
/-- **A call through a layer** logs what the call inside does, and that it is tried again; other
events are those of a layer that logs. -/
theorem logs_around {layer : Layer} (hown : layer = .logging → ∀ e, P e)
    {inner : Run σ (Reply (Reader ρ) (Pager π) action)} (hinner : inner.Logs P) :
    (layer.around info form path action inner).Logs P :=
  moves_around (Event.ledger_added hretry) (fun hlayer w => .one (hown hlayer _) w.events)
    (added_noted hown) hinner

include hretry in
/-- The question what a service is, through a layer. -/
theorem logs_aroundInfo {layer : Layer} (hown : layer = .logging → ∀ e, P e)
    {ask : Run σ ServiceInfo} (hask : ask.Logs P) : (layer.aroundInfo info ask).Logs P :=
  moves_aroundInfo (Event.ledger_added hretry) (fun hlayer w => .one (hown hlayer _) w.events)
    (fun _ w _ => .refl w.events) hask

end Layer

namespace Stack

variable (service : Service σ ρ π) {layers : List Layer}
  (hown : .logging ∈ layers → ∀ e, P e)

include hretry hown in
/-- **A call through layers** logs what is tried again, and what layers that log tell.  By induction
on the layers. -/
theorem logs_call (form : Form) (path : String) (action : Action) :
    (call service layers form path action).Logs P := by
  induction layers with
  | nil =>
    intro w
    rw [call_nil, base_eq]
    exact .refl w.events
  | cons layer layers ih =>
    rw [call_cons]
    exact Layer.logs_around hretry (fun heq => hown (heq ▸ List.mem_cons_self))
      (ih fun hmem => hown (List.mem_cons_of_mem layer hmem))

include hretry hown in
theorem logs_info : (info service layers).Logs P := by
  induction layers with
  | nil => exact fun w => .refl w.events
  | cons layer layers ih =>
    exact Layer.logs_aroundInfo hretry (fun heq => hown (heq ▸ List.mem_cons_self))
      (ih fun hmem => hown (List.mem_cons_of_mem layer hmem))

/-- Only layers that log leave marks that log. -/
theorem logging_mem_of_marks {layers : List Layer} (h : .logged ∈ marks layers) :
    .logging ∈ layers := by
  induction layers with
  | nil => cases h
  | cons layer layers ih =>
    cases layer with
    | logging => exact List.mem_cons_self
    | index paths => cases h
    | limit n | metrics => exact List.mem_cons_of_mem _ (ih h)
    | context | retry b =>
      obtain heq | hmem := List.mem_cons.1 h
      · cases heq
      · exact List.mem_cons_of_mem _ (ih hmem)

end Stack

/-! ### Pulls -/

namespace Pager

theorem added_noted {m : PagerMark} (hown : m = .logged → ∀ e, P e) (info : ServiceInfo)
    (path : String) (result : Except Stop Page) (w : World (σ × Progress π)) :
    Event.Added P w.events (PagerMark.noted info path m result w).events := by
  cases m with
  | context | retry b => exact .refl w.events
  | logged =>
    have hall : ∀ e, P e := hown rfl
    rcases result with (e | _) | (_ | entries)
    · exact .one (hall _) w.events
    · exact .refl w.events
    · exact .one (hall _) w.events
    · exact .refl w.events

include hretry in
/-- **A pull through marks** logs what is tried again, and what marks that log tell. -/
theorem logs_pullThrough (service : Service σ ρ π) (form : Form) (path : String)
    {marks : List PagerMark} (hown : .logged ∈ marks → ∀ e, P e) :
    (pullThrough service form path marks).Logs P :=
  moves_pullThrough (Event.ledger_added hretry) service form path (fun w => .refl w.events)
    fun _ hmem => added_noted (fun heq => hown (heq ▸ hmem)) service.info path

end Pager

end

namespace Logging

open Observer

/-! ### The rule for what is told -/

/-- The error of which an event tells that a call or a page failed with it. -/
def failure? : Event → Option Error
  | .failed _ _ _ e | .listFailed _ _ e => some e
  | _ => none

/-- Does the event tell that a call succeeded? -/
def isSuccess : Event → Bool
  | .finished .. | .gotReader .. => true
  | _ => false

/-- The level at which a failure is to be told. -/
def levelOf (e : Error) : Level :=
  if e.kind = .objectNotFound ∨ e.kind = .unsupported then .debug else .warn

/-- The error with which a deed ended. -/
def failureOf : Observer.Answer → Option Error
  | .called _ (.error (.failed e)) | .page (.error (.failed e)) => some e
  | _ => none

/-- Did a call succeed that leaves nothing to come?  The pages of a listing are still to come. -/
def succeeded : Observer.Answer → Bool
  | .called action (.ok _) => action.verb ≠ .list
  | _ => false

/-- **The rule** for the events `own` that a layer logs of a deed: what is told of how it ended. -/
structure Told (scheme : Scheme) (deed : Deed) (answer : Observer.Answer) (own : List Event) :
    Prop where
  /-- A failure is told once, and at its level. -/
  failure (e : Error) (h : failureOf answer = some e) :
    ∃ event, own.filter (fun event => (failure? event).isSome) = [event]
      ∧ failure? event = some e ∧ event.level = levelOf e
  /-- No failure is told without one. -/
  calm (h : failureOf answer = none) : ∀ event ∈ own, failure? event = none
  /-- A success is told once, after the start of the call. -/
  success {form : Form} {path : String} {action : Action} (hdeed : deed = .call form path action)
    (h : succeeded answer = true) :
    ∃ ending, own = [Layer.startEvent scheme form path action, ending]
      ∧ (Layer.startEvent scheme form path action).level = .debug
      ∧ isSuccess ending = true ∧ ending.level = .debug
      ∧ ending.fields.take 3 = Event.callFields scheme (action.operation form) path

/-- The deeds that the rule misses. -/
inductive Slips : Deed → Observer.Answer → Prop
  /-- The page of a listing fails in a way that callers expect. -/
  | page (slot : Nat) {e : Error} (h : levelOf e = .debug) :
    Slips (.pull slot) (.page (.error (.failed e)))
  /-- A blocking read succeeds. -/
  | read (path : String) (range : ByteRange) (reply : Reply Unit Unit (.read range)) :
    Slips (.call .blocking path (.read range)) (.called (.read range) (.ok reply))

/-- What is told of a page that fails, however it fails, and of a blocking read that succeeds. -/
structure ToldOfSlip (scheme : Scheme) (deed : Deed) (answer : Observer.Answer) (own : List Event) :
    Prop where
  page {e : Error} (h : answer = .page (.error (.failed e))) :
    ∃ path, own = [.listFailed scheme path e]
  read {path : String} {range : ByteRange} {reply : Reply Unit Unit (.read range)}
    (hdeed : deed = .call .blocking path (.read range))
    (h : answer = .called (.read range) (.ok reply)) :
    own = [.readStarted scheme (.call .blocking .read) path range]

/-- Of a deed that neither fails nor succeeds no end need be told. -/
theorem told_calmly (scheme : Scheme) {deed : Deed} {answer : Observer.Answer} {own : List Event}
    (hfailure : failureOf answer = none) (hsuccess : succeeded answer = false)
    (hown : ∀ event ∈ own, failure? event = none) :
    (Told scheme deed answer own ↔ ¬Slips deed answer) ∧ ToldOfSlip scheme deed answer own := by
  have hslip : ¬Slips deed answer := by
    intro hslip
    cases hslip with
    | page slot h => cases hfailure
    | read path range reply => cases hsuccess
  refine ⟨⟨fun _ => hslip, fun _ => ⟨fun e he => ?_, fun _ => hown, fun _ hdone => ?_⟩⟩,
    ⟨fun h => ?_, fun _ h => ?_⟩⟩
  · rw [hfailure] at he
    cases he
  · rw [hsuccess] at hdone
    cases hdone
  · rw [h] at hfailure
    cases hfailure
  · rw [h] at hsuccess
    cases hsuccess

/-! ### Calls -/

section

variable (scheme : Scheme) (form : Form) (path : String) (action : Action)

/-- What a layer logs when a call has ended. -/
def callEnding : Except Stop (Reply (Reader ρ) (Pager π) action) → List Event
  | .ok reply => Layer.endEvents scheme form path action reply
  | .error (.failed e) => [.failed scheme (action.operation form) path e]
  | .error .waiting => []

theorem level_startEvent : (Layer.startEvent scheme form path action).level = .debug := by
  cases action <;> cases form <;> rfl

theorem failure?_startEvent : failure? (Layer.startEvent scheme form path action) = none := by
  cases action <;> cases form <;> rfl

/-- The level at which a failed call is told is that of the rule. -/
theorem level_failed (operation : Operation) (e : Error) :
    (Event.failed scheme operation path e).level = levelOf e := by
  show (if Event.isExpected e then Level.debug else .warn) = _
  rw [levelOf, Event.isExpected]
  exact if_congr (by simp) rfl rfl

variable {action}

/-- A call that succeeds follows the rule unless it is a blocking read. -/
theorem told_ok_iff (reply : Reply (Reader ρ) (Pager π) action) :
    Told scheme (.call form path action)
        (.called action (seen action (.ok (Layer.dressed action .logging reply))))
        (Layer.startEvent scheme form path action
          :: callEnding scheme form path action (.ok reply))
      ↔ ¬Slips (.call form path action)
        (.called action (seen action (.ok (Layer.dressed action .logging reply)))) := by
  have hstart := failure?_startEvent scheme form path action
  have hlevel := level_startEvent scheme form path action
  -- but for blocking reads and listings there is one event at the end
  have htold {ending : Event} (hend : callEnding scheme form path action (.ok reply) = [ending])
      (hsuccess : isSuccess ending = true) (hdebug : ending.level = .debug)
      (hnone : failure? ending = none)
      (hfields : ending.fields.take 3 = Event.callFields scheme (action.operation form) path) :
      Told scheme (.call form path action)
        (.called action (seen action (.ok (Layer.dressed action .logging reply))))
        (Layer.startEvent scheme form path action
          :: callEnding scheme form path action (.ok reply)) := by
    rw [hend]
    refine ⟨fun e h => (nomatch h), fun _ event hmem => ?_, fun hdeed _ => ?_⟩
    · obtain rfl | hmem := List.mem_cons.1 hmem
      · exact hstart
      · exact List.mem_singleton.1 hmem ▸ hnone
    · cases hdeed
      exact ⟨ending, rfl, hlevel, hsuccess, hdebug, hfields⟩
  cases action with
  | create mode | write length data | stat | delete =>
    exact ⟨fun _ => nofun, fun _ => htold rfl rfl rfl rfl rfl⟩
  | list =>
    refine (told_calmly scheme rfl rfl fun event hmem => ?_).1
    exact List.mem_singleton.1 hmem ▸ hstart
  | read range =>
    cases form with
    | async => exact ⟨fun _ => nofun, fun _ => htold rfl rfl rfl rfl rfl⟩
    | blocking =>
      refine ⟨fun h => ?_, fun h => absurd (.read path range _) h⟩
      obtain ⟨ending, hown, -⟩ := h.success rfl rfl
      cases hown

/-- **A call** follows the rule unless it is a blocking read that succeeds. -/
theorem told_call_iff (info : ServiceInfo)
    (result : Except Stop (Reply (Reader ρ) (Pager π) action)) :
    Told scheme (.call form path action)
        (.called action (seen action (Layer.outcome info form path action .logging result)))
        (Layer.startEvent scheme form path action :: callEnding scheme form path action result)
      ↔ ¬Slips (.call form path action)
        (.called action (seen action (Layer.outcome info form path action .logging result))) := by
  have hstart := failure?_startEvent scheme form path action
  rcases result with (e | _) | reply
  · refine ⟨fun _ => nofun, fun _ => ⟨fun e' h => ?_, nofun, fun _ => nofun⟩⟩
    obtain rfl : e = e' := Option.some.inj h
    refine ⟨.failed scheme (action.operation form) path e, ?_, rfl, level_failed _ _ _ _⟩
    rw [List.filter_cons, if_neg (by rw [hstart]; exact Bool.false_ne_true)]
    rfl
  · refine (told_calmly scheme rfl rfl fun event hmem => ?_).1
    exact List.mem_singleton.1 hmem ▸ hstart
  · exact told_ok_iff scheme form path reply

theorem toldOfSlip_call (info : ServiceInfo)
    (result : Except Stop (Reply (Reader ρ) (Pager π) action)) :
    ToldOfSlip scheme (.call form path action)
      (.called action (seen action (Layer.outcome info form path action .logging result)))
      (Layer.startEvent scheme form path action :: callEnding scheme form path action result) where
  page := nofun
  read hdeed h := by
    cases hdeed
    rcases result with (e | _) | reply
    · cases h
    · cases h
    · rfl

end

/-- A call through a layer that logs is the call inside, between the events of the layer. -/
theorem call_logging (service : Service σ ρ π) (below : List Layer) (form : Form) (path : String)
    (action : Action) (w : World σ) {ended : Except Stop _ × World σ}
    (hended : Stack.call service below form path action
      (w.noting (Layer.startEvent service.info.scheme form path action)) = ended) :
    (Stack.call service (.logging :: below) form path action w).1
        = Layer.outcome service.info form path action .logging ended.1
      ∧ (Stack.call service (.logging :: below) form path action w).2.events
        = ended.2.events ++ callEnding service.info.scheme form path action ended.1 := by
  have hcall : Stack.call service (.logging :: below) form path action w
      = (Layer.outcome service.info form path action .logging ended.1,
        Layer.noted service.info form path action .logging ended.1 ended.2) := by
    rw [Stack.call_cons, Layer.around_eq, ← hended]
    rfl
  rw [hcall]
  rcases ended with ⟨(e | _) | reply, w'⟩
  · exact ⟨rfl, rfl⟩
  · exact ⟨rfl, (List.append_nil _).symm⟩
  · exact ⟨rfl, rfl⟩

/-! ### Pulls -/

/-- What a mark logs when a pull has ended, with so many entries delivered. -/
def pullEnding (scheme : Scheme) (path : String) (listed : Nat) : Except Stop Page → List Event
  | .ok (some _) | .error .waiting => []
  | .ok none => [.listFinished scheme path listed]
  | .error (.failed e) => [.listFailed scheme path e]

/-- **A pull** follows the rule unless it fails in a way that callers expect. -/
theorem told_pull_iff (scheme : Scheme) (path : String) (listed slot : Nat)
    (result : Except Stop Page) :
    Told scheme (.pull slot) (.page result) (pullEnding scheme path listed result)
      ↔ ¬Slips (.pull slot) (.page result) := by
  rcases result with (e | _) | (_ | entries)
  · constructor
    · rintro h (⟨_, hdebug⟩ | _)
      obtain ⟨event, hown, -, hlevel⟩ := h.failure e rfl
      cases hown
      rw [hdebug] at hlevel
      cases hlevel
    · refine fun hslip => ⟨fun e' h => ?_, nofun, nofun⟩
      obtain rfl : e = e' := Option.some.inj h
      refine ⟨.listFailed scheme path e, rfl, rfl, ?_⟩
      have hlevel : ¬(e.kind = .objectNotFound ∨ e.kind = .unsupported) :=
        fun hkind => hslip (.page slot (if_pos hkind))
      exact (if_neg hlevel).symm
  · exact (told_calmly scheme rfl rfl (List.forall_mem_nil _)).1
  · refine (told_calmly scheme rfl rfl fun event hmem => ?_).1
    exact List.mem_singleton.1 hmem ▸ rfl
  · exact (told_calmly scheme rfl rfl (List.forall_mem_nil _)).1

theorem toldOfSlip_pull (scheme : Scheme) (path : String) (listed slot : Nat)
    (result : Except Stop Page) :
    ToldOfSlip scheme (.pull slot) (.page result) (pullEnding scheme path listed result) where
  page h := by
    cases h
    exact ⟨path, rfl⟩
  read := nofun

/-- A pull through a mark that logs is the pull inside, and the event of the mark. -/
theorem pull_logged (service : Service σ ρ π) (form : Form) {p : Pager π} {marks : List PagerMark}
    (hmarks : p.marks = .logged :: marks) (w : World σ) :
    (p.pull service form w).1
        = (Pager.pullThrough service form p.path marks (p.pullWorld w)).1
      ∧ (p.pull service form w).2.2.events
        = (Pager.pullThrough service form p.path marks (p.pullWorld w)).2.events
          ++ pullEnding service.info.scheme p.path
            (Pager.pullThrough service form p.path marks (p.pullWorld w)).2.service.2.2
            (Pager.pullThrough service form p.path marks (p.pullWorld w)).1 := by
  rw [Pager.pull_eq, hmarks, Pager.pullThrough_cons, Pager.PagerMark.around_eq]
  dsimp only [Pager.PagerMark.enter]
  rcases Pager.pullThrough service form p.path marks (p.pullWorld w) with
    ⟨(e | _) | (_ | entries), w'⟩
  · exact ⟨rfl, rfl⟩
  · exact ⟨rfl, (List.append_nil _).symm⟩
  · exact ⟨rfl, rfl⟩
  · exact ⟨rfl, (List.append_nil _).symm⟩

/-! ### Runs -/

/-- The open pagers are those of the layers. -/
def Marked (layers : List Layer) (stage : Stage σ ρ π) : Prop :=
  ∀ form p, (form, Handle.pager p) ∈ stage.handles → ∃ path, Stack.IsPagerOf layers path p

variable {service : Service σ ρ π} {layers : List Layer}

theorem marked_step {stage : Stage σ ρ π} (h : Marked layers stage) (deed : Deed) :
    Marked layers (step { service, layers } deed stage).2 := by
  have hset {slot : Nat} {x : Form × Handle ρ π} {world : World σ}
      (hx : ∀ form p, x = (form, .pager p) → ∃ path, Stack.IsPagerOf layers path p) :
      Marked layers { world, handles := stage.handles.set slot x } := by
    intro form p hmem
    obtain hold | hnew := List.mem_or_eq_of_mem_set hmem
    · exact h form p hold
    · exact hx form p hnew.symm
  cases deed with
  | ask => exact h
  | call form path action =>
    intro form' p hmem
    obtain hold | hnew := List.mem_append.1 hmem
    · exact h form' p hold
    · obtain ⟨handle, hhandle, heq⟩ := List.mem_map.1 hnew
      obtain ⟨rfl, rfl⟩ := Prod.mk.inj heq
      change Handle.pager p ∈
        handlesOf action (Stack.call service layers form path action stage.world).1 at hhandle
      rcases hcall : Stack.call service layers form path action stage.world with
        ⟨stop | reply, w'⟩
      · rw [hcall] at hhandle
        cases hhandle
      · rw [hcall] at hhandle
        cases action with
        | create mode | write length data | stat | delete => cases hhandle
        | read range => cases List.mem_singleton.1 hhandle
        | list =>
          cases List.mem_singleton.1 hhandle
          exact ⟨path, Stack.isPagerOf_of_call hcall⟩
  | pull slot =>
    rw [step]
    split
    · next form p hslot =>
      obtain ⟨path, hp⟩ := h form p (List.mem_of_getElem? hslot)
      refine hset fun form' p' heq => ⟨path, ?_⟩
      obtain ⟨rfl, hpager⟩ := Prod.mk.inj heq
      obtain rfl := Handle.pager.inj hpager
      exact Stack.isPagerOf_pull hp stage.world
    · exact h
  | read slot count =>
    rw [step]
    split
    · exact hset fun form' p' heq => by cases heq
    · exact h
  | close slot =>
    rw [step]
    split
    · exact fun form p hmem => h form p (List.mem_of_mem_eraseIdx hmem)
    · exact h

/-- **In every run** the open pagers are those of the layers.  By induction on the deeds. -/
theorem marked_run (deeds : List Deed) {stage : Stage σ ρ π} (h : Marked layers stage) :
    Marked layers (run { service, layers } deeds stage).2 := by
  induction deeds generalizing stage with
  | nil => exact h
  | cons deed deeds ih => exact ih (marked_step h deed)

variable (service) (below : List Layer)

/-- What the layers inside log of a deed. -/
def inside (deed : Deed) (stage : Stage σ ρ π) : List Event :=
  match deed with
  | .ask => (Stack.info service below).logged
      (stage.world.noting (.metadataAsked service.info.scheme))
  | .call form path action => (Stack.call service below form path action).logged
      (stage.world.noting (Layer.startEvent service.info.scheme form path action))
  | .pull slot => match stage.handles[slot]? with
    | some (form, .pager p) =>
      (Pager.pullThrough service form p.path (Stack.marks below)).logged (p.pullWorld stage.world)
    | _ => []
  | .read _ _ | .close _ => []

/-- What the layers inside log comes from elsewhere if none of them logs. -/
theorem target_of_mem_inside (hbelow : .logging ∉ below) (deed : Deed) (stage : Stage σ ρ π) :
    ∀ e ∈ inside service below deed stage, e.target ≠ "opendal::services" := by
  have hretry (operation : Operation) (path : String) (attempt : Nat) (delay : UInt64) (e : Error) :
      (Event.retrying operation path attempt delay e).target ≠ "opendal::services" := by
    show "opendal::layers::retry" ≠ "opendal::services"
    decide
  cases deed with
  | ask => exact (Stack.logs_info hretry service fun hmem => absurd hmem hbelow).of_mem _
  | call form path action =>
    exact (Stack.logs_call hretry service (fun hmem => absurd hmem hbelow) form path
      action).of_mem _
  | pull slot =>
    rw [inside]
    split
    · exact (Pager.logs_pullThrough hretry service _ _
        fun hmem => absurd (Stack.logging_mem_of_marks hmem) hbelow).of_mem _
    · exact List.forall_mem_nil _
  | read slot count | close slot => exact List.forall_mem_nil _

/-- **One deed** through a layer that logs: the events of the layer around those from inside. -/
theorem events_step {stage : Stage σ ρ π} (h : Marked (.logging :: below) stage) (deed : Deed) :
    ∃ start ending,
      (step { service, layers := .logging :: below } deed stage).2.world.events
        = stage.world.events ++ (start ++ inside service below deed stage ++ ending)
      ∧ (Told service.info.scheme deed
          (step { service, layers := .logging :: below } deed stage).1 (start ++ ending)
        ↔ ¬Slips deed (step { service, layers := .logging :: below } deed stage).1)
      ∧ ToldOfSlip service.info.scheme deed
        (step { service, layers := .logging :: below } deed stage).1 (start ++ ending) := by
  have hnothing (deed : Deed) {answer : Observer.Answer} (hfailure : failureOf answer = none)
      (hsuccess : succeeded answer = false) : ∃ start ending,
        stage.world.events = stage.world.events ++ (start ++ [] ++ ending)
        ∧ (Told service.info.scheme deed answer (start ++ ending) ↔ ¬Slips deed answer)
        ∧ ToldOfSlip service.info.scheme deed answer (start ++ ending) :=
    ⟨[], [], (List.append_nil _).symm, told_calmly _ hfailure hsuccess (List.forall_mem_nil _)⟩
  cases deed with
  | ask =>
    have hlogs : (Stack.info service below).Logs fun _ => True :=
      Stack.logs_info (fun _ _ _ _ _ => trivial) service fun _ _ => trivial
    have hinside := hlogs.events_eq (stage.world.noting (.metadataAsked service.info.scheme))
    refine ⟨[.metadataAsked service.info.scheme], [], ?_, told_calmly _ rfl rfl
      fun event hmem => ?_⟩
    · rw [List.append_nil, ← List.append_assoc]
      exact hinside
    · exact List.mem_singleton.1 hmem ▸ rfl
  | call form path action =>
    have hlogs : (Stack.call service below form path action).Logs fun _ => True :=
      Stack.logs_call (fun _ _ _ _ _ => trivial) service (fun _ _ => trivial) form path action
    have hinside := hlogs.events_eq
      (stage.world.noting (Layer.startEvent service.info.scheme form path action))
    have hanswer : (step { service, layers := .logging :: below } (.call form path action) stage).1
        = .called action (seen action
          (Stack.call service (.logging :: below) form path action stage.world).1) := rfl
    have hworld :
        (step { service, layers := .logging :: below } (.call form path action) stage).2.world
          = (Stack.call service (.logging :: below) form path action stage.world).2 := rfl
    obtain ⟨hresult, hevents⟩ := call_logging service below form path action stage.world rfl
    rw [hanswer, hworld, hresult, hevents, hinside]
    refine ⟨[Layer.startEvent service.info.scheme form path action], _, ?_,
      told_call_iff service.info.scheme form path service.info _,
      toldOfSlip_call service.info.scheme form path service.info _⟩
    rw [World.noting, List.append_assoc, List.append_assoc, List.append_assoc]
    rfl
  | pull slot =>
    rcases hslot : stage.handles[slot]? with _ | ⟨form, r | p⟩
    · simpa only [step, inside, hslot] using hnothing (.pull slot) rfl rfl
    · simpa only [step, inside, hslot] using hnothing (.pull slot) rfl rfl
    · obtain ⟨path, hp⟩ := h form p (List.mem_of_getElem? hslot)
      have hlogs : (Pager.pullThrough service form p.path (Stack.marks below)).Logs fun _ => True :=
        Pager.logs_pullThrough (fun _ _ _ _ _ => trivial) service form p.path fun _ _ => trivial
      have hinside := hlogs.events_eq (p.pullWorld stage.world)
      obtain ⟨hresult, hevents⟩ := pull_logged service form hp.marks_eq stage.world
      simp only [step, inside, hslot]
      rw [hevents, hinside, hresult]
      exact ⟨[], pullEnding service.info.scheme p.path _ _, List.append_assoc _ _ _,
        told_pull_iff service.info.scheme p.path _ slot _,
        toldOfSlip_pull service.info.scheme p.path _ slot _⟩
  | read slot count =>
    rw [step]
    split
    · exact hnothing (.read slot count) rfl rfl
    · exact hnothing (.read slot count) rfl rfl
  | close slot =>
    rw [step]
    split
    · next form handle hslot =>
      rw [Handle.close_apply]
      exact hnothing (.close slot) rfl rfl
    · exact hnothing (.close slot) rfl rfl

/-- **What is logged of how operations end.**  Let the layer that logs stand outside of any layers
on any service, and let anything be done with the operator and with the handles that it gave.
Whatever is done next is logged by the layer in some events before, and some after, what the layers
inside log of it; if none of those logs, then only the events of the layer are about services.  They
tell how the deed ended as the rule has it unless the page of a listing fails in a way that callers
expect, or a blocking read succeeds.  A page that fails is told once, and always as a warning; of
the read only the start is told. -/
theorem outcomes_logged_iff (deeds : List Deed) (deed : Deed) (w : World σ) :
    let op : Operator σ ρ π := { service, layers := .logging :: below }
    let stage := (run op deeds { world := w }).2
    ∃ start ending,
      (step op deed stage).2.world.events
        = stage.world.events ++ (start ++ inside service below deed stage ++ ending)
      ∧ (.logging ∉ below →
        ∀ e ∈ inside service below deed stage, e.target ≠ "opendal::services")
      ∧ (Told service.info.scheme deed (step op deed stage).1 (start ++ ending)
        ↔ ¬Slips deed (step op deed stage).1)
      ∧ ToldOfSlip service.info.scheme deed (step op deed stage).1 (start ++ ending) := by
  intro op stage
  have hmarked : Marked (.logging :: below) stage := marked_run deeds nofun
  obtain ⟨start, ending, hevents, htold, hslip⟩ := events_step service below hmarked deed
  exact ⟨start, ending, hevents, fun hbelow => target_of_mem_inside service below hbelow deed stage,
    htold, hslip⟩

/-! ### A page that is gone, a read, and a retry -/

/-- The directory is gone when it is listed, and its file is there. -/
def goneWorld : World Scripted.State where
  service := {
    outcomes := [(.call .async .list, [.list [.error (.new .objectNotFound "gone")]]),
      (.call .blocking .read, [.read 1 [.ok [120]]]),
      (.call .async .stat, [.failed (Error.new .unexpected "busy").temporary,
        .failed (.new .objectNotFound "gone")])] }

/-- An operator that logs, on a service that follows a script. -/
def loggingOperator (below : List Layer) :
    Operator Scripted.State Scripted.Pieces Scripted.Pages where
  service := Scripted.service { scheme := .memory }
  layers := .logging :: below

theorem outcomes_logged_iff_retried :
    (.logging ∉ [Layer.retry { maxTimes := 1 }])
      ∧ ∃ start ending,
        (step (loggingOperator [.retry { maxTimes := 1 }]) (.call .async "d/" .stat)
          { world := goneWorld }).2.world.events
            = start ++ inside (loggingOperator []).service [.retry { maxTimes := 1 }]
              (.call .async "d/" .stat) { world := goneWorld } ++ ending
        ∧ Told .memory (.call .async "d/" .stat)
          (.called .stat (.error (.failed (.new .objectNotFound "gone")))) (start ++ ending) := by
  have hbelow : .logging ∉ [Layer.retry { maxTimes := 1 }] := by
    intro hmem
    cases List.mem_singleton.1 hmem
  obtain ⟨start, ending, hevents, hinside, htold, -⟩ :=
    outcomes_logged_iff (loggingOperator []).service [.retry { maxTimes := 1 }] []
      (.call .async "d/" .stat) goneWorld
  exact ⟨hbelow, start, ending, hevents, htold.2 nofun⟩

/-- The failure of a page that is gone is told as a warning, and a read that succeeds is not told at
all. -/
theorem missingPage_warned :
    let op := loggingOperator []
    let listed := (run op [.call .async "d/" .list] { world := goneWorld }).2
    let gone := Error.new .objectNotFound "gone"
    (step op (.pull 0) listed).1 = .page (.error (.failed gone))
      ∧ (step op (.pull 0) listed).2.world.events
        = listed.world.events ++ [Event.listFailed .memory "d/" gone]
      ∧ (Event.listFailed .memory "d/" gone).level = .warn
      ∧ ¬Told .memory (.pull 0) (.page (.error (.failed gone))) [.listFailed .memory "d/" gone]
      ∧ (step op (.call .blocking "f" (.read .full)) { world := goneWorld }).1
        = .called (.read .full) (.ok (1, ()))
      ∧ (step op (.call .blocking "f" (.read .full)) { world := goneWorld }).2.world.events
        = [.readStarted .memory (.call .blocking .read) "f" .full]
      ∧ ¬Told .memory (.call .blocking "f" (.read .full)) (.called (.read .full) (.ok (1, ())))
        [.readStarted .memory (.call .blocking .read) "f" .full] := by
  intro op listed gone
  refine ⟨rfl, rfl, rfl, fun htold => ?_, rfl, rfl, fun htold => ?_⟩
  · obtain ⟨event, hown, -, hlevel⟩ := htold.failure gone rfl
    cases hown
    cases hlevel
  · obtain ⟨ending, hown, -⟩ := htold.success rfl rfl
    cases hown

end Logging

end ObjectStorage
