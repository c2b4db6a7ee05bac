import ObjectStorage.Operator
import ObjectStorage.Proofs.Layer.Record
import ObjectStorage.Reading

/-!
# Layers that only look on

The layers that log and that measure are observers: wherever one is put into a stack, calls end as
they would without it, pages and bytes are the same, and the service is reached in the same order
for the same.  Permits are included, so that this holds behind limits and above layers that try
again, and over whole runs, with handles that are kept open for any time.

What tells the two stacks apart is the mark that a layer that logs leaves on pagers.

* `Observer` — the layers that only look on;
* `MarksObserved`, `Pager.Observed` — pagers that differ in marks of observers only;
* `Stack.call_observed`, `Pager.pull_observed` — calls and pulls with an observer more;
* `Deed`, `Stage`, `run` — what can be done with an operator and its handles;
* `Observer.step_observed`, `Observer.run_observed` — a deed, and any run of deeds;
* `Observer.only_observes` — what a user and the service see of an observer: nothing.
-/

namespace ObjectStorage

variable {σ ρ π : Type}

/-- The layers that only observe what passes them. -/
inductive Observer
  | logging
  | metrics
  deriving DecidableEq, Repr

/-- The layer that an observer is. -/
def Observer.layer : Observer → Layer
  | .logging => .logging
  | .metrics => .metrics

/-! ### Pagers that are observed -/

/-- The second list has the marks of the first one, and maybe more of layers that log. -/
inductive MarksObserved : List PagerMark → List PagerMark → Prop
  | nil : MarksObserved [] []
  | cons (m : PagerMark) {ms ms' : List PagerMark} (h : MarksObserved ms ms') :
    MarksObserved (m :: ms) (m :: ms')
  | logged {ms ms' : List PagerMark} (h : MarksObserved ms ms') :
    MarksObserved ms (.logged :: ms')

theorem MarksObserved.refl (ms : List PagerMark) : MarksObserved ms ms := by
  induction ms with
  | nil => exact .nil
  | cons m ms ih => exact .cons m ih

/-- The second pager is the first one, but for marks of layers that log. -/
structure Pager.Observed (p p' : Pager π) : Prop where
  source : p.source = p'.source
  path : p.path = p'.path
  listed : p.listed = p'.listed
  marks : MarksObserved p.marks p'.marks
  owes : p.owes = p'.owes

theorem Pager.Observed.refl (p : Pager π) : p.Observed p :=
  ⟨rfl, rfl, rfl, .refl p.marks, rfl⟩

theorem handlesKept_observed :
    HandlesKept (Eq : Reader ρ → Reader ρ → Prop) (Pager.Observed (π := π)) where
  ready _ _ := .refl _
  mark h m := ⟨h.source, h.path, h.listed, .cons m h.marks, h.owes⟩
  oweReader h n := congrArg (Reader.owe n) h
  owePager h n := ⟨h.source, h.path, h.listed, h.marks, congrArg (n :: ·) h.owes⟩

/-! ### Calls -/

/-- Replies with the same reader, or with pagers of which the second one is observed. -/
abbrev Reply.Observed (action : Action) :
    Reply (Reader ρ) (Pager π) action → Reply (Reader ρ) (Pager π) action → Prop :=
  Reply.Alike Eq Pager.Observed action

theorem Reply.Observed.refl (action : Action) (reply : Reply (Reader ρ) (Pager π) action) :
    Reply.Observed action reply reply :=
  Reply.Alike.refl (fun _ => rfl) Pager.Observed.refl action reply

section

variable {info : ServiceInfo} {form : Form} {path : String} {action : Action}

/-- An observer lets every call in, at once and as it is. -/
theorem Observer.enter_eq (observer : Observer) (info : ServiceInfo) (form : Form) (path : String)
    (inner : Run σ (Reply (Reader ρ) (Pager π) action)) (w : World σ) :
    ∃ v, Layer.enter info form path action inner observer.layer w = .inl v
      ∧ v.service = w.service ∧ v.permits = w.permits := by
  cases observer with
  | logging => exact ⟨_, rfl, rfl, rfl⟩
  | metrics => exact ⟨w, rfl, rfl, rfl⟩

/-- What an observer makes of a reply differs from it in a mark at most. -/
theorem Observer.dressed_observed (observer : Observer)
    {reply reply' : Reply (Reader ρ) (Pager π) action} (h : Reply.Observed action reply reply') :
    Reply.Observed action reply (Layer.dressed action observer.layer reply') := by
  cases observer with
  | metrics => exact h
  | logging =>
    cases action with
    | list => exact ⟨h.source, h.path, h.listed, .logged h.marks, h.owes⟩
    | create mode | read range | write length data | stat | delete => exact h

/-- An observer gives on the error that it gets. -/
theorem Observer.outcome_observed (observer : Observer)
    {result result' : Except Stop (Reply (Reader ρ) (Pager π) action)}
    (h : ResultsAlike (StopsAlike Eq) (Reply.Observed action) result result') :
    ResultsAlike (StopsAlike Eq) (Reply.Observed action) result
      (Layer.outcome info form path action observer.layer result') := by
  cases h with
  | ok h => exact .ok (observer.dressed_observed h)
  | error h =>
    have hpassed : Layer.passed info form path action observer.layer = id := by
      cases observer <;> rfl
    rw [Layer.outcome, hpassed]
    cases h with
    | failed h => exact .error (.failed h)
    | waiting => exact .error .waiting

/-- What an observer notes down is neither in the service nor in the permits. -/
theorem Observer.permits_noted (observer : Observer)
    (result : Except Stop (Reply (Reader ρ) (Pager π) action)) (w : World σ) :
    (Layer.noted info form path action observer.layer result w).permits = w.permits := by
  cases observer <;> rcases result with (e | _) | reply <;> rfl

/-- **A call through an observer** ends as the call inside does. -/
theorem Observer.around_observed (observer : Observer)
    {inner inner' : Run σ (Reply (Reader ρ) (Pager π) action)}
    (hinner : Run.Alike Eq (Reply.Observed action) Eq inner inner') :
    Run.Alike Eq (Reply.Observed action) Eq inner
      (observer.layer.around info form path action inner') := by
  intro w w' hw
  obtain ⟨v, henter, hservice, hpermits⟩ :=
    observer.enter_eq info form path inner' w'
  obtain ⟨hresult, hnext⟩ := hinner w v ⟨hw.service.trans hservice.symm,
    hw.permits.trans hpermits.symm⟩
  rw [Layer.around_eq, henter]
  refine ⟨observer.outcome_observed hresult, ?_, ?_⟩
  · exact hnext.service.trans (Layer.service_noted observer.layer _ _).symm
  · exact hnext.permits.trans (observer.permits_noted _ _).symm

end

namespace Stack

variable (service : Service σ ρ π) (observer : Observer)

/-- Of a stack that nothing is put into, nothing is changed. -/
theorem call_observed_self (layers : List Layer) (form : Form) (path : String) (action : Action) :
    Run.Alike Eq (Reply.Observed action) Eq (call service layers form path action)
      (call service layers form path action) := by
  intro w w' hw
  obtain ⟨hresult, hworld⟩ := call_alike (keptByLayers_eq form) (Service.Alike.refl service form)
    layers (fun _ _ _ _ => ⟨rfl, fun _ => rfl⟩) path action w w' hw
  have hsame := hresult.eq (fun _ _ => StopsAlike.eq)
    fun _ _ => Reply.Alike.eq (fun _ _ => Reader.Alike.eq) (fun _ _ => Pager.Alike.eq)
  rw [hsame]
  exact ⟨.refl StopsAlike.refl (Reply.Observed.refl action) _, hworld⟩

/-- **Calls through a stack with an observer more**, by induction on the layers above it. -/
theorem call_observed (above below : List Layer) (form : Form) (path : String) (action : Action) :
    Run.Alike Eq (Reply.Observed action) Eq (call service (above ++ below) form path action)
      (call service (above ++ observer.layer :: below) form path action) := by
  induction above with
  | nil => exact observer.around_observed (call_observed_self service below form path action)
  | cons layer above ih =>
    rw [List.cons_append, List.cons_append, call_cons, call_cons]
    exact Layer.around_alike (keptByLayers_eq form) handlesKept_observed
      (fun _ _ => ⟨rfl, fun _ => rfl⟩) ih

/-- The service tells the same of itself through a layer if it does inside. -/
theorem aroundInfo_alike (info : ServiceInfo) (layer : Layer) {ask ask' : Run σ ServiceInfo}
    (h : Run.Alike Eq Eq Eq ask ask') :
    Run.Alike Eq Eq Eq (layer.aroundInfo info ask) (layer.aroundInfo info ask') := by
  cases layer with
  | context | retry b | limit n => exact h
  | index paths =>
    refine Run.Alike.bind h ?_
    rintro told _ rfl
    exact .pure rfl
  | logging =>
    have hlog : Run.Alike Eq Eq Eq (Run.log (.metadataAsked info.scheme) : Run σ Unit)
        (Run.log (.metadataAsked info.scheme)) :=
      fun w w' hw => ⟨.ok rfl, hw.service, hw.permits⟩
    exact Run.Alike.bind hlog fun _ _ _ => h
  | metrics =>
    refine Run.Alike.bind h ?_
    rintro told _ rfl
    have hmeasure : Run.Alike Eq Eq Eq (Run.measure ⟨told.scheme, .metadata, none⟩ : Run σ Unit)
        (Run.measure ⟨told.scheme, .metadata, none⟩) :=
      fun w w' hw => ⟨.ok rfl, hw.service, hw.permits⟩
    exact Run.Alike.bind hmeasure fun _ _ _ => .pure rfl

/-- **The question what a service is**, through a stack with an observer more. -/
theorem info_observed (above below : List Layer) :
    Run.Alike Eq Eq Eq (info service (above ++ below))
      (info service (above ++ observer.layer :: below)) := by
  have hself : Run.Alike Eq Eq Eq (info service below) (info service below) := by
    induction below with
    | nil => exact .pure rfl
    | cons layer below ih => exact aroundInfo_alike service.info layer ih
  induction above with
  | cons layer above ih => exact aroundInfo_alike service.info layer ih
  | nil =>
    cases observer with
    | logging => exact fun w w' hw => hself w _ ⟨hw.service, hw.permits⟩
    | metrics =>
      -- the question inside is followed by a note, which the plain stack does not take
      have hnoted : Run.Alike Eq Eq Eq (info service below >>= pure)
          (info service (Observer.metrics.layer :: below)) := by
        refine Run.Alike.bind hself ?_
        rintro told _ rfl
        exact fun w w' hw => ⟨.ok rfl, hw.service, hw.permits⟩
      rwa [bind_pure] at hnoted

end Stack

/-! ### Pulls -/

namespace Pager

theorem PagerMark.logged_observed {τ : Type} (info : ServiceInfo) (form : Form) (path : String)
    {inner inner' : Run (σ × Progress τ) Page} (hinner : Run.Alike Eq Eq Eq inner inner') :
    Run.Alike Eq Eq Eq inner (PagerMark.around info form path inner' .logged) := by
  intro w w' hw
  obtain ⟨hresult, hnext⟩ := hinner w w' hw
  have hsame : (inner' w').1.mapError (Stop.map id) = (inner' w').1 := by
    rcases (inner' w').1 with (e | _) | page <;> rfl
  rw [PagerMark.around_eq]
  refine ⟨?_, ?_, ?_⟩
  · show ResultsAlike _ _ _ ((inner' w').1.mapError (Stop.map id))
    rw [hsame]
    exact hresult
  · exact hnext.service.trans (PagerMark.service_noted info path .logged _ _).symm
  · exact hnext.permits.trans (PagerMark.permits_noted info path .logged _ _).symm

theorem pullSource_self (service : Service σ ρ π) (form : Form) :
    Run.Alike Eq Eq Eq (pullSource service form) (pullSource service form) := by
  rintro ⟨s, permits, events, samples, printed⟩ ⟨s', permits', events', samples', printed'⟩
    ⟨hs, hpermits⟩
  dsimp only at hs hpermits
  subst hs hpermits
  exact ⟨.refl StopsAlike.refl (fun _ => rfl) _, rfl, rfl⟩

/-- A pull through marks to which marks of layers that log were added. -/
theorem pullThrough_observed (service : Service σ ρ π) (form : Form) (path : String)
    {ms ms' : List PagerMark} (h : MarksObserved ms ms') :
    Run.Alike Eq Eq Eq (pullThrough service form path ms) (pullThrough service form path ms') := by
  induction h with
  | nil => exact pullSource_self service form
  | cons m _ ih =>
    rw [pullThrough_cons, pullThrough_cons]
    exact PagerMark.around_alike (keptByLayers_eq form) service.info path m ih
  | logged _ ih =>
    rw [pullThrough_cons]
    exact PagerMark.logged_observed service.info form path ih

/-- **Pulls from pagers of which the second one is observed** give the same. -/
theorem pull_observed (service : Service σ ρ π) (form : Form) {p p' : Pager π}
    (hp : p.Observed p') {w w' : World σ} (hw : World.Alike Eq w w') :
    (p'.pull service form w').1 = (p.pull service form w).1
      ∧ (p.pull service form w).2.1.Observed (p'.pull service form w').2.1
      ∧ World.Alike Eq (p.pull service form w).2.2 (p'.pull service form w').2.2 := by
  have hworld : World.Alike Eq (p.pullWorld w) (p'.pullWorld w') := by
    refine ⟨?_, hw.permits⟩
    show (w.service, p.source, p.listed) = (w'.service, p'.source, p'.listed)
    rw [hw.service, hp.source, hp.listed]
  obtain ⟨hresult, hservice, hpermits⟩ :=
    pullThrough_observed service form p.path hp.marks _ _ hworld
  rw [pull_eq, pull_eq, ← hp.path]
  refine ⟨?_, ?_, congrArg Prod.fst hservice, hpermits⟩
  · exact (hresult.eq (fun _ _ => StopsAlike.eq) fun _ _ => id).symm
  · exact ⟨congrArg (fun s => s.2.1) hservice, rfl, congrArg (fun s => s.2.2) hservice, hp.marks,
      hp.owes⟩

end Pager

namespace Observer

/-! ### Runs -/

/-- One thing that can be done with an operator and with the handles that it gave. -/
inductive Deed
  /-- Ask what the service is. -/
  | ask
  | call (form : Form) (path : String) (action : Action)
  /-- Pull the next page from an open pager. -/
  | pull (slot : Nat)
  /-- Read the next bytes from an open reader. -/
  | read (slot count : Nat)
  /-- Close an open handle. -/
  | close (slot : Nat)

/-- What a user sees of a deed.  A handle is seen by what it gives later. -/
inductive Answer
  | told (result : Except Stop ServiceInfo)
  | called (action : Action) (result : Except Stop (Reply Unit Unit action))
  | page (result : Except Stop Page)
  | bytes (got : Bytes × Option IoError)
  | closed
  /-- There is no such handle. -/
  | nothing

/-- How far a run is: the world, and the open handles, each with the form in which it was asked
for. -/
structure Stage (σ ρ π : Type) where
  world : World σ
  handles : List (Form × Handle ρ π) := []

/-- A reply without its handle. -/
def seen (action : Action) (result : Except Stop (Reply (Reader ρ) (Pager π) action)) :
    Except Stop (Reply Unit Unit action) :=
  result.map (Reply.map (fun _ => ()) (fun _ => ()) action)

/-- Do one thing. -/
def step (op : Operator σ ρ π) (deed : Deed) (s : Stage σ ρ π) : Answer × Stage σ ρ π :=
  match deed with
  | .ask =>
    let (result, world) := op.info s.world
    (.told result, { s with world })
  | .call form path action =>
    let (result, world) := op.call form path action s.world
    (.called action (seen action result),
      { world, handles := s.handles ++ (handlesOf action result).map (form, ·) })
  | .pull slot => match s.handles[slot]? with
    | some (form, .pager p) =>
      let (result, p, world) := p.pull op.service form s.world
      (.page result, { world, handles := s.handles.set slot (form, .pager p) })
    | _ => (.nothing, s)
  | .read slot count => match s.handles[slot]? with
    | some (form, .reader r) =>
      let (got, source, service) := op.service.readUpTo form count count r.source s.world.service
      (.bytes got, { world := { s.world with service },
                     handles := s.handles.set slot (form, .reader { r with source }) })
    | _ => (.nothing, s)
  | .close slot => match s.handles[slot]? with
    | some (_, h) =>
      let (_, world) := h.close s.world
      (.closed, { world, handles := s.handles.eraseIdx slot })
    | none => (.nothing, s)

/-- Do one thing after the other. -/
def run (op : Operator σ ρ π) : List Deed → Stage σ ρ π → List Answer × Stage σ ρ π
  | [], s => ([], s)
  | deed :: deeds, s =>
    let (answer, s) := step op deed s
    let (answers, s) := run op deeds s
    (answer :: answers, s)

/-! ### Runs that are observed -/

/-- The same reader, or pagers of which the second one is observed. -/
inductive HandleObserved : Handle ρ π → Handle ρ π → Prop
  | reader (r : Reader ρ) : HandleObserved (.reader r) (.reader r)
  | pager {p p' : Pager π} (h : p.Observed p') : HandleObserved (.pager p) (.pager p')

theorem HandleObserved.owes {h h' : Handle ρ π} (hobserved : HandleObserved h h') :
    h.owes = h'.owes := by
  cases hobserved with
  | reader r => rfl
  | pager hp => exact hp.owes

/-- Open handles that were asked for in the same form. -/
def SlotObserved (x x' : Form × Handle ρ π) : Prop := x.1 = x'.1 ∧ HandleObserved x.2 x'.2

/-- Stages of a run without the observer and with it. -/
structure StageObserved (s s' : Stage σ ρ π) : Prop where
  world : World.Alike Eq s.world s'.world
  handles : List.Forall₂ SlotObserved s.handles s'.handles

/-- At the start nothing is open, and the two runs are in one and the same world. -/
theorem StageObserved.start (w : World σ) :
    StageObserved ({ world := w } : Stage σ ρ π) { world := w } :=
  ⟨⟨rfl, rfl⟩, .nil⟩

section

variable {action : Action} {result result' : Except Stop (Reply (Reader ρ) (Pager π) action)}
  (h : ResultsAlike (StopsAlike Eq) (Reply.Observed action) result result')
include h

theorem seen_observed : seen action result' = seen action result := by
  cases h with
  | error h => rw [h.eq]
  | ok h =>
    cases action with
    | read range => exact congrArg (fun size => Except.ok (size, ())) h.1.symm
    | list => rfl
    | create mode | write length data | stat | delete => exact congrArg Except.ok h.symm

theorem handles_observed (form : Form) :
    List.Forall₂ SlotObserved ((handlesOf action result).map (form, ·))
      ((handlesOf action result').map (form, ·)) := by
  cases h with
  | error h => exact .nil
  | @ok reply reply' h =>
    cases action with
    | read range =>
      have hreader : HandleObserved (π := π) (.reader reply.2) (.reader reply'.2) := by
        rw [← show reply.2 = reply'.2 from h.2]
        exact .reader _
      exact .cons ⟨rfl, hreader⟩ .nil
    | list => exact .cons ⟨rfl, .pager h⟩ .nil
    | create mode | write length data | stat | delete => exact .nil

end

theorem forall₂_eraseIdx {α β : Type} {R : α → β → Prop} {l : List α} {l' : List β}
    (h : List.Forall₂ R l l') (i : Nat) : List.Forall₂ R (l.eraseIdx i) (l'.eraseIdx i) := by
  induction h generalizing i with
  | nil => exact .nil
  | cons hfirst hrest ih =>
    cases i with
    | zero => exact hrest
    | succ i => exact .cons hfirst (ih i)

variable (service : Service σ ρ π) (observer : Observer) (above below : List Layer)

/-- **One deed with an observer more**: the answer is the same, and the stage afterwards differs in
marks only. -/
theorem step_observed (deed : Deed) {s s' : Stage σ ρ π} (hs : StageObserved s s') :
    (step { service, layers := above ++ observer.layer :: below } deed s').1
        = (step { service, layers := above ++ below } deed s).1
      ∧ StageObserved (step { service, layers := above ++ below } deed s).2
        (step { service, layers := above ++ observer.layer :: below } deed s').2 := by
  cases deed with
  | ask =>
    obtain ⟨hresult, hworld⟩ := Stack.info_observed service observer above below _ _ hs.world
    have hsame := hresult.eq (fun _ _ => StopsAlike.eq) fun _ _ => id
    exact ⟨congrArg Answer.told hsame.symm, hworld, hs.handles⟩
  | call form path action =>
    obtain ⟨hresult, hworld⟩ :=
      Stack.call_observed service observer above below form path action _ _ hs.world
    exact ⟨congrArg (Answer.called action) (seen_observed hresult), hworld,
      List.rel_append hs.handles (handles_observed hresult form)⟩
  | pull slot =>
    have hslot := forall₂_getElem? hs.handles slot
    rw [step, step]
    generalize s.handles[slot]? = found at hslot ⊢
    generalize s'.handles[slot]? = found' at hslot ⊢
    cases hslot with
    | none => exact ⟨rfl, hs⟩
    | @some x x' hx =>
      obtain ⟨form, h⟩ := x
      obtain ⟨form', h'⟩ := x'
      obtain ⟨rfl, hobserved⟩ := hx
      cases hobserved with
      | reader r => exact ⟨rfl, hs⟩
      | pager hp =>
        obtain ⟨hpage, hpager, hworld⟩ := Pager.pull_observed service form hp hs.world
        exact ⟨congrArg Answer.page hpage, hworld,
          forall₂_set hs.handles slot ⟨rfl, .pager hpager⟩⟩
  | read slot count =>
    have hslot := forall₂_getElem? hs.handles slot
    rw [step, step]
    generalize s.handles[slot]? = found at hslot ⊢
    generalize s'.handles[slot]? = found' at hslot ⊢
    cases hslot with
    | none => exact ⟨rfl, hs⟩
    | @some x x' hx =>
      obtain ⟨form, h⟩ := x
      obtain ⟨form', h'⟩ := x'
      obtain ⟨rfl, hobserved⟩ := hx
      cases hobserved with
      | pager hp => exact ⟨rfl, hs⟩
      | reader r =>
        dsimp only
        rw [← hs.world.service]
        exact ⟨rfl, ⟨rfl, hs.world.permits⟩, forall₂_set hs.handles slot ⟨rfl, .reader _⟩⟩
  | close slot =>
    have hslot := forall₂_getElem? hs.handles slot
    rw [step, step]
    generalize s.handles[slot]? = found at hslot ⊢
    generalize s'.handles[slot]? = found' at hslot ⊢
    cases hslot with
    | none => exact ⟨rfl, hs⟩
    | @some x x' hx =>
      obtain ⟨form, h⟩ := x
      obtain ⟨form', h'⟩ := x'
      have howes : h.owes = h'.owes := hx.2.owes
      dsimp only
      rw [Handle.close_apply, Handle.close_apply, howes, hs.world.permits]
      exact ⟨rfl, ⟨hs.world.service, rfl⟩, forall₂_eraseIdx hs.handles slot⟩

/-- **A run with an observer more**, by induction on the deeds. -/
theorem run_observed (deeds : List Deed) {s s' : Stage σ ρ π} (hs : StageObserved s s') :
    (run { service, layers := above ++ observer.layer :: below } deeds s').1
        = (run { service, layers := above ++ below } deeds s).1
      ∧ StageObserved (run { service, layers := above ++ below } deeds s).2
        (run { service, layers := above ++ observer.layer :: below } deeds s').2 := by
  induction deeds generalizing s s' with
  | nil => exact ⟨rfl, hs⟩
  | cons deed deeds ih =>
    obtain ⟨hanswer, hstage⟩ := step_observed service observer above below deed hs
    obtain ⟨hanswers, hend⟩ := ih hstage
    exact ⟨congrArg₂ List.cons hanswer hanswers, hend⟩

/-- **Observers only observe.**  Let an observer be put anywhere into any stack on any service.
Whatever is done with the operator, one thing after the other, is answered as it is without the
observer: replies, pages, bytes and errors are the same.  The service ends in the same state and
the same permits are free; and a service that keeps a record of what it is reached for has the same
record, with the paths, the arguments and the bytes. -/
theorem only_observes (deeds : List Deed) (w : World σ) :
    (run { service, layers := above ++ observer.layer :: below } deeds { world := w }).1
        = (run { service, layers := above ++ below } deeds { world := w }).1
      ∧ (run { service, layers := above ++ observer.layer :: below } deeds
          { world := w }).2.world.service
        = (run { service, layers := above ++ below } deeds { world := w }).2.world.service
      ∧ (run { service, layers := above ++ observer.layer :: below } deeds
          { world := w }).2.world.permits
        = (run { service, layers := above ++ below } deeds { world := w }).2.world.permits
      ∧ (run { service := service.recorded, layers := above ++ observer.layer :: below } deeds
          { world := w.withService (w.service, []) }).2.world.service.2
        = (run { service := service.recorded, layers := above ++ below } deeds
          { world := w.withService (w.service, []) }).2.world.service.2 := by
  obtain ⟨hanswers, hend⟩ := run_observed service observer above below deeds (.start w)
  obtain ⟨-, hrecorded⟩ := run_observed service.recorded observer above below deeds
    (.start (w.withService (w.service, [])))
  exact ⟨hanswers, hend.world.service.symm, hend.world.permits.symm,
    congrArg Prod.snd hrecorded.world.service.symm⟩

end Observer

end ObjectStorage
