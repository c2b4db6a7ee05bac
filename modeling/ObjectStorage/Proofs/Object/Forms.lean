import ObjectStorage.Proofs.Layer.Renamed
import ObjectStorage.Service.Scripted
import ObjectStorage.Table

/-!
# The two forms agree

A stack of layers without a limit does the same in the async and in the blocking form, if the
service does.  Whatever is called, pulled and asked of objects, one after the other, in whatever
form it is done each time: the answers are the same, the service is reached for the same in the same
order, and errors differ in the names of operations only.

* `Deed`, `Stage`, `run` — what can be done with an operator, and a run of it;
* `Function.run_alike` — the functions of objects;
* `step_alike`, `run_alike` — a step and a run in two forms;
* `forms_agree` — answers and records of two runs of the same deeds;
* `Scripted.service_alike` — a script that has the same outcomes for both forms.
-/

namespace ObjectStorage

variable {σ σ' ρ ρ' π π' : Type}

namespace Forms

/-! ### Runs -/

/-- A function of objects that gives no handle. -/
inductive Function
  | create
  | metadata
  | exists
  | write (data : Bytes)
  | delete

/-- What a function of objects gives. -/
@[reducible] def Function.Value : Function → Type
  | .create | .write _ | .delete => Unit
  | .metadata => Metadata
  | .exists => Bool

/-- Apply a function to an object. -/
def Function.run (o : Object σ ρ π) (form : Form) : (function : Function) → Run σ function.Value
  | .create => o.create form
  | .metadata => o.metadata form
  | .exists => o.exists form
  | .write data => o.write form data
  | .delete => o.delete form

/-- One thing that can be done with an operator. -/
inductive Deed
  /-- Call the operator. -/
  | call (path : String) (action : Action)
  /-- Pull the next page from one of the pagers that calls have given so far. -/
  | pull (slot : Nat)
  /-- Apply a function to the object at a path. -/
  | object (path : String) (function : Function)

/-- What comes of a deed. -/
inductive Answer (ρ π : Type)
  | called (action : Action) (result : Except Stop (Reply (Reader ρ) (Pager π) action))
  | pulled (result : Except Stop Page)
  | object (function : Function) (result : Except Stop function.Value)
  /-- There is no such pager. -/
  | nothing

/-- How far a run is: the world, and the pagers that it has, each with the form in which it was
asked for, and in which its pages are pulled therefore. -/
structure Stage (σ π : Type) where
  world : World σ
  pagers : List (Form × Pager π) := []

/-- The pager that a call gives, if it gives one. -/
def given (form : Form) :
    (action : Action) → Except Stop (Reply (Reader ρ) (Pager π) action) → List (Form × Pager π)
  | .list, .ok p => [(form, p)]
  | _, _ => []

/-- Do one thing. -/
def step (op : Operator σ ρ π) (form : Form) (deed : Deed) (s : Stage σ π) :
    Answer ρ π × Stage σ π :=
  match deed with
  | .call path action =>
    let (result, world) := op.call form path action s.world
    (.called action result, { world, pagers := s.pagers ++ given form action result })
  | .pull slot => match s.pagers[slot]? with
    | none => (.nothing, s)
    | some (asked, p) =>
      let (result, p, world) := p.pull op.service asked s.world
      (.pulled result, { world, pagers := s.pagers.set slot (asked, p) })
  | .object path function =>
    let (result, world) := function.run (op.object path) form s.world
    (.object function result, { s with world })

/-- Do one thing after the other, each in its form. -/
def run (op : Operator σ ρ π) : List (Form × Deed) → Stage σ π → List (Answer ρ π) × Stage σ π
  | [], s => ([], s)
  | (form, deed) :: deeds, s =>
    let (answer, s) := step op form deed s
    let (answers, s) := run op deeds s
    (answer :: answers, s)

/-! ### Runs that are alike -/

/-- Answers that are alike: what was asked in the form `f` on the one side was asked in the form `g`
on the other, and errors are renamed from the one to the other. -/
inductive AnswersAlike (pairs : Form → Form → Prop) (readers : ρ → ρ' → Prop)
    (pagers : π → π' → Prop) : Answer ρ π → Answer ρ' π' → Prop
  | called {f g : Form} (hpair : pairs f g) {action : Action}
    {result : Except Stop (Reply (Reader ρ) (Pager π) action)}
    {result' : Except Stop (Reply (Reader ρ') (Pager π') action)}
    (h : ResultsAlike (StopsAlike (Error.Renamed f g)) (Layer.RepliesAlike readers pagers action)
      result result') :
    AnswersAlike pairs readers pagers (.called action result) (.called action result')
  | pulled {f g : Form} (hpair : pairs f g) {result result' : Except Stop Page}
    (h : ResultsAlike (StopsAlike (Error.Renamed f g)) Eq result result') :
    AnswersAlike pairs readers pagers (.pulled result) (.pulled result')
  | object {f g : Form} (hpair : pairs f g) {function : Function}
    {result result' : Except Stop function.Value}
    (h : ResultsAlike (StopsAlike (Error.Renamed f g)) Eq result result') :
    AnswersAlike pairs readers pagers (.object function result) (.object function result')
  | nothing : AnswersAlike pairs readers pagers .nothing .nothing

/-- Pagers that are alike and were asked for in forms that are paired. -/
def SlotsAlike (pairs : Form → Form → Prop) (pagers : π → π' → Prop) (x : Form × Pager π)
    (x' : Form × Pager π') : Prop :=
  pairs x.1 x'.1 ∧ x.2.Alike pagers x'.2

/-- Stages of runs that are alike. -/
structure StagesAlike (pairs : Form → Form → Prop) (states : σ → σ' → Prop)
    (pagers : π → π' → Prop) (s : Stage σ π) (s' : Stage σ' π') : Prop where
  world : World.Alike states s.world s'.world
  pagers : List.Forall₂ (SlotsAlike pairs pagers) s.pagers s'.pagers

/-- Services that are alike in all forms that are paired, up to the names of operations. -/
def ServicesAlike (service : Service σ ρ π) (service' : Service σ' ρ' π')
    (pairs : Form → Form → Prop) (states : σ → σ' → Prop) (readers : ρ → ρ' → Prop)
    (pagers : π → π' → Prop) : Prop :=
  ∀ f g, pairs f g → service.Alike service' f g (Error.Renamed f g) states readers pagers

section

variable {service : Service σ ρ π} {service' : Service σ' ρ' π'} {pairs : Form → Form → Prop}
  {states : σ → σ' → Prop} {readers : ρ → ρ' → Prop} {pagers : π → π' → Prop}
  {layers : List Layer} {f g : Form}

theorem call_alike (hservice : ServicesAlike service service' pairs states readers pagers)
    (hlimit : ∀ n, .limit n ∉ layers) (hpair : pairs f g) (path : String) (action : Action) :
    Run.Alike (Error.Renamed f g) (Layer.RepliesAlike readers pagers action) states
      (Stack.call service layers f path action) (Stack.call service' layers g path action) := by
  refine Stack.call_alike (keptByLayers_renamed f g) (hservice f g hpair) layers ?_ path action
  intro layer hmem n heq
  exact absurd (heq ▸ hmem) (hlimit n)

theorem ensureFile_alike (states : σ → σ' → Prop) (o : Object σ ρ π) (o' : Object σ' ρ' π')
    (hpath : o.path = o'.path) (f g : Form) (function : String) :
    Run.Alike (Error.Renamed f g) Eq states (o.ensureFile f function)
      (o'.ensureFile g function) := by
  have hnamed := (Error.Renamed.refl f g (Error.new .objectIsADirectory "object is a directory")
    |>.withOperation (.function function)).withContext "path" o.path
  rw [Object.ensureFile, Object.ensureFile, Object.isDir, Object.isDir, ← hpath]
  split
  · exact .fail hnamed
  · exact .pure rfl

/-- That an object is missing is found out in either form. -/
theorem ifMissing_alike {α : Type} (missing : α) {x : Run σ α} {x' : Run σ' α}
    (hx : Run.Alike (Error.Renamed f g) Eq states x x') :
    Run.Alike (Error.Renamed f g) Eq states (Object.ifMissing missing x)
      (Object.ifMissing missing x') := by
  refine hx.attempt.bind ?_
  intro result result' hresult
  cases hresult with
  | ok h => exact .pure h
  | error h =>
    dsimp only
    rw [h.kind]
    split
    · exact .pure rfl
    · exact .fail h

/-- **The functions of objects in the two forms.** -/
theorem Function.run_alike (hservice : ServicesAlike service service' pairs states readers pagers)
    (hlimit : ∀ n, .limit n ∉ layers) (hpair : pairs f g) (path : String) (function : Function) :
    Run.Alike (Error.Renamed f g) Eq states
      (function.run (Operator.object { service, layers } path) f)
      (function.run (Operator.object { service := service', layers } path) g) := by
  have hcall := call_alike hservice hlimit hpair (Path.normalize path)
  cases function with
  | create => exact hcall (.create (if Path.isDir (Path.normalize path) then .dir else .file))
  | metadata => exact hcall .stat
  | delete => exact hcall .delete
  | write data =>
    have hensure := ensureFile_alike states
      (Operator.object { service, layers } path)
      (Operator.object { service := service', layers } path) rfl f g "write"
    refine hensure.bind ?_
    intro _ _ _
    refine Run.Alike.bind (hcall (.write (ByteRange.count data) data)) ?_
    intro _ _ _
    exact .pure rfl
  | «exists» =>
    refine ifMissing_alike false ?_
    refine Run.Alike.bind (hcall .stat) ?_
    intro _ _ _
    exact .pure rfl

/-! ### Steps and runs in two forms -/

theorem given_alike (hpair : pairs f g) {action : Action}
    {result : Except Stop (Reply (Reader ρ) (Pager π) action)}
    {result' : Except Stop (Reply (Reader ρ') (Pager π') action)}
    (h : ResultsAlike (StopsAlike (Error.Renamed f g)) (Layer.RepliesAlike readers pagers action)
      result result') :
    List.Forall₂ (SlotsAlike pairs pagers) (given f action result) (given g action result') := by
  cases h with
  | error _ => cases action <;> exact .nil
  | ok h =>
    cases action with
    | list => exact .cons ⟨hpair, h⟩ .nil
    | create mode | read range | write length data | stat | delete => exact .nil

/-- **One deed in two forms**: the answers are alike, and so are the stages afterwards. -/
theorem step_alike (hservice : ServicesAlike service service' pairs states readers pagers)
    (hlimit : ∀ n, .limit n ∉ layers) (hpair : pairs f g) (deed : Deed) {s : Stage σ π}
    {s' : Stage σ' π'} (hs : StagesAlike pairs states pagers s s') :
    AnswersAlike pairs readers pagers (step { service, layers } f deed s).1
        (step { service := service', layers } g deed s').1
      ∧ StagesAlike pairs states pagers (step { service, layers } f deed s).2
        (step { service := service', layers } g deed s').2 := by
  cases deed with
  | call path action =>
    obtain ⟨hresult, hworld⟩ := call_alike hservice hlimit hpair path action _ _ hs.world
    have hgiven := given_alike hpair hresult
    exact ⟨.called hpair hresult, hworld, List.rel_append hs.pagers hgiven⟩
  | object path function =>
    obtain ⟨hresult, hworld⟩ :=
      Function.run_alike hservice hlimit hpair path function _ _ hs.world
    exact ⟨.object hpair hresult, hworld, hs.pagers⟩
  | pull slot =>
    have hslot := forall₂_getElem? hs.pagers slot
    rw [step, step]
    generalize s.pagers[slot]? = found at hslot ⊢
    generalize s'.pagers[slot]? = found' at hslot ⊢
    cases hslot with
    | none => exact ⟨.nothing, hs⟩
    | @some slot₁ slot₂ hslot =>
      obtain ⟨asked, p⟩ := slot₁
      obtain ⟨asked', p'⟩ := slot₂
      obtain ⟨hasked, hp⟩ := hslot
      obtain ⟨hresult, hpager, hworld⟩ := Pager.pull_alike (keptByLayers_renamed asked asked')
        (hservice asked asked' hasked) hp hs.world
      exact ⟨.pulled hasked hresult, hworld, forall₂_set hs.pagers slot ⟨hasked, hpager⟩⟩

/-- **A run in two forms**, by induction on the deeds. -/
theorem run_alike (hservice : ServicesAlike service service' pairs states readers pagers)
    (hlimit : ∀ n, .limit n ∉ layers) (deeds : List (Form × Form × Deed))
    (hforms : ∀ d ∈ deeds, pairs d.1 d.2.1) {s : Stage σ π} {s' : Stage σ' π'}
    (hs : StagesAlike pairs states pagers s s') :
    List.Forall₂ (AnswersAlike pairs readers pagers)
        (run { service, layers } (deeds.map fun d => (d.1, d.2.2)) s).1
        (run { service := service', layers } (deeds.map fun d => (d.2.1, d.2.2)) s').1
      ∧ StagesAlike pairs states pagers
        (run { service, layers } (deeds.map fun d => (d.1, d.2.2)) s).2
        (run { service := service', layers } (deeds.map fun d => (d.2.1, d.2.2)) s').2 := by
  induction deeds generalizing s s' with
  | nil => exact ⟨.nil, hs⟩
  | cons d deeds ih =>
    obtain ⟨f, g, deed⟩ := d
    have hpair : pairs f g := hforms (f, g, deed) List.mem_cons_self
    obtain ⟨hanswer, hstage⟩ := step_alike hservice hlimit hpair deed hs
    obtain ⟨hanswers, hend⟩ := ih (fun d hmem => hforms d (List.mem_cons_of_mem _ hmem)) hstage
    exact ⟨.cons hanswer hanswers, hend⟩

/-- An operator whose service keeps a record. -/
def recorded (op : Operator σ ρ π) : Operator (σ × List Contact) ρ π :=
  { service := op.service.recorded, layers := op.layers }

/-- The stage at which a run begins: nothing is on record, and there are no pagers. -/
def fresh (w : World σ) : Stage (σ × List Contact) π :=
  { world := w.withService (w.service, []) }

/-- **The two forms agree.**  Let the service of an operator answer alike in forms that are paired,
and let there be no limit among the layers.  If whatever can be done is done one after the other,
each thing in some form, and again in forms that are paired with those, then each answer is like its
counterpart: the same reply or the same page, or errors that differ in the names of operations only.
The service is reached in the same order for the same, with the same paths and arguments. -/
theorem forms_agree {op : Operator σ ρ π} {states : σ → σ → Prop} {readers : ρ → ρ → Prop}
    {pagers : π → π → Prop}
    (hservice : ServicesAlike op.service op.service pairs states readers pagers)
    (hlimit : ∀ n, .limit n ∉ op.layers) {w w' : World σ} (hw : World.Alike states w w')
    (deeds : List (Form × Form × Deed)) (hforms : ∀ d ∈ deeds, pairs d.1 d.2.1) :
    List.Forall₂ (AnswersAlike pairs readers pagers)
        (run (recorded op) (deeds.map fun d => (d.1, d.2.2)) (fresh w)).1
        (run (recorded op) (deeds.map fun d => (d.2.1, d.2.2)) (fresh w')).1
      ∧ List.Forall₂ (ContactsAlike pairs)
        (run (recorded op) (deeds.map fun d => (d.1, d.2.2)) (fresh w)).2.world.service.2
        (run (recorded op) (deeds.map fun d => (d.2.1, d.2.2)) (fresh w')).2.world.service.2 := by
  have hrecorded : ServicesAlike op.service.recorded op.service.recorded pairs
      (RecordedAlike pairs states) readers pagers := by
    intro f g hpair
    exact (hservice f g hpair).recorded hpair
  have hfresh : StagesAlike pairs (RecordedAlike pairs states) pagers (fresh w) (fresh w') :=
    ⟨⟨⟨hw.service, .nil⟩, hw.permits⟩, .nil⟩
  obtain ⟨hanswers, hstage⟩ := run_alike hrecorded hlimit deeds hforms hfresh
  exact ⟨hanswers, hstage.world.service.2⟩

end

end Forms

/-! ### Scripts with the same outcomes for both forms -/

namespace Scripted

/-- Pages and errors of pagers that are the same but for the names of operations. -/
abbrev PagesAlike (f g : Form) : Pages → Pages → Prop :=
  List.Forall₂ (ResultsAlike (Error.Renamed f g) Eq)

/-- Outcomes that are the same but for the names of operations. -/
inductive OutcomesAlike (f g : Form) : Outcome → Outcome → Prop
  | failed {e e' : Error} (h : e.Renamed f g e') : OutcomesAlike f g (.failed e) (.failed e')
  | done : OutcomesAlike f g .done .done
  | read (size : UInt64) (pieces : Pieces) :
    OutcomesAlike f g (.read size pieces) (.read size pieces)
  | written (size : UInt64) : OutcomesAlike f g (.written size) (.written size)
  | stat (metadata : Metadata) : OutcomesAlike f g (.stat metadata) (.stat metadata)
  | list {pages pages' : Pages} (h : PagesAlike f g pages pages') :
    OutcomesAlike f g (.list pages) (.list pages')

/-- Scripts that have the same outcomes for each operation in the form `f` as for its counterpart
in the form `g`. -/
def ScriptsAlike (f g : Form) (s s' : State) : Prop :=
  ∀ verb, List.Forall₂ (OutcomesAlike f g) (s.left (.call f verb)) (s'.left (.call g verb))

theorem left_leave (s : State) (operation other : Operation) (outcomes : List Outcome) :
    (s.leave operation outcomes).left other
      = if other = operation then outcomes else s.left other := by
  have hlookup := Table.lookup_filter_ne s.outcomes operation other
  rw [State.left, State.leave, List.lookup_cons]
  by_cases hsame : other = operation
  · rw [if_pos hsame, beq_iff_eq.2 hsame]
    rfl
  · rw [if_neg hsame] at hlookup ⊢
    rw [beq_false_of_ne hsame, hlookup]
    rfl

theorem reply_alike (f g : Form) {outcome outcome' : Outcome}
    (h : OutcomesAlike f g outcome outcome') (action : Action) :
    ResultsAlike (Error.Renamed f g) (Reply.Alike Eq (PagesAlike f g) action)
      (reply action outcome) (reply action outcome') := by
  have hexhausted := Error.Renamed.refl f g exhausted
  cases h with
  | failed h => cases action <;> exact .error h
  | done =>
    cases action with
    | create mode | delete => exact .ok rfl
    | read range | write length data | stat | list => exact .error hexhausted
  | read size pieces =>
    cases action with
    | read range => exact .ok ⟨rfl, rfl⟩
    | create mode | write length data | stat | delete | list => exact .error hexhausted
  | written size =>
    cases action with
    | write length data => exact .ok rfl
    | create mode | read range | stat | delete | list => exact .error hexhausted
  | stat metadata =>
    cases action with
    | stat => exact .ok rfl
    | create mode | read range | write length data | delete | list => exact .error hexhausted
  | list h =>
    cases action with
    | list => exact .ok h
    | create mode | read range | write length data | stat | delete => exact .error hexhausted

section

variable {form : Form} {path : String} {action : Action} {s : State}

/-- A call that was recorded. -/
def State.called (s : State) (form : Form) (path : String) (action : Action) : State :=
  { s with calls := ⟨action.operation form, path, action⟩ :: s.calls }

theorem call_of_nil (h : s.left (action.operation form) = []) :
    call form path action s = (.error exhausted, s.called form path action) := by
  have hleft : (s.called form path action).left (action.operation form) = [] := h
  rw [call]
  simp only [State.called] at hleft
  simp only [hleft]
  rfl

theorem call_of_cons {outcome : Outcome} {rest : List Outcome}
    (h : s.left (action.operation form) = outcome :: rest) :
    call form path action s = (reply action outcome,
      (s.called form path action).leave (action.operation form) rest) := by
  have hleft : (s.called form path action).left (action.operation form) = outcome :: rest := h
  rw [call]
  simp only [State.called] at hleft
  simp only [hleft]
  rfl

end

/-- A service whose script has the same outcomes in both forms answers alike in both. -/
theorem service_alike (info : ServiceInfo) (f g : Form) :
    (service info).Alike (service info) f g (Error.Renamed f g) (ScriptsAlike f g) Eq
      (PagesAlike f g) where
  info := rfl
  call path action s s' hs := by
    have hleft : List.Forall₂ (OutcomesAlike f g) (s.left (action.operation f))
        (s'.left (action.operation g)) := hs action.verb
    dsimp only [service]
    cases hf : s.left (action.operation f) with
    | nil =>
      rw [hf] at hleft
      have hg := List.forall₂_nil_left_iff.1 hleft
      rw [call_of_nil hf, call_of_nil hg]
      exact ⟨.error (Error.Renamed.refl f g exhausted), hs⟩
    | cons outcome rest =>
      rw [hf] at hleft
      obtain ⟨outcome', rest', houtcome, hrest, hg⟩ := List.forall₂_cons_left_iff.1 hleft
      rw [call_of_cons hf, call_of_cons hg]
      refine ⟨reply_alike f g houtcome action, ?_⟩
      intro verb
      rw [left_leave, left_leave]
      by_cases hverb : verb = action.verb
      · have hsame (form : Form) : Operation.call form verb = action.operation form := by
          rw [hverb]
          rfl
        rw [if_pos (hsame f), if_pos (hsame g)]
        exact hrest
      · have hother (form : Form) : Operation.call form verb ≠ action.operation form := by
          intro heq
          exact hverb (Operation.call.inj heq).2
        rw [if_neg (hother f), if_neg (hother g)]
        exact hs verb
  pull {pages pages'} hp {s s'} hs := by
    cases hp with
    | nil => exact ⟨.ok rfl, .nil, hs⟩
    | cons hpage hrest => exact ⟨hpage, hrest, hs⟩

end Scripted

namespace Forms

/-! ### A script for both forms -/

/-- Which forms are compared: async on the one side and blocking on the other. -/
def sides (f g : Form) : Prop := f = .async ∧ g = .blocking

/-- The outcomes of both forms: a page that comes at the second attempt, and an object that is found
at the third. -/
def bothOutcomes (form : Form) : List (Operation × List Scripted.Outcome) :=
  let busy := (Error.new .unexpected "busy").temporary
  [(.call form .list, [.list [.error busy, .ok (some [])]]),
    (.call form .stat, [.failed busy, .failed busy, .stat { mode := .file }])]

/-- The world with the outcomes of both forms. -/
def bothWorld : World Scripted.State where
  service := { outcomes := bothOutcomes .async ++ bothOutcomes .blocking }

/-- What is done with the operator. -/
def bothDeeds : List (Form × Form × Deed) :=
  [(.async, .blocking, .call "d/" .list), (.async, .blocking, .pull 0),
    (.async, .blocking, .call "a" .stat)]

/-- The layers of the operator. -/
def bothLayers : List Layer := [.context, .logging, .retry { maxTimes := 2 }, .metrics]

theorem scriptsAlike_both : Scripted.ScriptsAlike .async .blocking bothWorld.service
    bothWorld.service := by
  have hbusy := Error.Renamed.refl .async .blocking (Error.new .unexpected "busy").temporary
  intro verb
  cases verb with
  | list => exact .cons (.list (.cons (.error hbusy) (.cons (.ok rfl) .nil))) .nil
  | stat => exact .cons (.failed hbusy) (.cons (.failed hbusy) (.cons (.stat _) .nil))
  | create | read | write | delete => exact .nil

/-- What the service is reached for: a page is pulled twice and the object looked up three times. -/
def bothContacts (form : Form) : List Contact :=
  [.call form "d/" .list, .pull form, .pull form, .call form "a" .stat, .call form "a" .stat,
    .call form "a" .stat]

/-- The operator, on a service that follows its script. -/
def bothOperator : Operator Scripted.State Scripted.Pieces Scripted.Pages where
  service := Scripted.service { scheme := .memory }
  layers := bothLayers

theorem forms_agree_both :
    (∀ n, .limit n ∉ bothLayers) ∧ (∀ d ∈ bothDeeds, sides d.1 d.2.1)
      ∧ List.Forall₂ (AnswersAlike sides Eq (Scripted.PagesAlike .async .blocking))
        (run (recorded bothOperator) (bothDeeds.map fun d => (d.1, d.2.2)) (fresh bothWorld)).1
        (run (recorded bothOperator) (bothDeeds.map fun d => (d.2.1, d.2.2)) (fresh bothWorld)).1
      ∧ List.Forall₂ (ContactsAlike sides) (bothContacts .async) (bothContacts .blocking) := by
  have hservice : ServicesAlike bothOperator.service bothOperator.service sides
      (Scripted.ScriptsAlike .async .blocking) Eq (Scripted.PagesAlike .async .blocking) := by
    rintro f g ⟨rfl, rfl⟩
    exact Scripted.service_alike _ .async .blocking
  have hlimit : ∀ n, .limit n ∉ bothLayers := by
    intro n hmem
    simp [bothLayers] at hmem
  have hforms : ∀ d ∈ bothDeeds, sides d.1 d.2.1 := by
    simp [bothDeeds, sides]
  have hworld : World.Alike (Scripted.ScriptsAlike .async .blocking) bothWorld bothWorld :=
    ⟨scriptsAlike_both, rfl⟩
  have hasync : (run (recorded bothOperator) (bothDeeds.map fun d => (d.1, d.2.2))
      (fresh bothWorld)).2.world.service.2 = bothContacts .async := by decide +kernel
  have hblocking : (run (recorded bothOperator) (bothDeeds.map fun d => (d.2.1, d.2.2))
      (fresh bothWorld)).2.world.service.2 = bothContacts .blocking := by decide +kernel
  obtain ⟨hanswers, hcontacts⟩ := forms_agree hservice hlimit hworld bothDeeds hforms
  have hsame := congrArg₂ (List.Forall₂ (ContactsAlike sides)) hasync hblocking
  exact ⟨hlimit, hforms, hanswers, hsame.mp hcontacts⟩

end Forms

end ObjectStorage
