import Mathlib.Data.List.Forall2
import Mathlib.Data.Sum.Basic
import ObjectStorage.Proofs.Layer.Passage

/-!
# Services that layers cannot tell apart

Two services are alike, each called in one form, if from states that are alike they give answers
that are alike and reach such states again.  What counts as alike is up to the user; for errors it
must be something that layers do not break.  Then a stack of layers on the one service does what the
same layers do on the other, call by call and pull by pull.  Limits are the exception: a call that
waits in one form fails in the other.

* `ResultsAlike`, `Reply.Alike`, `Pager.Alike`, `World.Alike` — what is alike if its parts are;
* `KeptByLayers`, `HandlesKept` — the likenesses of errors and of handles that layers do not break;
* `Service.Alike` — services that are alike;
* `Stack.call_alike`, `Pager.pull_alike` — so are calls and pulls through layers.
-/

namespace ObjectStorage

variable {σ σ' ρ ρ' π π' : Type}

/-! ### What is alike -/

/-- Results that are alike: both values, or both errors. -/
inductive ResultsAlike {ε ε' α α' : Type} (errors : ε → ε' → Prop) (values : α → α' → Prop) :
    Except ε α → Except ε' α' → Prop
  | ok {a : α} {a' : α'} (h : values a a') : ResultsAlike errors values (.ok a) (.ok a')
  | error {e : ε} {e' : ε'} (h : errors e e') : ResultsAlike errors values (.error e) (.error e')

/-- Operations that give no value for reasons that are alike. -/
inductive StopsAlike (errors : Error → Error → Prop) : Stop → Stop → Prop
  | failed {e e' : Error} (h : errors e e') : StopsAlike errors (.failed e) (.failed e')
  | waiting : StopsAlike errors .waiting .waiting

/-- Readers with sources that are alike. -/
structure Reader.Alike (readers : ρ → ρ' → Prop) (r : Reader ρ) (r' : Reader ρ') : Prop where
  source : readers r.source r'.source
  owes : r.owes = r'.owes

/-- Sources of pages that are alike: pagers of the services, or the same page. -/
inductive PageSource.Alike (pagers : π → π' → Prop) : PageSource π → PageSource π' → Prop
  | service {p : π} {p' : π'} (h : pagers p p') : Alike pagers (.service p) (.service p')
  | ready (page : Page) : Alike pagers (.ready page) (.ready page)

/-- Pagers with sources that are alike, and otherwise the same. -/
structure Pager.Alike (pagers : π → π' → Prop) (p : Pager π) (p' : Pager π') : Prop where
  source : p.source.Alike pagers p'.source
  path : p.path = p'.path
  listed : p.listed = p'.listed
  marks : p.marks = p'.marks
  owes : p.owes = p'.owes

/-- Replies with handles that are alike, and otherwise the same. -/
def Reply.Alike (readers : ρ → ρ' → Prop) (pagers : π → π' → Prop) :
    (action : Action) → Reply ρ π action → Reply ρ' π' action → Prop
  | .create _, reply, reply' => reply = reply'
  | .read _, reply, reply' => reply.1 = reply'.1 ∧ readers reply.2 reply'.2
  | .write _ _, reply, reply' => reply = reply'
  | .stat, reply, reply' => reply = reply'
  | .delete, reply, reply' => reply = reply'
  | .list, reply, reply' => pagers reply reply'

/-- Worlds with services that are in states that are alike, and with the same free permits. -/
structure World.Alike (states : σ → σ' → Prop) (w : World σ) (w' : World σ') : Prop where
  service : states w.service w'.service
  permits : w.permits = w'.permits

/-- Operations that end alike in worlds that are alike. -/
def Run.Alike {α α' : Type} (errors : Error → Error → Prop) (values : α → α' → Prop)
    (states : σ → σ' → Prop) (x : Run σ α) (x' : Run σ' α') : Prop :=
  ∀ w w', World.Alike states w w' →
    ResultsAlike (StopsAlike errors) values (x w).1 (x' w').1
      ∧ World.Alike states (x w).2 (x' w').2

/-- A likeness of errors that layers do not break, if calls are made in the form `f` on the one
side and in the form `g` on the other. -/
structure KeptByLayers (errors : Error → Error → Prop) (f g : Form) : Prop where
  isTemporary {e e' : Error} (h : errors e e') : e.isTemporary = e'.isTemporary
  exhausted {e e' : Error} (h : errors e e') (retries : Nat) :
    errors (e.exhausted retries) (e'.exhausted retries)
  callError {e e' : Error} (h : errors e e') (scheme : Scheme) (path : String) (action : Action) :
    errors (Layer.callError scheme f path action e) (Layer.callError scheme g path action e')
  pullError {e e' : Error} (h : errors e e') (scheme : Scheme) (path : String) :
    errors (Pager.pullError scheme f path e) (Pager.pullError scheme g path e')

/-- Services that are alike, the one called in the form `f` and the other in the form `g`. -/
structure Service.Alike (service : Service σ ρ π) (service' : Service σ' ρ' π') (f g : Form)
    (errors : Error → Error → Prop) (states : σ → σ' → Prop) (readers : ρ → ρ' → Prop)
    (pagers : π → π' → Prop) : Prop where
  info : service.info = service'.info
  call (path : String) (action : Action) {s : σ} {s' : σ'} (h : states s s') :
    ResultsAlike errors (Reply.Alike readers pagers action) (service.call f path action s).1
        (service'.call g path action s').1
      ∧ states (service.call f path action s).2 (service'.call g path action s').2
  pull {p : π} {p' : π'} (hp : pagers p p') {s : σ} {s' : σ'} (h : states s s') :
    ResultsAlike errors Eq (service.pull f p s).1 (service'.pull g p' s').1
      ∧ pagers (service.pull f p s).2.1 (service'.pull g p' s').2.1
      ∧ states (service.pull f p s).2.2 (service'.pull g p' s').2.2

/-- A layer makes the same of calls in two forms, unless it is a limit: that needs the same form on
both sides, and its own errors have to be alike to themselves. -/
def Layer.Ignores (layer : Layer) (errors : Error → Error → Prop) (f g : Form) : Prop :=
  ∀ n, layer = .limit n → f = g ∧ ∀ e, errors e e

variable {f g : Form} {errors : Error → Error → Prop}

theorem ResultsAlike.refl {ε α : Type} {stops : ε → ε → Prop} {values : α → α → Prop}
    (hstops : ∀ e, stops e e) (hvalues : ∀ a, values a a) (result : Except ε α) :
    ResultsAlike stops values result result := by
  cases result with
  | ok a => exact .ok (hvalues a)
  | error e => exact .error (hstops e)

theorem ResultsAlike.mapError {ε ε' δ δ' α α' : Type} {stops : ε → ε' → Prop}
    {stops' : δ → δ' → Prop} {values : α → α' → Prop} {result : Except ε α}
    {result' : Except ε' α'} (h : ResultsAlike stops values result result') {i : ε → δ}
    {j : ε' → δ'} (hij : ∀ e e', stops e e' → stops' (i e) (j e')) :
    ResultsAlike stops' values (result.mapError i) (result'.mapError j) := by
  cases h with
  | ok h => exact .ok h
  | error h => exact .error (hij _ _ h)

theorem ResultsAlike.map {ε ε' α α' β β' : Type} {stops : ε → ε' → Prop} {values : α → α' → Prop}
    {values' : β → β' → Prop} {result : Except ε α} {result' : Except ε' α'}
    (h : ResultsAlike stops values result result') {i : α → β} {j : α' → β'}
    (hij : ∀ a a', values a a' → values' (i a) (j a')) :
    ResultsAlike stops values' (result.map i) (result'.map j) := by
  cases h with
  | ok h => exact .ok (hij _ _ h)
  | error h => exact .error h

theorem StopsAlike.refl (s : Stop) : StopsAlike Eq s s := by
  cases s with
  | failed e => exact .failed rfl
  | waiting => exact .waiting

theorem StopsAlike.map {errors' : Error → Error → Prop} {s s' : Stop} (h : StopsAlike errors s s')
    {i j : Error → Error} (hij : ∀ e e', errors e e' → errors' (i e) (j e')) :
    StopsAlike errors' (s.map i) (s'.map j) := by
  cases h with
  | failed h => exact .failed (hij _ _ h)
  | waiting => exact .waiting

/-- Replies stay alike if their handles do. -/
theorem Reply.Alike.map {readers : ρ → ρ' → Prop} {pagers : π → π' → Prop} {χ χ' ψ ψ' : Type}
    {readers' : χ → χ' → Prop} {pagers' : ψ → ψ' → Prop} {action : Action}
    {reply : Reply ρ π action} {reply' : Reply ρ' π' action}
    (h : Reply.Alike readers pagers action reply reply') {i : ρ → χ} {i' : ρ' → χ'} {j : π → ψ}
    {j' : π' → ψ'} (hi : ∀ r r', readers r r' → readers' (i r) (i' r'))
    (hj : ∀ p p', pagers p p' → pagers' (j p) (j' p')) :
    Reply.Alike readers' pagers' action (Reply.map i j action reply)
      (Reply.map i' j' action reply') := by
  cases action with
  | read range => exact ⟨h.1, hi _ _ h.2⟩
  | list => exact hj _ _ h
  | create mode | write length data | stat | delete => exact h

theorem forall₂_getElem? {α β : Type} {R : α → β → Prop} {l : List α} {l' : List β}
    (h : List.Forall₂ R l l') (i : Nat) : Option.Rel R l[i]? l'[i]? := by
  induction h generalizing i with
  | nil => exact .none
  | cons hfirst hrest ih =>
    cases i with
    | zero => exact .some hfirst
    | succ i => exact ih i

theorem forall₂_set {α β : Type} {R : α → β → Prop} {l : List α} {l' : List β}
    (h : List.Forall₂ R l l') (i : Nat) {a : α} {b : β} (hab : R a b) :
    List.Forall₂ R (l.set i a) (l'.set i b) := by
  induction h generalizing i with
  | nil => exact .nil
  | cons hfirst hrest ih =>
    cases i with
    | zero => exact .cons hab hrest
    | succ i => exact .cons hfirst (ih i)

/-- Replies are alike to themselves if their handles are. -/
theorem Reply.Alike.refl {readers : ρ → ρ → Prop} {pagers : π → π → Prop}
    (hreaders : ∀ r, readers r r) (hpagers : ∀ p, pagers p p) (action : Action)
    (reply : Reply ρ π action) : Reply.Alike readers pagers action reply reply := by
  cases action with
  | read range => exact ⟨rfl, hreaders _⟩
  | list => exact hpagers _
  | create mode | write length data | stat | delete => rfl

/-- A service is like itself. -/
theorem Service.Alike.refl (service : Service σ ρ π) (form : Form) :
    service.Alike service form form Eq Eq Eq Eq where
  info := rfl
  call path action _ _ h := by
    subst h
    exact ⟨.refl (fun _ => rfl) (Reply.Alike.refl (fun _ => rfl) (fun _ => rfl) action) _, rfl⟩
  pull {p p'} hp {s s'} h := by
    subst hp h
    exact ⟨.refl (fun _ => rfl) (fun _ => rfl) _, rfl, rfl⟩

/-! ### Operations that are alike -/

namespace Run.Alike

variable {α α' β β' : Type} {errors : Error → Error → Prop} {values : α → α' → Prop}
  {values' : β → β' → Prop} {states : σ → σ' → Prop}

theorem pure {a : α} {a' : α'} (h : values a a') :
    Run.Alike errors values states (pure a : Run σ α) (pure a' : Run σ' α') :=
  fun _ _ hw => ⟨.ok h, hw⟩

theorem fail {e e' : Error} (h : errors e e') :
    Run.Alike errors values states (.fail e : Run σ α) (.fail e' : Run σ' α') :=
  fun _ _ hw => ⟨.error (.failed h), hw⟩

theorem bind {x : Run σ α} {x' : Run σ' α'} (hx : Run.Alike errors values states x x')
    {k : α → Run σ β} {k' : α' → Run σ' β'}
    (hk : ∀ a a', values a a' → Run.Alike errors values' states (k a) (k' a')) :
    Run.Alike errors values' states (x >>= k) (x' >>= k') := by
  intro w w' hw
  obtain ⟨hresult, hnext⟩ := hx w w' hw
  rw [bind_apply, bind_apply]
  generalize x w = ended at hresult hnext ⊢
  generalize x' w' = ended' at hresult hnext ⊢
  obtain ⟨result, v⟩ := ended
  obtain ⟨result', v'⟩ := ended'
  dsimp only at hresult
  cases hresult with
  | ok h => exact hk _ _ h v v' hnext
  | error h => exact ⟨.error h, hnext⟩

theorem attempt {x : Run σ α} {x' : Run σ' α'} (hx : Run.Alike errors values states x x') :
    Run.Alike errors (ResultsAlike errors values) states x.attempt x'.attempt := by
  intro w w' hw
  obtain ⟨hresult, hnext⟩ := hx w w' hw
  rw [Run.attempt, Run.attempt]
  generalize x w = ended at hresult hnext ⊢
  generalize x' w' = ended' at hresult hnext ⊢
  obtain ⟨result, v⟩ := ended
  obtain ⟨result', v'⟩ := ended'
  dsimp only at hresult
  cases hresult with
  | ok h => exact ⟨.ok (.ok h), hnext⟩
  | error h =>
    cases h with
    | failed h => exact ⟨.ok (.error h), hnext⟩
    | waiting => exact ⟨.error .waiting, hnext⟩

end Run.Alike

/-! ### Trying again -/

section

variable {α α' : Type} {values : α → α' → Prop} {states : σ → σ' → Prop} {x : Run σ α}
  {x' : Run σ' α'}

/-- The last attempts of operations that are alike begin in worlds that are alike.  By induction on
the retries that are left; both sides try again together, since only errors for now are alike to
errors for now. -/
theorem Retry.lastTry_alike (herrors : KeptByLayers errors f g)
    (hx : Run.Alike errors values states x x') (b : Backoff) (operation operation' : Operation)
    (path : String) (left : Nat) {w : World σ} {w' : World σ'} (hw : World.Alike states w w') :
    World.Alike states (lastTry b operation path x left w)
      (lastTry b operation' path x' left w') := by
  induction left generalizing w w' with
  | zero => exact hw
  | succ left ih =>
    obtain ⟨hresult, hnext⟩ := hx w w' hw
    rw [lastTry, lastTry]
    generalize x w = ended at hresult hnext ⊢
    generalize x' w' = ended' at hresult hnext ⊢
    obtain ⟨result, v⟩ := ended
    obtain ⟨result', v'⟩ := ended'
    dsimp only at hresult hnext
    cases hresult with
    | ok _ => exact hw
    | error hstop =>
      cases hstop with
      | waiting => exact hw
      | failed he =>
        dsimp only
        rw [herrors.isTemporary he]
        split
        · exact ih ⟨hnext.service, hnext.permits⟩
        · exact hw

theorem Retry.conclude_alike (herrors : KeptByLayers errors f g) (b : Backoff) {e e' : Error}
    (h : errors e e') : errors (conclude b e) (conclude b e') := by
  rw [conclude, conclude, herrors.isTemporary h]
  split
  · exact herrors.exhausted h b.maxTimes
  · exact h

end

/-! ### Calls -/

/-- Likenesses of readers and of pagers that layers do not break by what they do to handles. -/
structure HandlesKept (readers : Reader ρ → Reader ρ' → Prop)
    (pagers : Pager π → Pager π' → Prop) : Prop where
  ready (page : Page) (path : String) :
    pagers { source := .ready page, path } { source := .ready page, path }
  mark {p : Pager π} {p' : Pager π'} (h : pagers p p') (m : PagerMark) :
    pagers (p.mark m) (p'.mark m)
  oweReader {r : Reader ρ} {r' : Reader ρ'} (h : readers r r') (n : Nat) :
    readers (r.owe n) (r'.owe n)
  owePager {p : Pager π} {p' : Pager π'} (h : pagers p p') (n : Nat) :
    pagers (p.owe n) (p'.owe n)

/-- Handles with sources that are alike stay so. -/
theorem handlesKept_alike (readers : ρ → ρ' → Prop) (pagers : π → π' → Prop) :
    HandlesKept (Reader.Alike readers) (Pager.Alike pagers) where
  ready page _ := ⟨.ready page, rfl, rfl, rfl, rfl⟩
  mark h m := ⟨h.source, h.path, h.listed, congrArg (m :: ·) h.marks, h.owes⟩
  oweReader h n := ⟨h.source, congrArg (n :: ·) h.owes⟩
  owePager h n := ⟨h.source, h.path, h.listed, h.marks, congrArg (n :: ·) h.owes⟩

namespace Layer

variable {states : σ → σ' → Prop} {readers : Reader ρ → Reader ρ' → Prop}
  {pagers : Pager π → Pager π' → Prop} {info : ServiceInfo} {path : String} {action : Action}
  {layer : Layer}

/-- Replies through layers that are alike. -/
abbrev RepliesAlike (readers : ρ → ρ' → Prop) (pagers : π → π' → Prop) (action : Action) :
    Reply (Reader ρ) (Pager π) action → Reply (Reader ρ') (Pager π') action → Prop :=
  Reply.Alike (Reader.Alike readers) (Pager.Alike pagers) action

theorem enter_alike (info : ServiceInfo) (path : String) (herrors : KeptByLayers errors f g)
    (hhandles : HandlesKept readers pagers) (hlayer : layer.Ignores errors f g)
    {inner : Run σ (Reply (Reader ρ) (Pager π) action)}
    {inner' : Run σ' (Reply (Reader ρ') (Pager π') action)}
    (hinner : Run.Alike errors (Reply.Alike readers pagers action) states inner inner')
    {w : World σ} {w' : World σ'} (hw : World.Alike states w w') :
    Sum.LiftRel (World.Alike states)
      (ResultsAlike (StopsAlike errors) (Reply.Alike readers pagers action))
      (enter info f path action inner layer w) (enter info g path action inner' layer w') := by
  cases layer with
  | context | metrics => exact .inl hw
  | logging => exact .inl ⟨hw.service, hw.permits⟩
  | retry b => exact .inl (Retry.lastTry_alike herrors hinner b _ _ path b.maxTimes hw)
  | index paths =>
    cases action with
    | list => exact .inr (.ok (hhandles.ready _ path))
    | create mode | read range | write length data | stat | delete => exact .inl hw
  | limit n =>
    -- the same form on both sides: if no permit is free, either both calls wait or both fail
    obtain ⟨rfl, hrefl⟩ := hlayer n rfl
    rw [enter, enter]
    by_cases hfree : Permits.free w.permits n = 0
    · rw [Limit.acquire_of_none hfree, Limit.acquire_of_none (hw.permits ▸ hfree)]
      refine .inr (.error ?_)
      split
      · exact .failed (hrefl _)
      · exact .waiting
    · rw [Limit.acquire_of_free hfree, Limit.acquire_of_free (hw.permits ▸ hfree)]
      refine .inl ⟨hw.service, ?_⟩
      rw [hw.permits]

theorem passed_alike (herrors : KeptByLayers errors f g) (layer : Layer) {e e' : Error}
    (h : errors e e') :
    errors (passed info f path action layer e) (passed info g path action layer e') := by
  cases layer with
  | context => exact herrors.callError h info.scheme path action
  | retry b => exact Retry.conclude_alike herrors b h
  | limit n | index paths | logging | metrics => exact h

theorem dressed_alike (hhandles : HandlesKept readers pagers) (layer : Layer)
    {reply : Reply (Reader ρ) (Pager π) action} {reply' : Reply (Reader ρ') (Pager π') action}
    (h : Reply.Alike readers pagers action reply reply') :
    Reply.Alike readers pagers action (dressed action layer reply)
      (dressed action layer reply') := by
  cases layer with
  | context => exact h.map (fun _ _ h => h) fun _ _ h => hhandles.mark h .context
  | retry b => exact h.map (fun _ _ h => h) fun _ _ h => hhandles.mark h (.retry b)
  | logging => exact h.map (fun _ _ h => h) fun _ _ h => hhandles.mark h .logged
  | limit n => exact h.map (fun _ _ h => hhandles.oweReader h n) fun _ _ h => hhandles.owePager h n
  | index paths | metrics => exact h

/-- To note something down keeps worlds alike. -/
theorem noted_alike (layer : Layer) {result : Except Stop (Reply (Reader ρ) (Pager π) action)}
    {result' : Except Stop (Reply (Reader ρ') (Pager π') action)}
    (hresult : ResultsAlike (StopsAlike errors) (Reply.Alike readers pagers action) result result')
    {w : World σ} {w' : World σ'} (hw : World.Alike states w w') :
    World.Alike states (noted info f path action layer result w)
      (noted info g path action layer result' w') := by
  refine ⟨by rw [service_noted, service_noted]; exact hw.service, ?_⟩
  cases hresult with
  | error h =>
    cases layer with
    | limit n => exact congrArg (Permits.giveBack · n) hw.permits
    | logging | metrics => cases h <;> exact hw.permits
    | context | retry b | index paths => exact hw.permits
  | ok _ =>
    cases layer with
    | limit n =>
      cases action with
      | read range | list => exact hw.permits
      | create mode | write length data | stat | delete =>
        exact congrArg (Permits.giveBack · n) hw.permits
    | context | retry b | index paths | logging | metrics => exact hw.permits

/-- **A layer keeps calls alike.** -/
theorem around_alike (herrors : KeptByLayers errors f g) (hhandles : HandlesKept readers pagers)
    (hlayer : layer.Ignores errors f g) {inner : Run σ (Reply (Reader ρ) (Pager π) action)}
    {inner' : Run σ' (Reply (Reader ρ') (Pager π') action)}
    (hinner : Run.Alike errors (Reply.Alike readers pagers action) states inner inner') :
    Run.Alike errors (Reply.Alike readers pagers action) states
      (layer.around info f path action inner) (layer.around info g path action inner') := by
  intro w w' hw
  have henter := enter_alike info path herrors hhandles hlayer hinner hw
  rw [around_eq, around_eq]
  generalize enter info f path action inner layer w = entered at henter ⊢
  generalize enter info g path action inner' layer w' = entered' at henter ⊢
  cases henter with
  | inl hv =>
    obtain ⟨hresult, hnext⟩ := hinner _ _ hv
    refine ⟨?_, noted_alike layer hresult hnext⟩
    exact (hresult.map fun _ _ => dressed_alike hhandles layer).mapError
      fun _ _ h => h.map fun _ _ => passed_alike herrors layer
  | inr hanswer => exact ⟨hanswer, hw⟩

end Layer

namespace Stack

variable {states : σ → σ' → Prop} {readers : ρ → ρ' → Prop} {pagers : π → π' → Prop}
  {service : Service σ ρ π} {service' : Service σ' ρ' π'}

/-- **Calls through layers are alike** if the services are, by induction on the layers. -/
theorem call_alike (herrors : KeptByLayers errors f g)
    (hservice : service.Alike service' f g errors states readers pagers) (layers : List Layer)
    (hlayers : ∀ layer ∈ layers, layer.Ignores errors f g) (path : String) (action : Action) :
    Run.Alike errors (Layer.RepliesAlike readers pagers action) states
      (call service layers f path action) (call service' layers g path action) := by
  induction layers with
  | nil =>
    intro w w' hw
    obtain ⟨hresult, hstates⟩ := hservice.call path action hw.service
    rw [call_nil, call_nil, base_eq, base_eq]
    refine ⟨?_, hstates, hw.permits⟩
    exact (hresult.map fun _ _ h => h.map (fun _ _ h => ⟨h, rfl⟩)
      fun _ _ h => ⟨.service h, rfl, rfl, rfl, rfl⟩).mapError fun _ _ => .failed
  | cons layer layers ih =>
    rw [call_cons, call_cons, ← hservice.info]
    exact Layer.around_alike herrors (handlesKept_alike readers pagers)
      (hlayers layer List.mem_cons_self)
      (ih fun layer hmem => hlayers layer (List.mem_cons_of_mem _ hmem))

end Stack

/-! ### Pulls -/

namespace Pager

variable {states : σ → σ' → Prop} {pagers : π → π' → Prop}
  {service : Service σ ρ π} {service' : Service σ' ρ' π'} {readers : ρ → ρ' → Prop}

/-- States of a service and what pulling changes in a pager, if both are alike. -/
def ProgressAlike (states : σ → σ' → Prop) (pagers : π → π' → Prop) (s : σ × Progress π)
    (s' : σ' × Progress π') : Prop :=
  states s.1 s'.1 ∧ s.2.1.Alike pagers s'.2.1 ∧ s.2.2 = s'.2.2

theorem pullSource_alike (hservice : service.Alike service' f g errors states readers pagers) :
    Run.Alike errors Eq (ProgressAlike states pagers) (pullSource service f)
      (pullSource service' g) := by
  rintro ⟨⟨s, source, listed⟩, permits, events, samples, printed⟩
    ⟨⟨s', source', listed'⟩, permits', events', samples', printed'⟩ ⟨⟨hs, hsource, hlisted⟩, hw⟩
  dsimp only at hs hsource hlisted hw
  cases hsource with
  | ready page =>
    subst hlisted hw
    exact ⟨.ok rfl, ⟨hs, .ready none, rfl⟩, rfl⟩
  | @service p p' hp =>
    obtain ⟨hresult, hpager, hstates⟩ := hservice.pull hp hs
    subst hlisted hw
    rcases hpull : service.pull f p s with ⟨result, q, t⟩
    rcases hpull' : service'.pull g p' s' with ⟨result', q', t'⟩
    rw [hpull, hpull'] at hresult hpager hstates
    simp only [pullSource, Run.onService, hpull, hpull']
    dsimp only at hresult
    cases hresult with
    | ok h =>
      subst h
      exact ⟨.ok rfl, ⟨hstates, .service hpager, rfl⟩, rfl⟩
    | error h => exact ⟨.error (.failed h), ⟨hstates, .service hpager, rfl⟩, rfl⟩

theorem PagerMark.around_alike {progress : σ × Progress π → σ' × Progress π' → Prop}
    (herrors : KeptByLayers errors f g) (info : ServiceInfo) (path : String) (m : PagerMark)
    {inner : Run (σ × Progress π) Page} {inner' : Run (σ' × Progress π') Page}
    (hinner : Run.Alike errors Eq progress inner inner') :
    Run.Alike errors Eq progress (PagerMark.around info f path inner m)
      (PagerMark.around info g path inner' m) := by
  intro w w' hw
  have henter : World.Alike progress (enter f path inner m w) (enter g path inner' m w') := by
    cases m with
    | context | logged => exact hw
    | retry b => exact Retry.lastTry_alike herrors hinner b _ _ path b.maxTimes hw
  have hpassed {e e' : Error} (h : errors e e') :
      errors (passed info f path m e) (passed info g path m e') := by
    cases m with
    | context => exact herrors.pullError h info.scheme path
    | logged => exact h
    | retry b => exact Retry.conclude_alike herrors b h
  obtain ⟨hresult, hnext⟩ := hinner _ _ henter
  rw [around_eq, around_eq]
  refine ⟨hresult.mapError fun _ _ h => h.map fun _ _ => hpassed, ?_, ?_⟩
  · rw [service_noted, service_noted]
    exact hnext.service
  · rw [permits_noted, permits_noted]
    exact hnext.permits

theorem pullThrough_alike (herrors : KeptByLayers errors f g)
    (hservice : service.Alike service' f g errors states readers pagers) (path : String)
    (marks : List PagerMark) :
    Run.Alike errors Eq (ProgressAlike states pagers) (pullThrough service f path marks)
      (pullThrough service' g path marks) := by
  induction marks with
  | nil => exact pullSource_alike hservice
  | cons m marks ih =>
    rw [pullThrough_cons, pullThrough_cons, ← hservice.info]
    exact PagerMark.around_alike herrors service.info path m ih

/-- **Pulls from pagers that are alike** give the same pages or errors that are alike, and leave
pagers that are alike. -/
theorem pull_alike (herrors : KeptByLayers errors f g)
    (hservice : service.Alike service' f g errors states readers pagers) {p : Pager π}
    {p' : Pager π'} (hp : p.Alike pagers p') {w : World σ} {w' : World σ'}
    (hw : World.Alike states w w') :
    ResultsAlike (StopsAlike errors) Eq (p.pull service f w).1 (p'.pull service' g w').1
      ∧ (p.pull service f w).2.1.Alike pagers (p'.pull service' g w').2.1
      ∧ World.Alike states (p.pull service f w).2.2 (p'.pull service' g w').2.2 := by
  obtain ⟨source, path, listed, marks, owes⟩ := p
  obtain ⟨source', path', listed', marks', owes'⟩ := p'
  obtain ⟨hsource, rfl, rfl, rfl, rfl⟩ := hp
  have hworld : World.Alike (ProgressAlike states pagers)
      (pullWorld ⟨source, path, listed, marks, owes⟩ w)
      (pullWorld ⟨source', path, listed, marks, owes⟩ w') :=
    ⟨⟨hw.service, hsource, rfl⟩, hw.permits⟩
  obtain ⟨hresult, ⟨hstates, hsource, hlisted⟩, hpermits⟩ :=
    pullThrough_alike herrors hservice path marks _ _ hworld
  rw [pull_eq, pull_eq]
  exact ⟨hresult, ⟨hsource, rfl, hlisted, rfl, rfl⟩, hstates, hpermits⟩

end Pager

end ObjectStorage
