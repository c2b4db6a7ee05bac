import ObjectStorage.Proofs.Layer.Ledger

/-!
# A journal between layers

To tell what passes some place in a stack of layers, a journal is kept there: of each call that
gets to the place it says which operation it was and how it ended.  The journal stands beside the
state of the service, where neither the service nor a layer sees it, so that with it calls end as
they do without, and leave the same world behind.

* `Visit`, `Run.journaled` — what is written in the journal, and an operation of which it is;
* `Stack.journaledCall`, `Stack.journaledInfo` — a stack with a journal between its layers;
* `Run.Journals`, `Stack.journals_call`, `Stack.journals_info` — a journal changes nothing;
* `Stack.callVisits`, `Stack.infoVisits` — what one call, and one question, writes in it;
* `Stack.journal_call`, `Stack.journal_info` — nothing else is written in it.
-/

namespace ObjectStorage

variable {σ ρ π τ α : Type}

/-! ### Journals -/

/-- How an operation ended, without its value. -/
def endingOf (result : Except Stop α) : Except Stop Unit := result.map fun _ => ()

/-- One time that a call gets to a place between layers, and how it ended there. -/
structure Visit where
  operation : Operation
  ending : Except Stop Unit

/-- A service beside which a journal is kept, which it leaves alone. -/
def Service.journaled (service : Service σ ρ π) : Service (σ × List Visit) ρ π where
  info := service.info
  call form path action s :=
    let (answer, t) := service.call form path action s.1
    (answer, t, s.2)
  pull form p s :=
    let (answer, q, t) := service.pull form p s.1
    (answer, q, t, s.2)
  fill form n r s :=
    let (answer, q, t) := service.fill form n r s.1
    (answer, q, t, s.2)
  pagesLeft p s := service.pagesLeft p s.1
  readsLeft r s := service.readsLeft r s.1
  dirsAtMost s := service.dirsAtMost s.1
  asyncReadsOn := service.asyncReadsOn

/-- The world with an empty journal beside its service. -/
def World.journaled (w : World σ) : World (σ × List Visit) := w.withService (w.service, [])

/-- The world without the journal. -/
def World.unjournaled (w : World (σ × List Visit)) : World σ := w.withService w.service.1

/-- An operation that is written in the journal when it has ended. -/
def Run.journaled (operation : Operation) (x : Run (σ × List Visit) α) :
    Run (σ × List Visit) α := fun w =>
  let (result, w') := x w
  (result, w'.withService (w'.service.1, w'.service.2 ++ [⟨operation, endingOf result⟩]))

namespace Stack

variable (service : Service σ ρ π) (above inside : List Layer)

/-- A call through layers with a journal between the outer ones and the inner ones. -/
def journaledCall (form : Form) (path : String) (action : Action) :
    Run (σ × List Visit) (Reply (Reader ρ) (Pager π) action) :=
  above.foldr (fun layer call => layer.around service.info form path action call)
    ((call service.journaled inside form path action).journaled (action.operation form))

/-- The question what a service is, with a journal between the outer layers and the inner ones. -/
def journaledInfo : Run (σ × List Visit) ServiceInfo :=
  above.foldr (fun layer ask => layer.aroundInfo service.info ask)
    ((info service.journaled inside).journaled .metadata)

/-- What a call writes in the journal between the layers. -/
def callVisits (form : Form) (path : String) (action : Action) (w : World σ) : List Visit :=
  (journaledCall service above inside form path action w.journaled).2.service.2

/-- What the question what a service is writes in the journal between the layers. -/
def infoVisits (w : World σ) : List Visit :=
  (journaledInfo service above inside w.journaled).2.service.2

end Stack

/-! ### A journal changes nothing -/

/-- The first operation does what the second one does, and keeps a journal beside. -/
def Run.Journals (x' : Run (σ × List Visit) α) (x : Run σ α) : Prop :=
  ∀ w, x w.unjournaled = ((x' w).1, (x' w).2.unjournaled)

theorem Run.Journals.journaled {x' : Run (σ × List Visit) α} {x : Run σ α} (h : x'.Journals x)
    (operation : Operation) : (x'.journaled operation).Journals x := h

theorem Run.Journals.lastTry {x' : Run (σ × List Visit) α} {x : Run σ α} (h : x'.Journals x)
    (b : Backoff) (operation : Operation) (path : String) (left : Nat)
    (w : World (σ × List Visit)) :
    Retry.lastTry b operation path x left w.unjournaled
      = (Retry.lastTry b operation path x' left w).unjournaled := by
  induction left generalizing w with
  | zero => rfl
  | succ left ih =>
    rw [Retry.lastTry, Retry.lastTry, h w]
    rcases x' w with ⟨(e | _) | a, w'⟩
    · dsimp only
      split
      · exact ih { w' with events := w'.events ++ [.retrying operation path (b.maxTimes - left)
          (b.delay (b.maxTimes - left)) e] }
      · rfl
    · rfl
    · rfl

namespace Layer

section

variable {info : ServiceInfo} {form : Form} {path : String} {action : Action}
  {inner' : Run (σ × List Visit) (Reply (Reader ρ) (Pager π) action)}
  {inner : Run σ (Reply (Reader ρ) (Pager π) action)}

theorem enter_unjournaled (h : inner'.Journals inner) (layer : Layer)
    (w : World (σ × List Visit)) :
    enter info form path action inner layer w.unjournaled
      = (enter info form path action inner' layer w).map World.unjournaled id := by
  cases layer with
  | context | metrics | logging => rfl
  | retry b => exact congrArg Sum.inl (h.lastTry b _ path b.maxTimes w)
  | limit n =>
    dsimp only [enter]
    by_cases hfree : Permits.free w.permits n = 0
    · rw [Limit.acquire_of_none hfree, Limit.acquire_of_none (w := w.unjournaled) hfree]
      rfl
    · rw [Limit.acquire_of_free hfree, Limit.acquire_of_free (w := w.unjournaled) hfree]
      rfl
  | index paths => cases action <;> rfl

theorem noted_unjournaled (layer : Layer)
    (result : Except Stop (Reply (Reader ρ) (Pager π) action)) (w : World (σ × List Visit)) :
    noted info form path action layer result w.unjournaled
      = (noted info form path action layer result w).unjournaled := by
  cases layer with
  | context | retry b | index paths => rfl
  | limit n =>
    rcases result with stop | reply
    · rfl
    · cases action <;> rfl
  | logging | metrics => rcases result with (e | _) | reply <;> rfl

/-- A call through a layer does the same if inside a journal is kept. -/
theorem journals_around (h : inner'.Journals inner) (layer : Layer) :
    (layer.around info form path action inner').Journals
      (layer.around info form path action inner) := by
  intro w
  rw [around_eq, around_eq, enter_unjournaled h]
  cases enter info form path action inner' layer w with
  | inr answer => rfl
  | inl v =>
    rw [Sum.map_inl]
    dsimp only
    rw [h v, noted_unjournaled]

end

/-- The question what a service is, through a layer, does the same if inside a journal is kept. -/
theorem journals_aroundInfo {ask' : Run (σ × List Visit) ServiceInfo} {ask : Run σ ServiceInfo}
    (h : ask'.Journals ask) (info : ServiceInfo) (layer : Layer) :
    (layer.aroundInfo info ask').Journals (layer.aroundInfo info ask) := by
  intro w
  cases layer with
  | context | retry b | limit n => exact h w
  | logging =>
    exact h { w with events := w.events ++ [.metadataAsked info.scheme] }
  | index paths | metrics =>
    rw [aroundInfo, aroundInfo, Run.bind_apply, Run.bind_apply, h w]
    rcases ask' w with ⟨stop | told, w'⟩ <;> rfl

end Layer

namespace Stack

variable (service : Service σ ρ π) (above inside : List Layer)

/-- A service beside which a journal is kept does what it does without, through any layers. -/
theorem journals_inside (form : Form) (path : String) (action : Action) :
    (call service.journaled inside form path action).Journals
      (call service inside form path action) := by
  induction inside with
  | nil =>
    intro w
    rw [call_nil, call_nil, base_eq, base_eq]
    rfl
  | cons layer inside ih => exact Layer.journals_around ih layer

/-- **A journal between layers changes no call**: it ends in the same way, in the same world.  By
induction on the layers above the journal. -/
theorem journals_call (form : Form) (path : String) (action : Action) :
    (journaledCall service above inside form path action).Journals
      (call service (above ++ inside) form path action) := by
  induction above with
  | nil => exact (journals_inside service inside form path action).journaled _
  | cons layer above ih => exact Layer.journals_around ih layer

/-- **A journal between layers does not change what a service is.** -/
theorem journals_info :
    (journaledInfo service above inside).Journals (info service (above ++ inside)) := by
  have hinside : (info service.journaled inside).Journals (info service inside) := by
    induction inside with
    | nil => exact fun w => rfl
    | cons layer inside ih => exact Layer.journals_aroundInfo ih service.info layer
  induction above with
  | nil => exact hinside.journaled .metadata
  | cons layer above ih => exact Layer.journals_aroundInfo ih service.info layer

end Stack

/-! ### What calls leave alone -/

namespace Layer

variable {info : ServiceInfo} {form : Form} {path : String} {action : Action}

/-- What the call inside keeps of the service, a call through a layer keeps. -/
theorem around_keeps {P : τ → Prop} {inner : Run τ (Reply (Reader ρ) (Pager π) action)}
    (hinner : ∀ w, P w.service → P (inner w).2.service) (layer : Layer) {w : World τ}
    (hw : P w.service) : P (layer.around info form path action inner w).2.service := by
  have hledger : Ledger fun w w' : World τ => P w.service → P w'.service :=
    { trans := fun h h' hw => h' (h hw)
      permits := fun _ _ => id
      retrying := fun _ _ _ _ _ _ => id }
  have hnoted : ∀ (result : Except Stop (Reply (Reader ρ) (Pager π) action)) (w : World τ),
      P w.service → P (noted info form path action layer result w).service := by
    intro result w hw
    rwa [service_noted]
  exact moves_around hledger (fun _ _ => id) hnoted hinner w hw

/-- Through a layer a service is asked once, and nothing else happens to it. -/
theorem aroundInfo_once {R : τ → τ → Prop} {ask : Run τ ServiceInfo}
    (hask : ∀ w, R w.service (ask w).2.service) (layer : Layer) (w : World τ) :
    R w.service (layer.aroundInfo info ask w).2.service := by
  cases layer with
  | context | retry b | limit n => exact hask w
  | logging => exact hask { w with events := w.events ++ [.metadataAsked info.scheme] }
  | index paths | metrics =>
    have honce := hask w
    rw [aroundInfo, Run.bind_apply]
    generalize ask w = ended at honce
    rcases ended with ⟨stop | told, w'⟩ <;> exact honce

end Layer

namespace Stack

variable (service : Service σ ρ π) (inside : List Layer)

/-- What a service does not touch stays as it is through any layers. -/
theorem journal_call (form : Form) (path : String) (action : Action)
    (w : World (σ × List Visit)) :
    (call service.journaled inside form path action w).2.service.2 = w.service.2 := by
  have hkeeps (v : World (σ × List Visit)) (hv : v.service.2 = w.service.2) :
      (call service.journaled inside form path action v).2.service.2 = w.service.2 := by
    induction inside generalizing v with
    | nil =>
      rw [call_nil, base_eq]
      exact hv
    | cons layer inside ih =>
      exact Layer.around_keeps (P := fun (s : σ × List Visit) => s.2 = w.service.2) ih layer hv
  exact hkeeps w rfl

theorem journal_info (w : World (σ × List Visit)) :
    (info service.journaled inside w).2.service.2 = w.service.2 := by
  induction inside generalizing w with
  | nil => rfl
  | cons layer inside ih =>
    exact Layer.aroundInfo_once (R := fun (s s' : σ × List Visit) => s'.2 = s.2) ih layer w

end Stack

end ObjectStorage
