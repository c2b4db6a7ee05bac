import ObjectStorage.Proofs.Layer.Alike

/-!
# A record of what reaches a service

To tell how often layers reach a service, and for what, the service keeps a record of it in its
state.  Nobody can tell it from the service without the record.

* `Contact`, `Service.recorded` — what reaches a service, and the service that keeps it on record;
* `Stack.call_recorded`, `Pager.pull_recorded` — the record changes neither calls nor pulls.
-/

namespace ObjectStorage

variable {σ σ' ρ ρ' π π' : Type}

/-- One time that a service is reached. -/
inductive Contact
  | call (form : Form) (path : String) (action : Action)
  | pull (form : Form)
  deriving DecidableEq, Repr

/-- A service that keeps on record, oldest first, what it is reached for. -/
def Service.recorded (service : Service σ ρ π) : Service (σ × List Contact) ρ π where
  info := service.info
  call form path action s :=
    let (answer, t) := service.call form path action s.1
    (answer, t, s.2 ++ [.call form path action])
  pull form p s :=
    let (answer, q, t) := service.pull form p s.1
    (answer, q, t, s.2 ++ [.pull form])
  fill form n r s :=
    let (answer, q, t) := service.fill form n r s.1
    (answer, q, t, s.2)
  pagesLeft p s := service.pagesLeft p s.1
  readsLeft r s := service.readsLeft r s.1
  dirsAtMost s := service.dirsAtMost s.1
  asyncReadsOn := service.asyncReadsOn

/-! ### The record is not seen -/

theorem StopsAlike.eq {s s' : Stop} (h : StopsAlike Eq s s') : s = s' := by
  cases h with
  | failed h => rw [h]
  | waiting => rfl

theorem Reader.Alike.eq {r r' : Reader ρ} (h : r.Alike Eq r') : r = r' := by
  obtain ⟨source, owes⟩ := r
  obtain ⟨source', owes'⟩ := r'
  obtain ⟨rfl, rfl⟩ := h
  rfl

theorem Pager.Alike.eq {p p' : Pager π} (h : p.Alike Eq p') : p = p' := by
  obtain ⟨source, path, listed, marks, owes⟩ := p
  obtain ⟨source', path', listed', marks', owes'⟩ := p'
  obtain ⟨hsource, rfl, rfl, rfl, rfl⟩ := h
  cases hsource with
  | service h => rw [h]
  | ready page => rfl

theorem Reply.Alike.eq {readers : ρ → ρ → Prop} {pagers : π → π → Prop} {action : Action}
    (hreaders : ∀ r r', readers r r' → r = r') (hpagers : ∀ p p', pagers p p' → p = p')
    {reply reply' : Reply ρ π action} (h : Reply.Alike readers pagers action reply reply') :
    reply = reply' := by
  cases action with
  | read range => exact Prod.ext h.1 (hreaders _ _ h.2)
  | list => exact hpagers _ _ h
  | create mode | write length data | stat | delete => exact h

theorem ResultsAlike.eq {ε α : Type} {errors : ε → ε → Prop} {values : α → α → Prop}
    (herrors : ∀ e e', errors e e' → e = e') (hvalues : ∀ a a', values a a' → a = a')
    {result result' : Except ε α} (h : ResultsAlike errors values result result') :
    result = result' := by
  cases h with
  | ok h => exact congrArg Except.ok (hvalues _ _ h)
  | error h => exact congrArg Except.error (herrors _ _ h)

/-- Layers do not tell equal errors apart. -/
theorem keptByLayers_eq (form : Form) : KeptByLayers Eq form form where
  isTemporary h := by rw [h]
  exhausted h _ := by rw [h]
  callError h _ _ _ := by rw [h]
  pullError h _ _ := by rw [h]

/-- A service is like itself with a record. -/
theorem Service.recorded_alike (service : Service σ ρ π) (form : Form) :
    service.recorded.Alike service form form Eq (fun s s' => s.1 = s') Eq Eq where
  info := rfl
  call path action s s' h := by
    subst h
    exact ⟨.refl (fun _ => rfl) (Reply.Alike.refl (fun _ => rfl) (fun _ => rfl) action) _, rfl⟩
  pull {p p'} hp {s s'} h := by
    subst hp h
    exact ⟨.refl (fun _ => rfl) (fun _ => rfl) _, rfl, rfl⟩

/-- What a record is kept beside: the world of the service without it. -/
def World.unrecorded (w : World (σ × List Contact)) : World σ := w.withService w.service.1

theorem World.alike_unrecorded (w : World (σ × List Contact)) :
    World.Alike (fun s s' => s.1 = s') w w.unrecorded := ⟨rfl, rfl⟩

/-- **A record does not change calls**: they end in the same way, with the service in the same state
and the same permits free. -/
theorem Stack.call_recorded (service : Service σ ρ π) (layers : List Layer) (form : Form)
    (path : String) (action : Action) (w : World (σ × List Contact)) :
    (call service.recorded layers form path action w).1
        = (call service layers form path action w.unrecorded).1
      ∧ (call service.recorded layers form path action w).2.service.1
        = (call service layers form path action w.unrecorded).2.service
      ∧ (call service.recorded layers form path action w).2.permits
        = (call service layers form path action w.unrecorded).2.permits := by
  obtain ⟨hresult, hworld⟩ := call_alike (keptByLayers_eq form) (service.recorded_alike form)
    layers (fun _ _ _ _ => ⟨rfl, fun _ => rfl⟩) path action w _ w.alike_unrecorded
  refine ⟨?_, hworld.service, hworld.permits⟩
  exact hresult.eq (fun _ _ => StopsAlike.eq)
    fun _ _ => Reply.Alike.eq (fun _ _ => Reader.Alike.eq) (fun _ _ => Pager.Alike.eq)

/-- **A record does not change pulls.** -/
theorem Pager.pull_recorded (service : Service σ ρ π) (form : Form) (p : Pager π)
    (w : World (σ × List Contact)) :
    (p.pull service.recorded form w).1 = (p.pull service form w.unrecorded).1
      ∧ (p.pull service.recorded form w).2.1 = (p.pull service form w.unrecorded).2.1
      ∧ (p.pull service.recorded form w).2.2.service.1
        = (p.pull service form w.unrecorded).2.2.service := by
  have hsource : p.source.Alike Eq p.source := by
    cases p.source with
    | service q => exact .service rfl
    | ready page => exact .ready page
  obtain ⟨hresult, hpager, hworld⟩ := pull_alike (keptByLayers_eq form)
    (service.recorded_alike form) ⟨hsource, rfl, rfl, rfl, rfl⟩ w.alike_unrecorded
  exact ⟨hresult.eq (fun _ _ => StopsAlike.eq) fun _ _ => id, hpager.eq, hworld.service⟩

end ObjectStorage
