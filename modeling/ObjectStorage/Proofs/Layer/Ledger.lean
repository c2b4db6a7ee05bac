import ObjectStorage.Proofs.Layer.Passage

/-!
# Relations that calls keep

A call through a layer changes the world by what the call inside does, by permits that it takes and
gives back, by logging that it tries again, and by what the layer itself notes down before and
after.  A relation between the worlds before and after that all of these keep is kept by the whole
call, and in the same way by the question what a service is and by the pulls of a pager.

* `Ledger` — relations that permits and retries keep, and `Run.Moves` — operations that keep one;
* `Ledger.lastTry` — the attempts before the last one;
* `Layer.moves_around`, `Layer.moves_aroundInfo` — a call and a question through a layer;
* `Pager.moves_pullThrough` — a pull through marks;
* `Accounting` — relations that see no more than the service and what was measured, which calls and
  questions keep wherever nothing is measured.
-/

namespace ObjectStorage

variable {σ ρ π τ α : Type}

/-- The world in which one more event was logged. -/
def World.noting (w : World σ) (e : Event) : World σ := { w with events := w.events ++ [e] }

/-- A relation between the worlds before and after that is kept by steps of all kinds of layers: by
taking and giving back permits, and by logging that something is tried again. -/
structure Ledger (R : World τ → World τ → Prop) : Prop where
  trans {w w' w'' : World τ} (h : R w w') (h' : R w' w'') : R w w''
  permits (w : World τ) (permits : List Nat) : R w { w with permits }
  retrying (w : World τ) (operation : Operation) (path : String) (attempt : Nat) (delay : UInt64)
    (e : Error) : R w (w.noting (.retrying operation path attempt delay e))

/-- However an operation ends, the worlds before and after are in relation. -/
def Run.Moves (R : World τ → World τ → Prop) (x : Run τ α) : Prop := ∀ w, R w (x w).2

variable {R : World τ → World τ → Prop}

theorem Ledger.refl (hR : Ledger R) (w : World τ) : R w w := hR.permits w w.permits

/-- The attempts before the last one keep a relation that each of them keeps. -/
theorem Ledger.lastTry (hR : Ledger R) {x : Run τ α} (hx : x.Moves R) (b : Backoff)
    (operation : Operation) (path : String) (left : Nat) (w : World τ) :
    R w (Retry.lastTry b operation path x left w) := by
  induction left generalizing w with
  | zero => exact hR.refl w
  | succ left ih =>
    have hfirst := hx w
    rw [Retry.lastTry]
    generalize x w = ended at hfirst
    rcases ended with ⟨(e | _) | a, w'⟩
    · dsimp only
      split
      · exact hR.trans (hR.trans hfirst (hR.retrying w' operation path _ _ e)) (ih _)
      · exact hR.refl w
    · exact hR.refl w
    · exact hR.refl w

namespace Layer

variable {info : ServiceInfo} {layer : Layer}

/-- **A call through a layer** keeps a relation that the call inside keeps, and what the layer
notes down. -/
theorem moves_around (hR : Ledger R) {form : Form} {path : String} {action : Action}
    (hstart : layer = .logging → ∀ w, R w (w.noting (startEvent info.scheme form path action)))
    (hnoted : ∀ result w, R w
      (noted info form path action layer (result : Except Stop (Reply (Reader ρ) (Pager π) action))
        w))
    {inner : Run τ (Reply (Reader ρ) (Pager π) action)} (hinner : inner.Moves R) :
    (layer.around info form path action inner).Moves R := by
  intro w
  have henter : ∀ v, enter info form path action inner layer w = .inl v → R w v := by
    intro v hv
    cases layer with
    | context | metrics =>
      cases hv
      exact hR.refl w
    | retry b =>
      cases hv
      exact hR.lastTry hinner b _ path _ w
    | limit n =>
      dsimp only [enter] at hv
      by_cases hfree : Permits.free w.permits n = 0
      · rw [Limit.acquire_of_none hfree] at hv
        cases hv
      · rw [Limit.acquire_of_free hfree] at hv
        cases hv
        exact hR.permits w _
    | index paths =>
      cases action with
      | list => cases hv
      | create mode | read range | write length data | stat | delete =>
        cases hv
        exact hR.refl w
    | logging =>
      cases hv
      exact hstart rfl w
  rw [around_eq]
  cases hv : enter info form path action inner layer w with
  | inl v => exact hR.trans (hR.trans (henter v hv) (hinner v)) (hnoted _ _)
  | inr answer => exact hR.refl w

/-- **The question what a service is**, through a layer. -/
theorem moves_aroundInfo (hR : Ledger R)
    (hasked : layer = .logging → ∀ w, R w (w.noting (.metadataAsked info.scheme)))
    (hmeasured : layer = .metrics → ∀ (w : World τ) sample,
      R w { w with samples := w.samples ++ [sample] })
    {ask : Run τ ServiceInfo} (hask : ask.Moves R) : (layer.aroundInfo info ask).Moves R := by
  intro w
  cases layer with
  | context | retry b | limit n => exact hask w
  | logging => exact hR.trans (hasked rfl w) (hask _)
  | index paths =>
    have hmoves := hask w
    rw [aroundInfo, Run.bind_apply]
    generalize ask w = ended at hmoves
    rcases ended with ⟨stop | told, w'⟩ <;> exact hmoves
  | metrics =>
    have hmoves := hask w
    rw [aroundInfo, Run.bind_apply]
    generalize ask w = ended at hmoves
    rcases ended with ⟨stop | told, w'⟩
    · exact hmoves
    · exact hR.trans hmoves (hmeasured rfl w' _)

end Layer

/-- **A pull through marks** keeps a relation that a pull from the source keeps, and what the marks
note down.  By induction on the marks. -/
theorem Pager.moves_pullThrough {R : World (σ × Progress π) → World (σ × Progress π) → Prop}
    (hR : Ledger R) (service : Service σ ρ π) (form : Form) (path : String)
    (hsource : (pullSource service form).Moves R) {marks : List PagerMark}
    (hnoted : ∀ m ∈ marks, ∀ result w, R w (PagerMark.noted service.info path m result w)) :
    (pullThrough service form path marks).Moves R := by
  induction marks with
  | nil => exact hsource
  | cons m marks ih =>
    have hinner := ih fun m' hmem => hnoted m' (List.mem_cons_of_mem m hmem)
    intro w
    have henter : R w (PagerMark.enter form path (pullThrough service form path marks) m w) := by
      cases m with
      | context | logged => exact hR.refl w
      | retry b => exact hR.lastTry hinner b _ path b.maxTimes w
    rw [pullThrough_cons, PagerMark.around_eq]
    exact hR.trans (hR.trans henter (hinner _)) (hnoted m List.mem_cons_self _ _)

/-! ### Where nothing is measured -/

/-- A relation between the worlds before and after that sees no more than the service and what was
measured. -/
structure Accounting (R : World τ → World τ → Prop) : Prop where
  same {w w' : World τ} (hservice : w'.service = w.service) (hsamples : w'.samples = w.samples) :
    R w w'
  trans {w w' w'' : World τ} (h : R w w') (h' : R w' w'') : R w w''

/-- Only a layer that measures adds to what was measured. -/
theorem Layer.samples_noted {info : ServiceInfo} {form : Form} {path : String} {action : Action}
    {layer : Layer} (hlayer : layer ≠ .metrics)
    (result : Except Stop (Reply (Reader ρ) (Pager π) action)) (w : World τ) :
    (noted info form path action layer result w).samples = w.samples := by
  cases layer with
  | context | retry b | index paths => rfl
  | limit n =>
    rcases result with stop | reply
    · rfl
    · cases action <;> rfl
  | logging => rcases result with (e | _) | reply <;> rfl
  | metrics => exact absurd rfl hlayer

namespace Accounting

theorem ledger (hR : Accounting R) : Ledger R where
  trans := hR.trans
  permits _ _ := hR.same rfl rfl
  retrying _ _ _ _ _ _ := hR.same rfl rfl

variable {info : ServiceInfo} {layer : Layer}

/-- **A call through a layer that does not measure.** -/
theorem around (hR : Accounting R) (hlayer : layer ≠ .metrics) {form : Form} {path : String}
    {action : Action} {inner : Run τ (Reply (Reader ρ) (Pager π) action)} (hinner : inner.Moves R) :
    (layer.around info form path action inner).Moves R :=
  Layer.moves_around hR.ledger (fun _ _ => hR.same rfl rfl)
    (fun result w => hR.same (Layer.service_noted layer result w)
      (Layer.samples_noted hlayer result w)) hinner

/-- **The question what a service is**, through a layer that does not measure. -/
theorem aroundInfo (hR : Accounting R) (hlayer : layer ≠ .metrics) {ask : Run τ ServiceInfo}
    (hask : ask.Moves R) : (layer.aroundInfo info ask).Moves R :=
  Layer.moves_aroundInfo hR.ledger (fun _ _ => hR.same rfl rfl) (fun h => absurd h hlayer) hask

end Accounting

end ObjectStorage
