import ObjectStorage.Proofs.Object.Composed

/-!
# What the functions of objects cannot tell apart

A service is steady for a likeness of its states if it answers the same in states that are alike,
and is in such states again afterwards.  Then a stack of layers on it, in worlds with the same free
permits, cannot tell these states apart, and nothing can that is composed of its calls.

* `Service.Steady` — services that are steady;
* `Run.Steady` — operations that cannot tell worlds apart;
* `Operator.Composed.steady` — operations that are composed of agreed calls cannot.
-/

namespace ObjectStorage

variable {σ ρ π α : Type}

/-- Reads that gave the same, and left the same reader and states that are alike. -/
structure ReadsAlike {γ : Type} (states : σ → σ → Prop) (x x' : γ × ρ × σ) : Prop where
  got : x.1 = x'.1
  reader : x.2.1 = x'.2.1
  states : states x.2.2 x'.2.2

/-- A service answers alike in states that are alike, and gives handles that give alike. -/
structure Service.Steady (service : Service σ ρ π) (states : σ → σ → Prop) : Prop where
  alike (form : Form) : service.Alike service form form Eq states Eq Eq
  fill (form : Form) (n : Nat) (reader : ρ) {s s' : σ} (hs : states s s') :
    ReadsAlike states (service.fill form n reader s) (service.fill form n reader s')
  pagesLeft (pager : π) {s s' : σ} (hs : states s s') :
    service.pagesLeft pager s = service.pagesLeft pager s'
  readsLeft (reader : ρ) {s s' : σ} (hs : states s s') :
    service.readsLeft reader s = service.readsLeft reader s'

namespace Service.Steady

variable {service : Service σ ρ π} {states : σ → σ → Prop}

theorem readUpTo (h : service.Steady states) (form : Form) (fuel missing : Nat) (reader : ρ)
    {s s' : σ} (hs : states s s') :
    ReadsAlike states (service.readUpTo form fuel missing reader s)
      (service.readUpTo form fuel missing reader s') := by
  induction fuel generalizing missing reader s s' with
  | zero => exact ⟨rfl, rfl, hs⟩
  | succ fuel ih =>
    rw [Service.readUpTo, Service.readUpTo]
    split
    · exact ⟨rfl, rfl, hs⟩
    · have hfilled := h.fill form missing reader hs
      generalize service.fill form missing reader s = filled at hfilled ⊢
      generalize service.fill form missing reader s' = filled' at hfilled ⊢
      obtain ⟨got, reader₁, t⟩ := filled
      obtain ⟨got', reader₂, t'⟩ := filled'
      obtain ⟨rfl, rfl, ht⟩ := hfilled
      obtain e | (_ | ⟨b, piece⟩) := got
      · exact ⟨rfl, rfl, ht⟩
      · exact ⟨rfl, rfl, ht⟩
      · have hrest := ih (missing - (b :: piece).length) reader₁ ht
        exact ⟨congrArg (fun got => (b :: piece ++ got.1, got.2)) hrest.got, hrest.reader,
          hrest.states⟩

theorem readPieces (h : service.Steady states) (form : Form) (fuel : Nat) (reader : ρ)
    {s s' : σ} (hs : states s s') :
    ReadsAlike states (service.readPieces form fuel reader s)
      (service.readPieces form fuel reader s') := by
  induction fuel generalizing reader s s' with
  | zero => exact ⟨rfl, rfl, hs⟩
  | succ fuel ih =>
    rw [Service.readPieces, Service.readPieces]
    have hfilled := h.fill form pieceSize reader hs
    generalize service.fill form pieceSize reader s = filled at hfilled ⊢
    generalize service.fill form pieceSize reader s' = filled' at hfilled ⊢
    obtain ⟨got, reader₁, t⟩ := filled
    obtain ⟨got', reader₂, t'⟩ := filled'
    obtain ⟨rfl, rfl, ht⟩ := hfilled
    obtain e | (_ | ⟨b, piece⟩) := got
    · dsimp only
      split
      · exact ih reader₁ ht
      · exact ⟨rfl, rfl, ht⟩
    · exact ⟨rfl, rfl, ht⟩
    · have hrest := ih reader₁ ht
      exact ⟨congrArg (fun got => ((b :: piece) :: got.1, got.2)) hrest.got, hrest.reader,
        hrest.states⟩

end Service.Steady

/-! ### Operations that cannot tell worlds apart -/

/-- An operation ends in the same way in worlds that are alike, with worlds that are alike. -/
def Run.Steady (states : σ → σ → Prop) (x : Run σ α) : Prop := Run.Alike Eq Eq states x x

theorem Run.Steady.eq {states : σ → σ → Prop} {x : Run σ α} (hx : x.Steady states)
    {w w' : World σ} (hw : World.Alike states w w') : (x w).1 = (x w').1 :=
  (hx w w' hw).1.eq (fun _ _ => StopsAlike.eq) fun _ _ => id

theorem Run.steady_of_eq {states : σ → σ → Prop} {x : Run σ α}
    (h : ∀ w w', World.Alike states w w' →
      (x w).1 = (x w').1 ∧ World.Alike states (x w).2 (x w').2) : x.Steady states := by
  intro w w' hw
  obtain ⟨hresult, hnext⟩ := h w w' hw
  rw [hresult]
  exact ⟨.refl StopsAlike.refl (fun _ => rfl) _, hnext⟩

namespace Service.Steady

variable {service : Service σ ρ π} {states : σ → σ → Prop}

theorem stackCall (h : service.Steady states) (layers : List Layer) (form : Form) (path : String)
    (action : Action) : (Stack.call service layers form path action).Steady states := by
  refine Run.steady_of_eq fun w w' hw => ?_
  obtain ⟨hresult, hnext⟩ := Stack.call_alike (keptByLayers_eq form) (h.alike form) layers
    (fun _ _ _ _ => ⟨rfl, fun _ => rfl⟩) path action w w' hw
  exact ⟨hresult.eq (fun _ _ => StopsAlike.eq) fun _ _ =>
    Reply.Alike.eq (fun _ _ => Reader.Alike.eq) (fun _ _ => Pager.Alike.eq), hnext⟩

theorem pulled (h : service.Steady states) (form : Form) (p : Pager π) :
    (p.pulled service form).Steady states := by
  refine Run.steady_of_eq fun w w' hw => ?_
  have hsource : p.source.Alike Eq p.source := by
    cases p.source with
    | service q => exact .service rfl
    | ready page => exact .ready page
  obtain ⟨hresult, hpager, hnext⟩ := Pager.pull_alike (keptByLayers_eq form) (h.alike form)
    ⟨hsource, rfl, rfl, rfl, rfl⟩ hw
  have hsame := hresult.eq (fun _ _ => StopsAlike.eq) fun _ _ => id
  have hpager := hpager.eq
  rw [Pager.pulled, Pager.pulled]
  generalize p.pull service form w = pulled at hsame hpager hnext ⊢
  generalize p.pull service form w' = pulled' at hsame hpager hnext ⊢
  obtain ⟨result, p₁, v⟩ := pulled
  obtain ⟨result', p₂, v'⟩ := pulled'
  dsimp only at hsame hpager hnext
  subst hsame hpager
  obtain (e | _) | page := result
  · exact ⟨rfl, hnext⟩
  · exact ⟨rfl, hnext⟩
  · exact ⟨rfl, hnext⟩

theorem pagesToCome (h : service.Steady states) (p : Pager π) :
    (p.pagesToCome service).Steady states := by
  refine Run.steady_of_eq fun w w' hw => ⟨?_, hw⟩
  have hleft : p.pagesLeft service w.service = p.pagesLeft service w'.service := by
    rw [Pager.pagesLeft, Pager.pagesLeft]
    cases p.source with
    | service q => exact h.pagesLeft q hw.service
    | ready page => rfl
  exact congrArg Except.ok hleft

theorem take (h : service.Steady states) (form : Form) (n : Nat) (r : Reader ρ) :
    (r.take service form n).Steady states := by
  refine Run.steady_of_eq fun w w' hw => ?_
  have hread := h.readUpTo form n n r.source hw.service
  refine ⟨?_, hread.states, hw.permits⟩
  exact congrArg₂ (fun got source => Except.ok (got, { r with source })) hread.got hread.reader

theorem rest (h : service.Steady states) (form : Form) (r : Reader ρ) :
    (r.rest service form).Steady states := by
  refine Run.steady_of_eq fun w w' hw => ?_
  have hread := h.readPieces form (service.readsLeft r.source w.service) r.source hw.service
  have hleft := h.readsLeft r.source hw.service
  rw [Reader.rest, Run.modifyService, Run.modifyService]
  dsimp only
  rw [← hleft]
  exact ⟨congrArg Except.ok hread.got, hread.states, hw.permits⟩

end Service.Steady

/-- **What a service cannot tell apart, nothing can tell apart that is composed of agreed calls.**
By induction on the composition. -/
theorem Operator.Composed.steady {op : Operator σ ρ π} {states : σ → σ → Prop}
    (hservice : op.service.Steady states) {x : Run σ α} (hx : op.Composed x) : x.Steady states := by
  induction hx with
  | pure a => exact .pure rfl
  | fail e => exact .fail rfl
  | call form h => exact hservice.stackCall op.layers form _ _
  | pulled form p => exact hservice.pulled form p
  | pagesToCome p => exact hservice.pagesToCome p
  | take form n r => exact hservice.take form n r
  | rest form r => exact hservice.rest form r
  | release owes =>
    refine Run.steady_of_eq fun w w' hw => ⟨rfl, hw.service, ?_⟩
    exact congrArg (owes.foldl Permits.giveBack) hw.permits
  | bind _ _ hx hf =>
    refine Run.Alike.bind hx ?_
    rintro a _ rfl
    exact hf a
  | attempt _ hx =>
    refine Run.steady_of_eq fun w w' hw => ?_
    obtain ⟨hresult, hnext⟩ := hx.attempt w w' hw
    exact ⟨hresult.eq (fun _ _ => StopsAlike.eq)
      fun _ _ h => h.eq (fun _ _ => id) fun _ _ => id, hnext⟩

end ObjectStorage
