import ObjectStorage.Proofs.Layer.Passage

/-!
# Pagers of a stack

The pager that a listing through layers gives carries the marks of the layers.  An index answers
listings itself: its pager has the page already, and carries the marks of the layers above the index
only.  To pull pages changes neither the marks nor the kind of the source.

* `Stack.marks` — the marks on the pagers of a stack;
* `Stack.Gives` — the pagers of a stack: those that a listing gave, after any number of pulls;
* `Stack.isPagerOf_of_gives` — their marks, their path and their source.
-/

namespace ObjectStorage

variable {σ ρ π : Type}

/-- Is the page known already? -/
def PageSource.isReady : PageSource π → Bool
  | .ready _ => true
  | .service _ => false

namespace Stack

/-- The marks on the pagers that listings through layers give. -/
def marks : List Layer → List PagerMark
  | [] => []
  | .context :: layers => .context :: marks layers
  | .retry b :: layers => .retry b :: marks layers
  | .logging :: layers => .logged :: marks layers
  | .limit _ :: layers | .metrics :: layers => marks layers
  | .index _ :: _ => []

/-- The pagers of the directory `path`, as layers give them. -/
inductive Gives (service : Service σ ρ π) (layers : List Layer) (form : Form) (path : String) :
    Pager π → Prop
  /-- A listing gave the pager. -/
  | listed {w w' : World σ} {p : Pager π}
      (h : call service layers form path .list w = (.ok p, w')) : Gives service layers form path p
  /-- A page was pulled from the pager, whatever happened elsewhere before. -/
  | pulled {p : Pager π} (w : World σ) (h : Gives service layers form path p) :
      Gives service layers form path (p.pull service form w).2.1

/-- What layers tell of a pager that they give. -/
structure IsPagerOf (layers : List Layer) (path : String) (p : Pager π) : Prop where
  marks_eq : p.marks = marks layers
  path_eq : p.path = path
  /-- Just the pagers of an index do not come from the service. -/
  ready_iff : p.source.isReady = true ↔ ∃ paths, .index paths ∈ layers

variable {service : Service σ ρ π} {layers : List Layer} {form : Form} {path : String}

theorem isPagerOf_nil (pager : π) :
    IsPagerOf [] path ({ source := .service pager, path } : Pager π) where
  marks_eq := rfl
  path_eq := rfl
  ready_iff := by simp [PageSource.isReady]

theorem isPagerOf_dressed {layer : Layer} (hindex : ∀ paths, layer ≠ .index paths) {p : Pager π}
    (h : IsPagerOf layers path p) :
    IsPagerOf (layer :: layers) path (Layer.dressed (ρ := ρ) .list layer p) := by
  obtain ⟨hmarks, hpath, hready⟩ := h
  have hmem : (∃ paths, Layer.index paths ∈ layer :: layers) ↔ ∃ paths, .index paths ∈ layers := by
    simp only [List.mem_cons]
    exact ⟨fun ⟨paths, h⟩ => ⟨paths, h.resolve_left fun heq => hindex paths heq.symm⟩,
      fun ⟨paths, h⟩ => ⟨paths, .inr h⟩⟩
  cases layer with
  | index paths => exact absurd rfl (hindex paths)
  | context => exact ⟨congrArg (PagerMark.context :: ·) hmarks, hpath, hready.trans hmem.symm⟩
  | retry b => exact ⟨congrArg (PagerMark.retry b :: ·) hmarks, hpath, hready.trans hmem.symm⟩
  | logging => exact ⟨congrArg (PagerMark.logged :: ·) hmarks, hpath, hready.trans hmem.symm⟩
  | limit n => exact ⟨hmarks, hpath, hready.trans hmem.symm⟩
  | metrics => exact ⟨hmarks, hpath, hready.trans hmem.symm⟩

/-- What a listing through layers gives, by induction on the layers. -/
theorem isPagerOf_of_call {w w' : World σ} {p : Pager π}
    (h : call service layers form path .list w = (.ok p, w')) : IsPagerOf layers path p := by
  have hresult : (call service layers form path .list w).1 = .ok p := by rw [h]
  clear h
  induction layers generalizing w p with
  | nil =>
    rw [call_nil, base_eq] at hresult
    generalize service.call form path .list w.service = answer at hresult
    obtain ⟨e | pager, s⟩ := answer
    · cases hresult
    · cases hresult
      exact isPagerOf_nil pager
  | cons layer layers ih =>
    rw [call_cons, Layer.around_eq] at hresult
    cases henter : layer.enter service.info form path .list
        (call service layers form path .list) w with
    | inl w' =>
      rw [henter] at hresult
      obtain ⟨inside, hinside, rfl⟩ := Layer.outcome_eq_ok_iff.1 hresult
      have hindex : ∀ paths, layer ≠ .index paths := by
        rintro paths rfl
        cases henter
      exact isPagerOf_dressed hindex (ih hinside)
    | inr answer =>
      rw [henter] at hresult
      obtain ⟨n, stop, w', -, rfl, -⟩ | ⟨paths, reply, rfl, -⟩ := Layer.enter_answer henter
      · cases hresult
      · cases henter
        cases hresult
        exact ⟨rfl, rfl, ⟨fun _ => ⟨paths, List.mem_cons_self⟩, fun _ => rfl⟩⟩

end Stack

namespace Pager

/-- To pull a page leaves the kind of the source as it is. -/
theorem isReady_pullSource (service : Service σ ρ π) (form : Form) (w : World (σ × Progress π)) :
    (pullSource service form w).2.service.2.1.isReady = w.service.2.1.isReady := by
  obtain ⟨⟨s, source, listed⟩, permits, events, samples, printed⟩ := w
  cases source with
  | service q => rfl
  | ready page => rfl

theorem isReady_pullThrough (service : Service σ ρ π) (form : Form) (path : String)
    (marks : List PagerMark) (w : World (σ × Progress π)) :
    (pullThrough service form path marks w).2.service.2.1.isReady = w.service.2.1.isReady :=
  pullThrough_keeps service form (P := fun s => s.2.1.isReady = w.service.2.1.isReady)
    (fun v hv => (isReady_pullSource service form v).trans hv) path marks rfl

end Pager

namespace Stack

variable {service : Service σ ρ π} {layers : List Layer} {form : Form} {path : String}

theorem isPagerOf_pull {p : Pager π} (h : IsPagerOf layers path p) (w : World σ) :
    IsPagerOf layers path (p.pull service form w).2.1 where
  marks_eq := h.marks_eq
  path_eq := h.path_eq
  ready_iff := by
    rw [Pager.pull_eq, Pager.isReady_pullThrough]
    exact h.ready_iff

/-- Every pager of a stack has the marks of the stack. -/
theorem isPagerOf_of_gives {p : Pager π} (h : Gives service layers form path p) :
    IsPagerOf layers path p := by
  induction h with
  | listed h => exact isPagerOf_of_call h
  | pulled w _ ih => exact isPagerOf_pull ih w

end Stack

end ObjectStorage
