import Mathlib.Data.List.Forall2
import ObjectStorage.Object
import ObjectStorage.Proofs.Layer.Record

/-!
# Errors in the two forms

An error names the operation that failed, and keeps the names that this one took the place of.  The
operations of the two forms have different names; but for these, layers make the same of an error in
either form.

* `NamesAlike` — names that differ in the form only;
* `Error.Renamed` — errors that differ in such names only;
* `keptByLayers_renamed` — layers keep them so;
* `ContactsAlike`, `Service.Alike.recorded` — records that differ in the form only.
-/

namespace ObjectStorage

variable {σ σ' ρ ρ' π π' : Type}

/-! ### Names -/

/-- Names of one thing, as the form `f` and the form `g` have it. -/
inductive NamesAlike (f g : Form) : String → String → Prop
  /-- The name does not tell the form. -/
  | same (name : String) : NamesAlike f g name name
  | operation (verb : Verb) :
    NamesAlike f g (Operation.call f verb).name (Operation.call g verb).name
  | pull : NamesAlike f g (Pager.pullName f) (Pager.pullName g)
  | function (function : String) :
    NamesAlike f g (Object.label f function) (Object.label g function)

theorem Operation.name_ne_empty (form : Form) (verb : Verb) : (call form verb).name ≠ "" := by
  cases form <;> cases verb <;> decide

theorem Pager.pullName_ne_empty (form : Form) : pullName form ≠ "" := by
  cases form <;> decide

theorem Object.label_ne_empty (form : Form) (function : String) : label form function ≠ "" := by
  intro h
  have hlength := congrArg String.length h
  simp only [label, String.length_append] at hlength
  have hstart : "Object::".length = 8 := rfl
  have hempty : "".length = 0 := rfl
  omega

namespace NamesAlike

variable {f g : Form} {name name' : String}

/-- An operation that nobody has named has no name in the other form either. -/
theorem empty_iff (h : NamesAlike f g name name') : name = "" ↔ name' = "" := by
  cases h with
  | same => exact Iff.rfl
  | operation verb =>
    exact iff_of_false (Operation.name_ne_empty f verb) (Operation.name_ne_empty g verb)
  | pull => exact iff_of_false (Pager.pullName_ne_empty f) (Pager.pullName_ne_empty g)
  | function function =>
    exact iff_of_false (Object.label_ne_empty f function) (Object.label_ne_empty g function)

end NamesAlike

/-- Facts of an error that are the same, but for the name of an operation that was called. -/
inductive FactsAlike (f g : Form) : String × String → String × String → Prop
  | same (fact : String × String) : FactsAlike f g fact fact
  | called {name name' : String} (h : NamesAlike f g name name') :
    FactsAlike f g ("called", name) ("called", name')

/-! ### Errors -/

namespace Error

/-- Errors that are the same but for the names of operations, which are those of the form `f` in
the one and those of the form `g` in the other. -/
structure Renamed (f g : Form) (e e' : Error) : Prop where
  kind : e.kind = e'.kind
  message : e.message = e'.message
  status : e.status = e'.status
  source : e.source = e'.source
  operation : NamesAlike f g e.operation e'.operation
  context : List.Forall₂ (FactsAlike f g) e.context e'.context

namespace Renamed

variable {f g : Form} {e e' : Error}

theorem refl (f g : Form) (e : Error) : Renamed f g e e := by
  refine ⟨rfl, rfl, rfl, rfl, .same _, ?_⟩
  exact List.forall₂_same.2 fun fact _ => .same fact

theorem isTemporary (h : Renamed f g e e') : e.isTemporary = e'.isTemporary := by
  rw [Error.isTemporary, Error.isTemporary, h.status]

theorem withContext (h : Renamed f g e e') (key value : String) :
    Renamed f g (e.withContext key value) (e'.withContext key value) := by
  refine ⟨h.kind, h.message, h.status, h.source, h.operation, ?_⟩
  have hfact : List.Forall₂ (FactsAlike f g) [(key, value)] [(key, value)] := .cons (.same _) .nil
  exact List.rel_append h.context hfact

theorem withOperation (h : Renamed f g e e') {name name' : String}
    (hname : NamesAlike f g name name') :
    Renamed f g (e.withOperation name) (e'.withOperation name') := by
  have hcalled : List.Forall₂ (FactsAlike f g)
      (if e.operation = "" then [] else [("called", e.operation)])
      (if e'.operation = "" then [] else [("called", e'.operation)]) := by
    by_cases hempty : e.operation = ""
    · rw [if_pos hempty, if_pos (h.operation.empty_iff.1 hempty)]
      exact .nil
    · rw [if_neg hempty, if_neg fun hempty' => hempty (h.operation.empty_iff.2 hempty')]
      exact .cons (.called h.operation) .nil
  constructor
  · rw [kind_withOperation, kind_withOperation, h.kind]
  · rw [message_withOperation, message_withOperation, h.message]
  · rw [status_withOperation, status_withOperation, h.status]
  · rw [source_withOperation, source_withOperation, h.source]
  · rwa [operation_withOperation, operation_withOperation]
  · rw [context_withOperation, context_withOperation]
    exact List.rel_append h.context hcalled

theorem persistent (h : Renamed f g e e') : Renamed f g e.persistent e'.persistent :=
  ⟨h.kind, h.message, rfl, h.source, h.operation, h.context⟩

end Renamed

end Error

/-- **Layers do not tell the forms apart by their errors**: what they make of errors that differ in
names of operations differs in such names only. -/
theorem keptByLayers_renamed (f g : Form) : KeptByLayers (Error.Renamed f g) f g where
  isTemporary h := h.isTemporary
  exhausted h retries := h.persistent.withContext "retried" (toString retries)
  callError h scheme path action := by
    have hfacts := ((h.withOperation (NamesAlike.operation action.verb)).withContext "service"
      scheme.name).withContext "path" path
    cases action with
    | read range => exact hfacts.withContext "range" range.display
    | create mode | write length data | stat | delete | list => exact hfacts
  pullError h scheme path :=
    ((h.withOperation .pull).withContext "service" scheme.name).withContext "path" path

/-! ### Records -/

/-- Times that services are reached, for the same with the same arguments, in forms that are
paired. -/
inductive ContactsAlike (pairs : Form → Form → Prop) : Contact → Contact → Prop
  | call {f g : Form} (h : pairs f g) (path : String) (action : Action) :
    ContactsAlike pairs (.call f path action) (.call g path action)
  | pull {f g : Form} (h : pairs f g) : ContactsAlike pairs (.pull f) (.pull g)

/-- States that are alike, with records of which each entry is like its counterpart. -/
def RecordedAlike (pairs : Form → Form → Prop) (states : σ → σ' → Prop) (s : σ × List Contact)
    (s' : σ' × List Contact) : Prop :=
  states s.1 s'.1 ∧ List.Forall₂ (ContactsAlike pairs) s.2 s'.2

/-- Services that are alike in paired forms have records that are alike. -/
theorem Service.Alike.recorded {service : Service σ ρ π} {service' : Service σ' ρ' π'}
    {pairs : Form → Form → Prop} {f g : Form} (hpair : pairs f g)
    {errors : Error → Error → Prop} {states : σ → σ' → Prop} {readers : ρ → ρ' → Prop}
    {pagers : π → π' → Prop} (h : service.Alike service' f g errors states readers pagers) :
    service.recorded.Alike service'.recorded f g errors (RecordedAlike pairs states) readers
      pagers where
  info := h.info
  call path action s s' hs := by
    obtain ⟨hresult, hstates⟩ := h.call path action hs.1
    have hlast : List.Forall₂ (ContactsAlike pairs) [.call f path action] [.call g path action] :=
      .cons (.call hpair path action) .nil
    exact ⟨hresult, hstates, List.rel_append hs.2 hlast⟩
  pull hp s s' hs := by
    obtain ⟨hresult, hpager, hstates⟩ := h.pull hp hs.1
    have hlast : List.Forall₂ (ContactsAlike pairs) [.pull f] [.pull g] := .cons (.pull hpair) .nil
    exact ⟨hresult, hpager, hstates, List.rel_append hs.2 hlast⟩

end ObjectStorage
