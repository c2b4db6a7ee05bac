import ObjectStorage.Lister
import ObjectStorage.Proofs.Layer.Record
import ObjectStorage.Proofs.Path.Canonical

/-!
# What the functions of objects are composed of

Whatever is done with objects comes down to calls of their operator, each at the path of an object
and with an action that suits it, to pulls from pagers and to reads from readers.  So what these
keep of a service, every function of objects keeps.

* `Path.IsObjectPath`, `Action.Agreed` — the calls that objects make;
* `Operator.Composed` — operations that are composed of such calls;
* `Object.composed_write`, `Lister.composed_next`, … — the functions of objects are;
* `Service.Keeps`, `Operator.Composed.keeps` — what they keep of the service.
-/

namespace ObjectStorage

variable {σ ρ π α β : Type}

/-! ### The calls that objects make -/

/-- The path of an object: the root, or a text that is not empty, does not begin with a slash and
has no two slashes in a row. -/
def Path.IsObjectPath (path : String) : Prop :=
  path = Path.root
    ∨ path ≠ "" ∧ path.toList.head? ≠ some '/' ∧ ¬ ['/', '/'] <:+: path.toList

/-- **Whatever users and services supply**, an object is at the path of an object. -/
theorem Path.isObjectPath_normalize (text : String) : IsObjectPath (normalize text) := by
  refine (normalize_cases text).imp_right fun hcanonical => ?_
  exact ⟨normalize_ne_empty text, hcanonical.head, not_infix_of_isChain hcanonical.apart⟩

/-- An action that suits a path: a file is read and written, a directory is listed, and what is
created has the mode that the path tells. -/
def Action.Suits (path : String) : Action → Prop
  | .create mode => mode = .ofPath path
  | .read _ | .write _ _ => Path.isDir path = false
  | .list => Path.isDir path = true
  | .stat | .delete => True

/-- A call as services may rely on it. -/
structure Action.Agreed (path : String) (action : Action) : Prop where
  isObjectPath : Path.IsObjectPath path
  suits : action.Suits path

/-! ### Operations on readers and pagers -/

/-- A pull as an operation: the page or the error, and the pager afterwards. -/
def Pager.pulled (service : Service σ ρ π) (form : Form) (p : Pager π) :
    Run σ (Except Error Page × Pager π) := fun w =>
  match p.pull service form w with
  | (.ok page, p, w) => (.ok (.ok page, p), w)
  | (.error (.failed e), p, w) => (.ok (.error e, p), w)
  | (.error .waiting, _, w) => (.error .waiting, w)

/-- All that a reader has left, as an operation. -/
def Reader.rest (service : Service σ ρ π) (form : Form) (r : Reader ρ) :
    Run σ (List Bytes × Option IoError) :=
  .modifyService fun s =>
    let (got, _, s) := service.readPieces form (service.readsLeft r.source s) r.source s
    (got, s)

/-- How many pages a pager has left at most, as an operation. -/
def Pager.pagesToCome (service : Service σ ρ π) (p : Pager π) : Run σ Nat := do
  let s ← Run.getService
  pure (p.pagesLeft service s)

/-! ### Operations that are composed of agreed calls -/

/-- An operation that reaches the service by the agreed calls of an operator only, and by what can
be done with the handles that these give. -/
inductive Operator.Composed (op : Operator σ ρ π) : {α : Type} → Run σ α → Prop
  | pure {α : Type} (a : α) : Composed op (pure a : Run σ α)
  | fail {α : Type} (e : Error) : Composed op (.fail e : Run σ α)
  | call (form : Form) {path : String} {action : Action} (h : action.Agreed path) :
    Composed op (op.call form path action)
  | pulled (form : Form) (p : Pager π) : Composed op (p.pulled op.service form)
  | pagesToCome (p : Pager π) : Composed op (p.pagesToCome op.service)
  | take (form : Form) (n : Nat) (r : Reader ρ) : Composed op (r.take op.service form n)
  | rest (form : Form) (r : Reader ρ) : Composed op (r.rest op.service form)
  | release (owes : List Nat) : Composed op (Limit.release owes)
  | bind {α β : Type} {x : Run σ α} {f : α → Run σ β} (hx : Composed op x)
    (hf : ∀ a, Composed op (f a)) : Composed op (x >>= f)
  | attempt {α : Type} {x : Run σ α} (hx : Composed op x) : Composed op x.attempt

section

variable {op : Operator σ ρ π}

open Operator

namespace Object

theorem composed_ifMissing {missing : α} {x : Run σ α} (hx : op.Composed x) :
    op.Composed (ifMissing missing x) := by
  refine .bind hx.attempt fun result => ?_
  cases result with
  | ok a => exact .pure a
  | error e =>
    dsimp only
    split
    · exact .pure missing
    · exact .fail e

/-- What a function does for files only. -/
theorem composed_ensureFile {o : Object σ ρ π} {form : Form} {function : String} {x : Run σ α}
    (hx : o.isDir = false → op.Composed x) :
    op.Composed (do o.ensureFile form function; x) := by
  rw [ensureFile]
  cases hdir : o.isDir with
  | true => exact Composed.fail _
  | false => exact hx hdir

/-- What a function does for directories only. -/
theorem composed_ensureDir {o : Object σ ρ π} {form : Form} {function : String} {x : Run σ α}
    (hx : o.isDir = true → op.Composed x) :
    op.Composed (do o.ensureDir form function; x) := by
  rw [ensureDir]
  cases hdir : o.isDir with
  | true => exact hx hdir
  | false => exact Composed.fail _

variable (op) (text : String) (form : Form)

theorem composed_call {action : Action} (h : action.Suits (Path.normalize text)) :
    op.Composed ((op.object text).call form action) :=
  .call form ⟨Path.isObjectPath_normalize text, h⟩

theorem composed_create : op.Composed ((op.object text).create form) :=
  composed_call op text form rfl

theorem composed_metadata : op.Composed ((op.object text).metadata form) :=
  composed_call op text form trivial

theorem composed_delete : op.Composed ((op.object text).delete form) :=
  composed_call op text form trivial

theorem composed_exists : op.Composed ((op.object text).exists form) :=
  composed_ifMissing (.bind (composed_metadata op text form) fun _ => .pure true)

theorem composed_write (data : Bytes) : op.Composed ((op.object text).write form data) :=
  composed_ensureFile fun hfile => .bind (composed_call op text form hfile) fun _ => .pure ()

theorem composed_openRange (function : String) (range : ByteRange) :
    op.Composed ((op.object text).openRange form function range) :=
  composed_ensureFile fun hfile =>
    .bind (composed_call op text form hfile) fun reply => .pure reply.2

theorem composed_reader (range : ByteRange) :
    op.Composed ((op.object text).reader form range) :=
  composed_openRange op text form "range_reader" range

theorem composed_pager : op.Composed ((op.object text).pager form) :=
  composed_ensureDir fun hdir => composed_call op text form hdir

theorem composed_list : op.Composed ((op.object text).list form) :=
  .bind (composed_pager op text form) fun _ => .pure _

end Object

theorem Operator.composed_check (op : Operator σ ρ π) : op.Composed op.check :=
  Object.composed_ifMissing
    (.bind (Object.composed_metadata op Path.root .async) fun _ => .pure ())

namespace Reader

variable (op) (form : Form) (r : Reader ρ)

theorem composed_pieces : op.Composed (r.pieces op.service form) :=
  .bind (.rest form r) fun got => .bind (.release r.owes) fun _ => .pure got

theorem composed_readAll (onError : Error → Error) :
    op.Composed (r.readAll op.service form onError) := by
  refine .bind (composed_pieces op form r) fun got => ?_
  obtain ⟨pieces, failure⟩ := got
  cases failure with
  | none => exact .pure _
  | some e => exact .fail _

end Reader

theorem Object.composed_read (op : Operator σ ρ π) (text : String) (form : Form)
    (range : ByteRange) : op.Composed ((op.object text).read form range) :=
  .bind (composed_openRange op text form "range_read" range) fun r =>
    Reader.composed_readAll op form r _

/-! ### Listers -/

namespace Lister

variable (op) (form : Form)

theorem composed_finish (l : Lister π) : op.Composed (finish form l) := by
  cases form with
  | async => exact .bind (.release l.pager.owes) fun _ => .pure _
  | blocking => exact .pure _

/-- What a lister does with a pull. -/
theorem pull_eq (service : Service σ ρ π) (l : Lister π) :
    l.pull service form = (do
      let (result, pager) ← l.pager.pulled service form
      match result with
      | .ok (some page) => pure ({ l with pager, buffer := l.buffer ++ page }, none)
      | .ok none => do pure (← finish form { l with pager }, none)
      | .error e => do pure (← finish form { l with pager }, some e)) := by
  funext w
  rw [pull, Run.bind_apply, Pager.pulled]
  rcases l.pager.pull service form w with ⟨(e | _) | (_ | page), pager, w'⟩ <;> rfl

theorem composed_pull (l : Lister π) : op.Composed (l.pull op.service form) := by
  rw [pull_eq]
  refine .bind (.pulled form l.pager) fun got => ?_
  obtain ⟨result, pager⟩ := got
  rcases result with e | (_ | page)
  · exact .bind (composed_finish op form _) fun _ => .pure _
  · exact .bind (composed_finish op form _) fun _ => .pure _
  · exact .pure _

theorem composed_nextWithin (pulls : Nat) (l : Lister π) :
    op.Composed (nextWithin op.service form pulls l) := by
  induction pulls generalizing l with
  | zero =>
    obtain ⟨pager, buffer, ended⟩ := l
    cases buffer with
    | nil => exact .pure _
    | cons entry rest => exact .pure _
  | succ pulls ih =>
    obtain ⟨pager, buffer, ended⟩ := l
    cases buffer with
    | cons entry rest => exact .pure _
    | nil =>
      rw [nextWithin]
      · cases ended with
        | true => exact .pure _
        | false =>
          refine .bind (composed_pull op form _) fun got => ?_
          obtain ⟨l', error⟩ := got
          cases error with
          | none => exact ih l'
          | some e => exact .pure _
      · intro _ _ _ _ heq
        cases heq

/-- The number of pulls is what the pager has left at most, and one for the end. -/
theorem next_eq (service : Service σ ρ π) (l : Lister π) :
    l.next service form = (do
      let pages ← l.pager.pagesToCome service
      nextWithin service form (pages + 1) l) := rfl

theorem composed_next (l : Lister π) : op.Composed (l.next op.service form) := by
  rw [next_eq]
  exact .bind (.pagesToCome l.pager) fun pages => composed_nextWithin op form (pages + 1) l

theorem composed_toListWithin (pulls : Nat) (l : Lister π) :
    op.Composed (toListWithin op.service form pulls l) := by
  induction pulls generalizing l with
  | zero => exact .pure _
  | succ pulls ih =>
    rw [toListWithin]
    dsimp only
    split
    · exact .pure _
    · refine .bind (composed_pull op form _) fun got => ?_
      obtain ⟨l', error⟩ := got
      cases error with
      | none => exact .bind (ih l') fun _ => .pure _
      | some e => exact .pure _

theorem toList_eq (service : Service σ ρ π) (l : Lister π) :
    l.toList service form = (do
      let pages ← l.pager.pagesToCome service
      let (items, l) ← toListWithin service form (pages + 1) l
      l.close
      pure items) := rfl

theorem composed_toList (l : Lister π) : op.Composed (l.toList op.service form) := by
  rw [toList_eq]
  refine .bind (.pagesToCome l.pager) fun pages => ?_
  refine .bind (composed_toListWithin op form (pages + 1) l) fun got => ?_
  exact .bind (.release got.2.pager.owes) fun _ => .pure got.1

end Lister

/-! ### What such operations keep of a service -/

/-- What agreed calls, pulls and reads keep of the state of a service. -/
structure Service.Keeps (service : Service σ ρ π) (P : σ → Prop) : Prop where
  call (form : Form) {path : String} {action : Action} (h : action.Agreed path) {s : σ} (hs : P s) :
    P (service.call form path action s).2
  pull (form : Form) (pager : π) {s : σ} (hs : P s) : P (service.pull form pager s).2.2
  fill (form : Form) (n : Nat) (reader : ρ) {s : σ} (hs : P s) :
    P (service.fill form n reader s).2.2

namespace Service.Keeps

variable {service : Service σ ρ π} {P : σ → Prop}

theorem readUpTo (h : service.Keeps P) (form : Form) (fuel missing : Nat) (reader : ρ) {s : σ}
    (hs : P s) : P (service.readUpTo form fuel missing reader s).2.2 := by
  induction fuel generalizing missing reader s with
  | zero => exact hs
  | succ fuel ih =>
    rw [Service.readUpTo]
    split
    · exact hs
    · have hnext := h.fill form missing reader hs
      generalize service.fill form missing reader s = filled at hnext ⊢
      obtain ⟨e | (_ | ⟨b, piece⟩), reader', s'⟩ := filled
      · exact hnext
      · exact hnext
      · exact ih _ reader' hnext

theorem readPieces (h : service.Keeps P) (form : Form) (fuel : Nat) (reader : ρ) {s : σ}
    (hs : P s) : P (service.readPieces form fuel reader s).2.2 := by
  induction fuel generalizing reader s with
  | zero => exact hs
  | succ fuel ih =>
    rw [Service.readPieces]
    have hnext := h.fill form pieceSize reader hs
    generalize service.fill form pieceSize reader s = filled at hnext ⊢
    obtain ⟨e | (_ | ⟨b, piece⟩), reader', s'⟩ := filled
    · dsimp only
      split
      · exact ih reader' hnext
      · exact hnext
    · exact hnext
    · exact ih reader' hnext

/-- What a call of the service keeps, the call keeps through any layers. -/
theorem stackCall (h : service.Keeps P) (layers : List Layer) (form : Form) {path : String}
    {action : Action} (hagreed : action.Agreed path) (w : World σ) (hw : P w.service) :
    P (Stack.call service layers form path action w).2.service := by
  induction layers generalizing w with
  | nil =>
    rw [Stack.call_nil, Stack.base_eq]
    exact h.call form hagreed hw
  | cons layer layers ih =>
    rw [Stack.call_cons, Layer.around_eq]
    cases henter : layer.enter service.info form path action
        (Stack.call service layers form path action) w with
    | inr answer => exact hw
    | inl v =>
      dsimp only
      rw [Layer.service_noted]
      refine ih v ?_
      by_cases hretry : ∃ b, layer = .retry b
      · obtain ⟨b, rfl⟩ := hretry
        cases henter
        exact Retry.lastTry_keeps b _ path _ ih b.maxTimes hw
      · rw [Layer.service_enter (fun b heq => hretry ⟨b, heq⟩) henter]
        exact hw

/-- What a pull from the service keeps, a pull from any pager keeps. -/
theorem pagerPull (h : service.Keeps P) (form : Form) (p : Pager π) (w : World σ)
    (hw : P w.service) : P (p.pull service form w).2.2.service := by
  rw [Pager.pull_eq]
  refine Pager.pullThrough_keeps service form (P := fun s => P s.1) ?_ p.path p.marks hw
  rintro ⟨⟨s, source, listed⟩, permits, events, samples, printed⟩ hs
  cases source with
  | service q => exact h.pull form q hs
  | ready page => exact hs

end Service.Keeps

/-- An operation keeps what it keeps of the service. -/
def Run.Keeps (P : σ → Prop) (x : Run σ α) : Prop := ∀ w, P w.service → P (x w).2.service

/-- **What agreed calls, pulls and reads keep of a service, everything keeps that is composed of
them.**  By induction on the composition. -/
theorem Operator.Composed.keeps {P : σ → Prop} (hservice : op.service.Keeps P) {x : Run σ α}
    (hx : op.Composed x) : x.Keeps P := by
  induction hx with
  | pure a | fail e | pagesToCome p | release owes => exact fun w hw => hw
  | call form h => exact hservice.stackCall op.layers form h
  | pulled form p =>
    intro w hw
    have hnext := hservice.pagerPull form p w hw
    rw [Pager.pulled]
    generalize p.pull op.service form w = pulled at hnext ⊢
    obtain ⟨(e | _) | page, p', w'⟩ := pulled
    · exact hnext
    · exact hnext
    · exact hnext
  | take form n r => exact fun w hw => hservice.readUpTo form n n r.source hw
  | rest form r => exact fun w hw => hservice.readPieces form _ r.source hw
  | @bind _ _ x f _ _ hx hf =>
    intro w hw
    have hnext := hx w hw
    rw [Run.bind_apply]
    generalize x w = ended at hnext ⊢
    obtain ⟨stop | a, w'⟩ := ended
    · exact hnext
    · exact hf a w' hnext
  | @attempt _ x _ hx =>
    intro w hw
    have hnext := hx w hw
    rw [Run.attempt]
    generalize x w = ended at hnext ⊢
    obtain ⟨(e | _) | a, w'⟩ := ended
    · exact hnext
    · exact hnext
    · exact hnext

end

end ObjectStorage
