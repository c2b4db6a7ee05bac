import ObjectStorage.Object
import ObjectStorage.Proofs.Layer.Passage

/-!
# Finished operators

A finished operator answers as its service does, but that operation, service and path are told in
every error.  What the error is about stays the same.

* `Operator.finished` — the operator that finishing a service gives;
* `Operator.call_of_ok`, `Operator.call_of_error` — its calls, from those of the service;
* `Object.ifMissing_of_ok`, `Object.ifMissing_of_missing` — a question that may find nothing;
* `Object.read_of_dir`, `Object.write_of_dir` — a directory is neither read nor written;
* `Operator.write_of_call`, `Operator.openRange_of_call` — files, from the calls of the service.
-/

namespace ObjectStorage

variable {σ ρ π : Type}

namespace Operator

/-- A service with the layer that finishes an operator around it. -/
def finished (service : Service σ ρ π) : Operator σ ρ π := { service, layers := [.context] }

/-- The reply of a service, with its handles as a finished operator hands them out. -/
def opened (path : String) (action : Action) (reply : Reply ρ π action) :
    Reply (Reader ρ) (Pager π) action :=
  Reply.map id (Pager.mark .context) action
    (Reply.map (⟨·, []⟩) (fun pager => { source := .service pager, path }) action reply)

section

variable {service : Service σ ρ π} {form : Form} {path : String} {action : Action}
  {w : World σ} {s : σ}

/-- A call of a finished operator passes the one layer that it has. -/
theorem call_finished (form : Form) (path : String) (action : Action) (w : World σ) :
    (finished service).call form path action w
      = (Layer.outcome service.info form path action .context
          (Stack.base service form path action w).1,
        (Stack.base service form path action w).2) :=
  Layer.around_eq .context (Stack.base service form path action) w

theorem call_of_ok {reply : Reply ρ π action}
    (h : service.call form path action w.service = (.ok reply, s)) :
    (finished service).call form path action w
      = (.ok (opened path action reply), { w with service := s }) := by
  rw [call_finished, Stack.base_eq, h]
  rfl

theorem call_of_error {e : Error}
    (h : service.call form path action w.service = (.error e, s)) :
    (finished service).call form path action w
      = (.error (.failed (Layer.callError service.info.scheme form path action e)),
        { w with service := s }) := by
  rw [call_finished, Stack.base_eq, h]
  rfl

end

@[simp] theorem kind_callError (scheme : Scheme) (form : Form) (path : String) (action : Action)
    (e : Error) : (Layer.callError scheme form path action e).kind = e.kind := by
  cases action <;> simp [Layer.callError]

@[simp] theorem source_callError (scheme : Scheme) (form : Form) (path : String) (action : Action)
    (e : Error) : (Layer.callError scheme form path action e).source = e.source := by
  cases action <;> simp [Layer.callError, Error.withContext]

end Operator

namespace Object

variable {α : Type} {missing a : α} {x : Run σ α} {w w' : World σ} {e : Error}

theorem ifMissing_of_ok (h : x w = (.ok a, w')) : ifMissing missing x w = (.ok a, w') := by
  rw [ifMissing, Run.bind_of_ok (Run.attempt_of_ok h)]
  rfl

theorem ifMissing_of_missing (h : x w = (.error (.failed e), w'))
    (hkind : e.kind = .objectNotFound) : ifMissing missing x w = (.ok missing, w') := by
  rw [ifMissing, Run.bind_of_ok (Run.attempt_of_failed h)]
  simp only [hkind, if_true, Run.pure_apply]

theorem ifMissing_of_failed (h : x w = (.error (.failed e), w'))
    (hkind : e.kind ≠ .objectNotFound) : ifMissing missing x w = (.error (.failed e), w') := by
  rw [ifMissing, Run.bind_of_ok (Run.attempt_of_failed h)]
  simp only [hkind, if_false, Run.fail_apply]

variable {o : Object σ ρ π} {form : Form}

theorem exists_of_metadata {m : Metadata} (h : o.metadata form w = (.ok m, w')) :
    o.exists form w = (.ok true, w') := by
  have hfound : ((do let _ ← o.metadata form; pure true) : Run σ Bool) w = (.ok true, w') := by
    rw [Run.bind_of_ok h, Run.pure_apply]
  exact ifMissing_of_ok hfound

theorem exists_of_missing (h : o.metadata form w = (.error (.failed e), w'))
    (hkind : e.kind = .objectNotFound) : o.exists form w = (.ok false, w') :=
  ifMissing_of_missing (Run.bind_of_error h) hkind

theorem exists_of_failed (h : o.metadata form w = (.error (.failed e), w'))
    (hkind : e.kind ≠ .objectNotFound) : o.exists form w = (.error (.failed e), w') :=
  ifMissing_of_failed (Run.bind_of_error h) hkind

theorem ensureFile_of_file (h : o.isDir = false) (form : Form) (function : String) :
    o.ensureFile form function = pure () := by
  rw [ensureFile, h, if_neg Bool.false_ne_true]

/-- A directory is refused. -/
theorem ensureFile_of_dir (h : o.isDir = true) (form : Form) (function : String) :
    ∃ e, e.kind = .objectIsADirectory ∧ o.ensureFile form function = .fail e := by
  refine ⟨_, ?_, by rw [ensureFile, h, if_pos rfl]⟩
  simp [Error.new]

theorem read_of_dir (h : o.isDir = true) (form : Form) (range : ByteRange) (w : World σ) :
    ∃ e, e.kind = .objectIsADirectory
      ∧ o.read form range w = (.error (.failed e), w) := by
  obtain ⟨e, hkind, hensure⟩ := ensureFile_of_dir h form "range_read"
  have hopen : o.openRange form "range_read" range w = (.error (.failed e), w) := by
    rw [openRange, hensure]
    rfl
  exact ⟨e, hkind, Run.bind_of_error hopen⟩

theorem write_of_dir (h : o.isDir = true) (form : Form) (data : Bytes) (w : World σ) :
    ∃ e, e.kind = .objectIsADirectory
      ∧ o.write form data w = (.error (.failed e), w) := by
  obtain ⟨e, hkind, hensure⟩ := ensureFile_of_dir h form "write"
  refine ⟨e, hkind, ?_⟩
  rw [write, hensure]
  rfl

/-- The pager of a directory is the one that the service gives. -/
theorem pager_of_dir (hdir : o.isDir = true) (form : Form) :
    o.pager form = o.call form .list := by
  rw [pager, ensureDir, if_pos hdir, pure_bind]

end Object

/-! ### Files -/

namespace Operator

section

variable {service : Service σ ρ π} {form : Form} {path : String} {w : World σ} {s : σ}
  (hfile : Path.isDir (Path.normalize path) = false)
include hfile

theorem write_of_call {data : Bytes} {written : UInt64}
    (h : service.call form (Path.normalize path) (.write (ByteRange.count data) data) w.service
      = (.ok written, s)) :
    ((finished service).object path).write form data w = (.ok (), { w with service := s }) := by
  have hobject : ((finished service).object path).isDir = false := hfile
  have hcall : ((finished service).object path).call form (.write (ByteRange.count data) data) w
      = (.ok written, { w with service := s }) := call_of_ok h
  rw [Object.write, Object.ensureFile_of_file hobject, pure_bind, Run.bind_of_ok hcall]
  rfl

theorem openRange_of_call {range : ByteRange} {size : UInt64} {reader : ρ}
    (h : service.call form (Path.normalize path) (.read range) w.service
      = (.ok (size, reader), s)) (function : String) :
    ((finished service).object path).openRange form function range w
      = (.ok ⟨reader, []⟩, { w with service := s }) := by
  have hobject : ((finished service).object path).isDir = false := hfile
  have hcall : ((finished service).object path).call form (.read range) w
      = (.ok (size, ⟨reader, []⟩), { w with service := s }) := call_of_ok h
  rw [Object.openRange, Object.ensureFile_of_file hobject, pure_bind, Run.bind_of_ok hcall]
  rfl

theorem openRange_of_failed {range : ByteRange} {e : Error}
    (h : service.call form (Path.normalize path) (.read range) w.service = (.error e, s))
    (function : String) :
    ∃ told, told.kind = e.kind ∧ ((finished service).object path).openRange form function range w
      = (.error (.failed told), { w with service := s }) := by
  have hobject : ((finished service).object path).isDir = false := hfile
  refine ⟨_, kind_callError service.info.scheme form (Path.normalize path) (.read range) e, ?_⟩
  rw [Object.openRange, Object.ensureFile_of_file hobject, pure_bind]
  exact Run.bind_of_error (call_of_error h)

end

end Operator

end ObjectStorage
