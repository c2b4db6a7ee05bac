import ObjectStorage.Event
import ObjectStorage.Service

/-!
# What operations change

Operations run in a world: the state of a service, the permits that limits have to give, the log
and the metrics.  An operation ends with a value or an error, or would wait for a permit that
nobody gives back; what it changed before stays changed.

* `World` — what operations change;
* `Stop`, `Run` — operations and how they end without a value;
* `Run.attempt`, `Run.mapError` — an operation whose error is looked at or changed.
-/

namespace ObjectStorage

/-- One operation as the metrics see it. -/
structure Sample where
  scheme : Scheme
  operation : Operation
  /-- The kind of its error, if it failed. -/
  failure : Option ErrorKind
  deriving DecidableEq, Repr

/-- What operations on a service with states `σ` change. -/
structure World (σ : Type) where
  service : σ
  /-- For each limit the permits that are free. -/
  permits : List Nat := []
  /-- What was logged, oldest first. -/
  events : List Event := []
  /-- What was measured, oldest first. -/
  samples : List Sample := []
  /-- What was printed, in pieces, the latest first. -/
  printed : List Bytes := []

/-- The world with another service in it. -/
def World.withService {σ τ : Type} (w : World σ) (service : τ) : World τ :=
  ⟨service, w.permits, w.events, w.samples, w.printed⟩

/-- Why an operation gives no value. -/
inductive Stop
  | failed (error : Error)
  /-- All permits are taken, and the operation waits until one is given back. -/
  | waiting

/-- An operation. -/
abbrev Run (σ α : Type) := ExceptT Stop (StateM (World σ)) α

namespace Run

variable {σ τ α β : Type}

/-- Run an operation. -/
def exec (x : Run σ α) (w : World σ) : Except Stop α × World σ := x w

/-- Fail. -/
def fail (e : Error) : Run σ α := throw (.failed e)

/-- Succeed or fail as told. -/
def ofExcept : Except Error α → Run σ α
  | .ok a => pure a
  | .error e => fail e

/-- A step of the service. -/
def onService (f : σ → Except Error α × σ) : Run σ α := fun w =>
  let (r, s) := f w.service
  ((match r with | .ok a => .ok a | .error e => .error (.failed e)), { w with service := s })

/-- A step of the service that cannot fail. -/
def modifyService (f : σ → α × σ) : Run σ α := fun w =>
  let (a, s) := f w.service
  (.ok a, { w with service := s })

/-- The state of the service. -/
def getService : Run σ σ := fun w => (.ok w.service, w)

/-- Log an event. -/
def log (e : Event) : Run σ Unit := fun w => (.ok (), { w with events := w.events ++ [e] })

/-- Measure an operation. -/
def measure (s : Sample) : Run σ Unit := fun w =>
  (.ok (), { w with samples := w.samples ++ [s] })

/-- Run an operation and look at its error. -/
def attempt (x : Run σ α) : Run σ (Except Error α) := fun w =>
  match x w with
  | (.ok a, w') => (.ok (.ok a), w')
  | (.error (.failed e), w') => (.ok (.error e), w')
  | (.error .waiting, w') => (.error .waiting, w')

/-- Run an operation and change its error. -/
def mapError (f : Error → Error) (x : Run σ α) : Run σ α := fun w =>
  match x w with
  | (.error (.failed e), w') => (.error (.failed (f e)), w')
  | r => r

/-- Run an operation on a service that has a part more than the world: the result, what became of
the part, and the world afterwards. -/
def withPart (x : Run (σ × τ) α) (t : τ) (w : World σ) : Except Stop α × τ × World σ :=
  let (r, w') := x (w.withService (w.service, t))
  (r, w'.service.2, w'.withService w'.service.1)

theorem bind_apply (x : Run σ α) (f : α → Run σ β) (w : World σ) :
    (x >>= f) w = match x w with
      | (.ok a, w') => f a w'
      | (.error e, w') => (.error e, w') := by
  show (ExceptT.bind x f) w = _
  simp only [ExceptT.bind, ExceptT.mk, bind, StateT.bind]
  cases h : x w with
  | mk r w' => cases r <;> rfl

theorem bind_of_ok {x : Run σ α} {f : α → Run σ β} {w w' : World σ} {a : α}
    (h : x w = (.ok a, w')) : (x >>= f) w = f a w' := by
  rw [bind_apply, h]

theorem bind_of_error {x : Run σ α} {f : α → Run σ β} {w w' : World σ} {s : Stop}
    (h : x w = (.error s, w')) : (x >>= f) w = (.error s, w') := by
  rw [bind_apply, h]

/-- A step of the service ends as the service answers. -/
theorem onService_apply (f : σ → Except Error α × σ) (w : World σ) :
    onService f w = ((f w.service).1.mapError .failed, { w with service := (f w.service).2 }) := by
  rw [onService]
  rcases f w.service with ⟨e | a, s⟩ <;> rfl

theorem attempt_of_ok {x : Run σ α} {w w' : World σ} {a : α} (h : x w = (.ok a, w')) :
    x.attempt w = (.ok (.ok a), w') := by
  simp only [attempt, h]

theorem attempt_of_failed {x : Run σ α} {w w' : World σ} {e : Error}
    (h : x w = (.error (.failed e), w')) : x.attempt w = (.ok (.error e), w') := by
  simp only [attempt, h]

theorem mapError_of_ok {f : Error → Error} {x : Run σ α} {w w' : World σ} {a : α}
    (h : x w = (.ok a, w')) : x.mapError f w = (.ok a, w') := by
  simp only [mapError, h]

theorem mapError_of_failed {f : Error → Error} {x : Run σ α} {w w' : World σ} {e : Error}
    (h : x w = (.error (.failed e), w')) : x.mapError f w = (.error (.failed (f e)), w') := by
  simp only [mapError, h]

@[simp] theorem pure_apply (a : α) (w : World σ) : (pure a : Run σ α) w = (.ok a, w) := rfl

@[simp] theorem fail_apply (e : Error) (w : World σ) :
    (fail e : Run σ α) w = (.error (.failed e), w) := rfl

end Run

end ObjectStorage
