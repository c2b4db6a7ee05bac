import ObjectStorage.Backoff
import ObjectStorage.World

/-!
# Trying again

An operation that fails for now is tried again after a delay, a limited number of times.  What
still fails then is marked persistent, so that nobody tries it again, and tells how often it was
retried.  Other errors and all values pass at once.

* `Error.exhausted` — the mark on an error that retrying did not cure;
* `Retry.run` — an operation with its retries;
* `attempts_of_ok`, `attempts_of_temporary` — what one attempt decides.
-/

namespace ObjectStorage

/-- Mark an error that is still there after so many retries. -/
def Error.exhausted (e : Error) (retries : Nat) : Error :=
  e.persistent.withContext "retried" (toString retries)

namespace Retry

variable {σ α : Type}

/-- Run an operation with at most `left` retries. -/
def attempts (b : Backoff) (operation : Operation) (path : String) (x : Run σ α) :
    (left : Nat) → Run σ α
  | 0 => do
    match ← x.attempt with
    | .ok a => pure a
    | .error e => .fail (if e.isTemporary then e.exhausted b.maxTimes else e)
  | left + 1 => do
    match ← x.attempt with
    | .ok a => pure a
    | .error e =>
      if e.isTemporary then
        let attempt := b.maxTimes - left
        .log (.retrying operation path attempt (b.delay attempt) e)
        attempts b operation path x left
      else .fail e

/-- Run an operation with retries. -/
def run (b : Backoff) (operation : Operation) (path : String) (x : Run σ α) : Run σ α :=
  attempts b operation path x b.maxTimes

section Lemmas

variable {b : Backoff} {operation : Operation} {path : String} {x : Run σ α} {w w' : World σ}

theorem attempts_of_ok {a : α} (h : x w = (.ok a, w')) (left : Nat) :
    attempts b operation path x left w = (.ok a, w') := by
  cases left with
  | zero =>
    rw [attempts, Run.bind_of_ok (Run.attempt_of_ok h)]
    rfl
  | succ left =>
    rw [attempts, Run.bind_of_ok (Run.attempt_of_ok h)]
    rfl

theorem attempts_of_temporary {e : Error} (h : x w = (.error (.failed e), w'))
    (he : e.isTemporary) (left : Nat) :
    attempts b operation path x (left + 1) w =
      attempts b operation path x left { w' with
        events := w'.events ++ [.retrying operation path (b.maxTimes - left)
          (b.delay (b.maxTimes - left)) e] } := by
  rw [attempts, Run.bind_of_ok (Run.attempt_of_failed h)]
  simp only [he, if_true]
  rfl

end Lemmas

end Retry

end ObjectStorage
