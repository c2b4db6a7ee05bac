import ObjectStorage.World

/-!
# Limits on concurrent calls

A limit has a number of permits.  A call takes one and gives it back when it ends, except that a
reader or a pager keeps the permit of its call until it is closed.  If no permit is free, an async
call waits for one; a blocking call fails for now.

* `Permits.free`, `Permits.take?`, `Permits.giveBack` — the free permits of every limit;
* `Limit.acquire`, `Limit.release` — the same as operations;
* `Limit.holding` — an operation that keeps its permit only if it succeeds.
-/

namespace ObjectStorage

namespace Permits

/-- The number of free permits of a limit. -/
def free (permits : List Nat) (limit : Nat) : Nat := permits[limit]?.getD 0

/-- Take a permit, if one is free. -/
def take? (permits : List Nat) (limit : Nat) : Option (List Nat) :=
  if free permits limit = 0 then none else some (permits.set limit (free permits limit - 1))

/-- Give a permit back. -/
def giveBack (permits : List Nat) (limit : Nat) : List Nat :=
  permits.set limit (free permits limit + 1)

end Permits

namespace Limit

variable {σ α : Type}

/-- The error of a blocking call for which no permit is free. -/
def exceeded (operation : Operation) : Error :=
  (Error.new .objectRateLimited "no permits left for blocking call").withOperation operation.name
    |>.withContext "permits" "0" |>.temporary

/-- Add a limit with a number of permits, all free; it is known by the number returned. -/
def add (permits : Nat) : Run σ Nat := fun w =>
  (.ok w.permits.length, { w with permits := w.permits ++ [permits] })

/-- Take a permit of a limit for an operation. -/
def acquire (limit : Nat) (operation : Operation) : Run σ Unit := fun w =>
  match Permits.take? w.permits limit with
  | some permits => (.ok (), { w with permits })
  | none =>
    (.error (if operation.isBlocking then .failed (exceeded operation) else .waiting), w)

/-- Give back one permit of each of some limits. -/
def release (limits : List Nat) : Run σ Unit := fun w =>
  (.ok (), { w with permits := limits.foldl Permits.giveBack w.permits })

/-- Run an operation with a permit, which is given back unless the operation succeeds. -/
def holding (limit : Nat) (operation : Operation) (x : Run σ α) : Run σ α := do
  acquire limit operation
  fun w => match x w with
    | (.ok a, w') => (.ok a, w')
    | (.error e, w') => (.error e, { w' with permits := Permits.giveBack w'.permits limit })

end Limit

end ObjectStorage
