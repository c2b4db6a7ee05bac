import ObjectStorage.Service

/-!
# Services that follow a script

A scripted service answers each call with the next outcome that was laid down for its operation,
and keeps a record of the calls.  It shows what layers make of a given behaviour.

* `Scripted.Outcome` — how a call is to end;
* `Scripted.State` — the outcomes that are left, and the calls so far;
* `Scripted.service` — the service.
-/

namespace ObjectStorage.Scripted

/-- What a scripted reader gives, read by read. -/
abbrev Pieces := List (Except IoError Bytes)

/-- What a scripted pager gives, pull by pull. -/
abbrev Pages := List (Except Error Page)

/-- How a call is to end. -/
inductive Outcome
  | failed (error : Error)
  /-- A call without a value succeeds. -/
  | done
  | read (size : UInt64) (pieces : Pieces)
  | written (size : UInt64)
  | stat (metadata : Metadata)
  | list (pages : Pages)

/-- A call that reached the service. -/
structure Call where
  operation : Operation
  path : String
  action : Action

/-- The outcomes that are left for each operation, and the calls so far, the latest first. -/
structure State where
  outcomes : List (Operation × List Outcome)
  calls : List Call := []

namespace State

/-- The outcomes that are left for an operation. -/
def left (s : State) (operation : Operation) : List Outcome :=
  (s.outcomes.lookup operation).getD []

/-- Leave these outcomes for an operation. -/
def leave (s : State) (operation : Operation) (outcomes : List Outcome) : State :=
  { s with outcomes := (operation, outcomes) :: s.outcomes.filter (·.1 ≠ operation) }

end State

/-- The error of a call for which nothing was laid down. -/
def exhausted : Error := .new .unexpected "script exhausted"

/-- The reply that an outcome is to an action; an outcome of another verb is as good as none. -/
def reply : (action : Action) → Outcome → Except Error (Reply Pieces Pages action)
  | _, .failed e => .error e
  | .create _, .done => .ok ()
  | .delete, .done => .ok ()
  | .read _, .read size pieces => .ok (size, pieces)
  | .write _ _, .written size => .ok size
  | .stat, .stat metadata => .ok metadata
  | .list, .list pages => .ok pages
  | _, _ => .error exhausted

/-- Answer a call. -/
def call (form : Form) (path : String) (action : Action) (s : State) :
    Except Error (Reply Pieces Pages action) × State :=
  let operation := action.operation form
  let s := { s with calls := ⟨operation, path, action⟩ :: s.calls }
  match s.left operation with
  | [] => (.error exhausted, s)
  | outcome :: rest => (reply action outcome, s.leave operation rest)

/-- The next page or error of a pager. -/
def pull (pages : Pages) (s : State) : Except Error Page × Pages × State :=
  match pages with
  | [] => (.ok none, [], s)
  | page :: rest => (page, rest, s)

/-- The next piece of a reader, split if it is longer than asked for. -/
def fill (n : Nat) (pieces : Pieces) (s : State) : Except IoError Bytes × Pieces × State :=
  match pieces with
  | [] => (.ok [], [], s)
  | .error e :: rest => (.error e, rest, s)
  | .ok data :: rest =>
    if data.length ≤ n then (.ok data, rest, s)
    else (.ok (data.take n), .ok (data.drop n) :: rest, s)

/-- How many reads a piece takes at most. -/
def readsOf : Except IoError Bytes → Nat
  | .error _ => 1
  | .ok data => data.length + 1

/-- The service with a description that follows the script in its state. -/
def service (info : ServiceInfo) : Service State Pieces Pages where
  info
  call
  pull _ := pull
  fill _ := fill
  pagesLeft pages _ := pages.length
  readsLeft pieces _ := pieces.foldl (fun n piece => n + readsOf piece) 0
  dirsAtMost s := s.outcomes.foldl (fun n (_, l) => n + l.length) 0

end ObjectStorage.Scripted
