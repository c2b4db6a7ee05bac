import ObjectStorage.Error
import ObjectStorage.Metadata
import ObjectStorage.Operation

/-!
# Services

A service keeps objects.  It is called with a path and an action, and answers with a reply or an
error; replies to reads and lists are handles, from which bytes and pages are taken step by step.
A service is described by its functions on a state `σ`, with handles of the types `ρ` (readers)
and `π` (pagers), which stand for the store behind it, whatever that is.

* `Action` — what a service is called for, with all arguments;
* `Reply` — what it answers to an action;
* `Service`, `Service.readsOn` — a service, and how its readers are read to their end;
* `Error.unsupported`, `Service.nothing` — a service that can do nothing.
-/

namespace ObjectStorage

/-- What a service is called for. -/
inductive Action
  | create (mode : ObjectMode)
  | read (range : ByteRange)
  /-- The announced length need not be that of the data. -/
  | write (length : UInt64) (data : Bytes)
  | stat
  | delete
  | list
  deriving DecidableEq, Repr

/-- The verb of an action. -/
def Action.verb : Action → Verb
  | .create _ => .create
  | .read _ => .read
  | .write _ _ => .write
  | .stat => .stat
  | .delete => .delete
  | .list => .list

/-- The operation that an action is in one form of the interface. -/
def Action.operation (a : Action) (form : Form) : Operation := .call form a.verb

/-- What a service answers to an action, with readers `ρ` and pagers `π`: to a read the announced
size and a reader, to a write the number of bytes written. -/
@[reducible] def Reply (ρ π : Type) : Action → Type
  | .create _ => Unit
  | .read _ => UInt64 × ρ
  | .write _ _ => UInt64
  | .stat => Metadata
  | .delete => Unit
  | .list => π

/-- Change the handles of a reply. -/
def Reply.map {ρ π ρ' π' : Type} (onReader : ρ → ρ') (onPager : π → π') :
    (a : Action) → Reply ρ π a → Reply ρ' π' a
  | .create _, r => r
  | .read _, r => (r.1, onReader r.2)
  | .write _ _, r => r
  | .stat, r => r
  | .delete, r => r
  | .list, r => onPager r

/-- A page of a listing; `none` says that the listing is at its end. -/
abbrev Page := Option (List Entry)

/-- A service with states `σ`, readers `ρ` and pagers `π`. -/
structure Service (σ ρ π : Type) where
  info : ServiceInfo
  /-- Answer a call. -/
  call : Form → String → (action : Action) → σ → Except Error (Reply ρ π action) × σ
  /-- Take the next page from a pager. -/
  pull : Form → π → σ → Except Error Page × π × σ
  /-- Read at most so many bytes from a reader; none are left where none come. -/
  fill : Form → Nat → ρ → σ → Except IoError Bytes × ρ × σ
  /-- How many pages or errors a pager gives at most before its end. -/
  pagesLeft : π → σ → Nat
  /-- How many times a reader gives bytes or an error at most before its end. -/
  readsLeft : ρ → σ → Nat
  /-- How many directories can be listed at most before a listing fails or one is listed twice. -/
  dirsAtMost : σ → Nat
  /-- After which failures does an async loop that wants everything read on?  The loop belongs to
  another library; where nothing is said of it, it reads on after an interruption, as blocking loops
  do. -/
  asyncReadsOn : IoKind → Bool := fun kind => kind = .interrupted

/-- After which failures of a reader does a loop that wants everything read on?  A blocking loop
does so after an interruption and after nothing else. -/
def Service.readsOn {σ ρ π : Type} (service : Service σ ρ π) : Form → IoKind → Bool
  | .async, kind => service.asyncReadsOn kind
  | .blocking, kind => kind = .interrupted

/-- The error of a service that cannot do what it is called for. -/
def Error.unsupported (scheme : Scheme) (operation : Operation) : Error :=
  (Error.new .unsupported "operation is not supported").withOperation operation.name
    |>.withContext "service" scheme.name

/-- A service that has a description and nothing else. -/
def Service.nothing (info : ServiceInfo) : Service Unit Empty Empty where
  info
  call form _ action s := (.error (.unsupported info.scheme (action.operation form)), s)
  pull _ p := nomatch p
  fill _ _ r := nomatch r
  pagesLeft p := nomatch p
  readsLeft r := nomatch r
  dirsAtMost _ := 0

end ObjectStorage
