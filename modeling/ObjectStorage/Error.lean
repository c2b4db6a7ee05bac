import ObjectStorage.IoError

/-!
# Errors of storage operations

Every operation fails with an `Error`.  Callers branch on its kind, and may try again while it is
temporary.  On its way up an error is only added to: each layer appends context, and a later
operation name pushes the earlier one into the context as `called`.

* `ErrorKind`, `ErrorStatus` — what failed, and whether trying again may help;
* `Error` — kind, message, status, operation, context and source;
* `Error.withOperation`, `Error.withContext`, `Error.temporary`, … — what layers add;
* `Error.classifyIo`, `Error.ofIo` — the error that a failure of input and output is.
-/

namespace ObjectStorage

/-- What a storage operation can fail with. -/
inductive ErrorKind
  | unexpected | unsupported | backendConfigInvalid | objectNotFound | objectPermissionDenied
  | objectIsADirectory | objectNotADirectory | objectAlreadyExists | objectRateLimited
  deriving DecidableEq, Repr

namespace ErrorKind

/-- Every kind with its name. -/
def names : List (ErrorKind × String) :=
  [(.unexpected, "Unexpected"), (.unsupported, "Unsupported"),
    (.backendConfigInvalid, "BackendConfigInvalid"), (.objectNotFound, "ObjectNotFound"),
    (.objectPermissionDenied, "ObjectPermissionDenied"),
    (.objectIsADirectory, "ObjectIsADirectory"), (.objectNotADirectory, "ObjectNotADirectory"),
    (.objectAlreadyExists, "ObjectAlreadyExists"), (.objectRateLimited, "ObjectRateLimited")]

/-- The name of a kind. -/
def name (k : ErrorKind) : String := (names.lookup k).getD ""

/-- The kind of a name. -/
def ofName? (s : String) : Option ErrorKind :=
  (names.find? fun (_, name) => name == s).map (·.1)

end ErrorKind

/-- Whether trying again may help. -/
inductive ErrorStatus
  /-- Nothing changes without outside help: never try again. -/
  | permanent
  /-- The service is busy or away for now: trying again may help. -/
  | temporary
  /-- Was temporary, and trying again did not help. -/
  | persistent
  deriving DecidableEq, Repr

/-- The word for a status in messages. -/
def ErrorStatus.word : ErrorStatus → String
  | .permanent => "permanent"
  | .temporary => "temporary"
  | .persistent => "persistent"

/-- The name of a status. -/
def ErrorStatus.name : ErrorStatus → String
  | .permanent => "Permanent"
  | .temporary => "Temporary"
  | .persistent => "Persistent"

mutual

/-- Why a storage operation failed. -/
structure Error where
  kind : ErrorKind
  message : String
  status : ErrorStatus
  /-- The operation that failed, empty while nobody has said so. -/
  operation : String
  /-- Facts added on the way, oldest first; keys may repeat. -/
  context : List (String × String)
  source : Source

/-- What an error goes back to. -/
inductive Source
  | none
  | text (message : String)
  | io (error : IoError)
  | error (error : Error)

end

instance : Inhabited Source := ⟨.none⟩

namespace Error

/-- A permanent error with nothing added yet. -/
def new (kind : ErrorKind) (message : String) : Error :=
  ⟨kind, message, .permanent, "", [], .none⟩

instance : Inhabited Error := ⟨.new .unexpected ""⟩

/-- Name the operation that failed.  A name that was there already is kept as context `called`. -/
def withOperation (e : Error) (operation : String) : Error :=
  if e.operation = "" then { e with operation }
  else { e with operation, context := e.context ++ [("called", e.operation)] }

/-- Add a fact. -/
def withContext (e : Error) (key value : String) : Error :=
  { e with context := e.context ++ [(key, value)] }

/-- Say what the error goes back to. -/
def withSource (e : Error) (source : Source) : Error := { e with source }

/-- Mark the error as one that trying again may cure. -/
def temporary (e : Error) : Error := { e with status := .temporary }

/-- Mark the error as one that trying again does not cure. -/
def permanent (e : Error) : Error := { e with status := .permanent }

/-- Mark the error as still there after trying again. -/
def persistent (e : Error) : Error := { e with status := .persistent }

/-- May trying again help? -/
def isTemporary (e : Error) : Bool := e.status = .temporary

/-- Is the error still there after trying again? -/
def isPersistent (e : Error) : Bool := e.status = .persistent

/-- The first fact added under a key. -/
def lookup (e : Error) (key : String) : Option String := e.context.lookup key

/-- The kind and status that a failure of input and output has as an error of storage. -/
def classifyIo : IoKind → ErrorKind × ErrorStatus
  | .notFound => (.objectNotFound, .permanent)
  | .permissionDenied => (.objectPermissionDenied, .permanent)
  | .alreadyExists => (.objectAlreadyExists, .permanent)
  | .interrupted | .wouldBlock | .timedOut | .connectionReset | .connectionAborted =>
    (.unexpected, .temporary)
  | _ => (.unexpected, .permanent)

/-- A failure of input and output as an error of storage. -/
def ofIo (e : IoError) : Error :=
  ⟨(classifyIo e.kind).1, "io error", (classifyIo e.kind).2, "", [], .io e⟩

section Lemmas

variable (e : Error) (op key value : String)

@[simp] theorem kind_withOperation : (e.withOperation op).kind = e.kind := by
  unfold withOperation; split <;> rfl

@[simp] theorem message_withOperation : (e.withOperation op).message = e.message := by
  unfold withOperation; split <;> rfl

@[simp] theorem status_withOperation : (e.withOperation op).status = e.status := by
  unfold withOperation; split <;> rfl

@[simp] theorem source_withOperation : (e.withOperation op).source = e.source := by
  unfold withOperation; split <;> rfl

@[simp] theorem operation_withOperation : (e.withOperation op).operation = op := by
  unfold withOperation; split <;> rfl

theorem context_withOperation : (e.withOperation op).context
    = e.context ++ if e.operation = "" then [] else [("called", e.operation)] := by
  unfold withOperation; split <;> simp

@[simp] theorem kind_withContext : (e.withContext key value).kind = e.kind := rfl

@[simp] theorem message_withContext : (e.withContext key value).message = e.message := rfl

@[simp] theorem status_withContext : (e.withContext key value).status = e.status := rfl

@[simp] theorem source_withContext : (e.withContext key value).source = e.source := rfl

@[simp] theorem operation_withContext : (e.withContext key value).operation = e.operation := rfl

@[simp] theorem context_withContext :
    (e.withContext key value).context = e.context ++ [(key, value)] := rfl

end Lemmas

end Error

end ObjectStorage
