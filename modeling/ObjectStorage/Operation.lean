/-!
# Operations of a service

A service can be asked for its metadata and called for six verbs, each in two forms: the async
form may wait, the blocking form never does.  The name of an operation marks errors, log events
and metrics.

* `Form`, `Verb` — the two forms and the six verbs;
* `Operation` — the thirteen operations, with their names.
-/

namespace ObjectStorage

/-- The two halves of the interface of a service. -/
inductive Form
  | async | blocking
  deriving DecidableEq, Repr

/-- What a service can be called for. -/
inductive Verb
  | create | read | write | stat | delete | list
  deriving DecidableEq, Repr

/-- An operation of a service. -/
inductive Operation
  | metadata
  | call (form : Form) (verb : Verb)
  deriving DecidableEq, Repr

namespace Verb

/-- Every verb. -/
def all : List Verb := [.create, .read, .write, .stat, .delete, .list]

/-- The name of a verb. -/
def name : Verb → String
  | .create => "create"
  | .read => "read"
  | .write => "write"
  | .stat => "stat"
  | .delete => "delete"
  | .list => "list"

/-- The name of a verb as a choice among all of them. -/
def label : Verb → String
  | .create => "Create"
  | .read => "Read"
  | .write => "Write"
  | .stat => "Stat"
  | .delete => "Delete"
  | .list => "List"

end Verb

namespace Operation

/-- Every operation: metadata, then the async and the blocking verbs. -/
def all : List Operation :=
  .metadata :: Verb.all.map (.call .async) ++ Verb.all.map (.call .blocking)

/-- The operation that stands for none in particular. -/
def fallback : Operation := .metadata

/-- Does the operation never wait? -/
def isBlocking : Operation → Bool
  | .call .blocking _ => true
  | _ => false

/-- The name of an operation in errors, logs and metrics. -/
def name : Operation → String
  | .metadata => "metadata"
  | .call .async verb => verb.name
  | .call .blocking verb => "blocking_" ++ verb.name

/-- The name of an operation as a choice among all of them. -/
def label : Operation → String
  | .metadata => "Metadata"
  | .call .async verb => verb.label
  | .call .blocking verb => "Blocking" ++ verb.label

end Operation

end ObjectStorage
