import ObjectStorage.Operator
import ObjectStorage.Reading

/-!
# Objects

An object is a path within an operator, in canonical form; a slash at its end makes it a
directory.  Each operation comes in an async and a blocking form.

* `Object`, `Operator.object` — a handle, which costs nothing;
* `Object.create`, `Object.read`, `Object.write`, `Object.metadata`, `Object.delete`,
  `Object.exists`, `Object.pager` — what can be done with it;
* `Operator.check` — can the service be reached?
-/

namespace ObjectStorage

/-- A path within an operator, in canonical form. -/
structure Object (σ ρ π : Type) where
  operator : Operator σ ρ π
  path : String

variable {σ ρ π : Type}

/-- The object at a path that a user or a service supplied. -/
def Operator.object (op : Operator σ ρ π) (path : String) : Object σ ρ π :=
  ⟨op, Path.normalize path⟩

namespace Object

/-- The last segment of the path. -/
def name (o : Object σ ρ π) : String := Path.name o.path

/-- The absolute path, with the root of the service. -/
def id (o : Object σ ρ π) : Run σ String := do
  let info ← o.operator.info
  pure (Path.underRoot info.root o.path)

/-- Is the object a directory, by its path? -/
def isDir (o : Object σ ρ π) : Bool := Path.isDir o.path

/-- The name of a function of objects in errors. -/
def label (form : Form) (function : String) : String :=
  "Object::" ++ (match form with | .async => "" | .blocking => "blocking_") ++ function

/-- Refuse a directory. -/
def ensureFile (o : Object σ ρ π) (form : Form) (function : String) : Run σ Unit :=
  if o.isDir then
    .fail <| (Error.new .objectIsADirectory "object is a directory").withOperation
      (label form function) |>.withContext "path" o.path
  else pure ()

/-- Refuse a file. -/
def ensureDir (o : Object σ ρ π) (form : Form) (function : String) : Run σ Unit :=
  if o.isDir then pure ()
  else
    .fail <| (Error.new .objectNotADirectory "object is not a directory").withOperation
      (label form function) |>.withContext "path" o.path

/-- Call the service at the path of the object. -/
def call (o : Object σ ρ π) (form : Form) (action : Action) :
    Run σ (Reply (Reader ρ) (Pager π) action) :=
  o.operator.call form o.path action

/-- Create an empty file or a directory. -/
def create (o : Object σ ρ π) (form : Form) : Run σ Unit :=
  o.call form (.create (if o.isDir then .dir else .file))

/-- What the service tells of the object. -/
def metadata (o : Object σ ρ π) (form : Form) : Run σ Metadata := o.call form .stat

/-- Turn the error that an object is missing into a value. -/
def ifMissing {α : Type} (missing : α) (x : Run σ α) : Run σ α := do
  match ← x.attempt with
  | .ok a => pure a
  | .error e => if e.kind = .objectNotFound then pure missing else .fail e

/-- Is there such an object? -/
def «exists» (o : Object σ ρ π) (form : Form) : Run σ Bool :=
  ifMissing false do
    let _ ← o.metadata form
    pure true

/-- Open a reader on a range of the content. -/
def openRange (o : Object σ ρ π) (form : Form) (function : String) (range : ByteRange) :
    Run σ (Reader ρ) := do
  o.ensureFile form function
  let (_, reader) ← o.call form (.read range)
  pure reader

/-- A reader on a range of the content. -/
def reader (o : Object σ ρ π) (form : Form) (range : ByteRange := .full) : Run σ (Reader ρ) :=
  o.openRange form "range_reader" range

/-- The bytes of a range of the content. -/
def read (o : Object σ ρ π) (form : Form) (range : ByteRange := .full) : Run σ Bytes := do
  let reader ← o.openRange form "range_read" range
  reader.readAll o.operator.service form fun e =>
    (e.withOperation (label form "range_read")).withContext "path" o.path

/-- Replace the content. -/
def write (o : Object σ ρ π) (form : Form) (data : Bytes) : Run σ Unit := do
  o.ensureFile form "write"
  let _ ← o.call form (.write (ByteRange.count data) data)

/-- Delete the object; it need not exist. -/
def delete (o : Object σ ρ π) (form : Form) : Run σ Unit := o.call form .delete

/-- A pager of the children of a directory. -/
def pager (o : Object σ ρ π) (form : Form) : Run σ (Pager π) := do
  o.ensureDir form "list"
  o.call form .list

end Object

/-- Check that the service can be reached; its root need not exist. -/
def Operator.check (op : Operator σ ρ π) : Run σ Unit :=
  Object.ifMissing () do
    let _ ← (op.object Path.root).metadata .async

end ObjectStorage
