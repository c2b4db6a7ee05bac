import ObjectStorage.Object
import ObjectStorage.Proofs.Range

/-!
# Files as a map

What a store of objects is for a user who knows nothing of how it keeps them: a map from canonical
paths to contents.  Directories are not in the map; every path with a slash at its end is one.

* `Request`, `Operator.perform` — what a user asks of an object, and asking an operator for it;
* `Answer`, `outcome?` — what comes back, errors by their kinds;
* `FileMap.step`, `FileMap.run` — what the map answers, and what it is afterwards;
* `FileMap.run_filter` — requests on other paths make no difference to those on one path.
-/

namespace ObjectStorage

/-- A content.  No buffer has more bytes than 64 bits can count. -/
abbrev Content := { bs : Bytes // bs.length < UInt64.size }

/-- The content of a file that was created and never written. -/
def Content.empty : Content := ⟨[], by decide⟩

/-- What can be asked of an object. -/
inductive Ask
  | create
  | write (content : Content)
  | read
  | rangeRead (lower upper : Bound)
  | metadata
  | exist
  | delete

/-- What a user asks, with the path as the user wrote it. -/
structure Request where
  form : Form
  path : String
  ask : Ask

/-- What comes back when nothing fails. -/
inductive Answer
  | done
  | bytes (bs : Bytes)
  | told (mode : ObjectMode) (length : Option Nat)
  | found (answer : Bool)
  deriving DecidableEq, Repr

/-- What the user sees of a result: the answer or the kind of the error.  There is nothing to see
while the operation waits. -/
def outcome? {α : Type} : Except Stop α → Option (Except ErrorKind α)
  | .ok a => some (.ok a)
  | .error (.failed e) => some (.error e.kind)
  | .error .waiting => none

namespace Request

/-- Is the request about this canonical path? -/
def concerns (path : String) (r : Request) : Bool := Path.normalize r.path = path

/-- Those of some results that belong to the requests about a path. -/
def picked {α : Type} (path : String) (requests : List Request) (results : List α) : List α :=
  ((requests.zip results).filter fun x => x.1.concerns path).map (·.2)

theorem picked_cons {α : Type} (path : String) (r : Request) (requests : List Request) (a : α)
    (results : List α) :
    picked path (r :: requests) (a :: results)
      = if r.concerns path then a :: picked path requests results
        else picked path requests results := by
  rw [picked, List.zip_cons_cons, List.filter_cons]
  split
  · rfl
  · rfl

theorem picked_map {α β : Type} (path : String) (requests : List Request) (f : α → β)
    (results : List α) :
    picked path requests (results.map f) = (picked path requests results).map f := by
  induction requests generalizing results with
  | nil => rfl
  | cons r requests ih =>
    cases results with
    | nil => rfl
    | cons a results =>
      rw [List.map_cons, picked_cons, picked_cons, ih]
      split
      · rfl
      · rfl

end Request

/-! ### Asking an operator -/

namespace Operator

variable {σ ρ π : Type}

/-- Ask an operator. -/
def perform (op : Operator σ ρ π) (r : Request) : Run σ Answer :=
  let o := op.object r.path
  match r.ask with
  | .create => do
    o.create r.form
    pure .done
  | .write content => do
    o.write r.form content.val
    pure .done
  | .read => do pure (.bytes (← o.read r.form))
  | .rangeRead lower upper => do pure (.bytes (← o.read r.form (.ofBounds lower upper)))
  | .metadata => do
    let m ← o.metadata r.form
    pure (.told m.mode (m.contentLength.map UInt64.toNat))
  | .exist => do pure (.found (← o.exists r.form))
  | .delete => do
    o.delete r.form
    pure .done

/-- Ask an operator one thing after the other, whatever comes back. -/
def performAll (op : Operator σ ρ π) :
    List Request → World σ → List (Except Stop Answer) × World σ
  | [], w => ([], w)
  | r :: requests, w =>
    let rest := performAll op requests (op.perform r w).2
    ((op.perform r w).1 :: rest.1, rest.2)

end Operator

/-! ### Asking the map -/

/-- The contents of files under their canonical paths. -/
abbrev FileMap := String → Option Content

namespace FileMap

/-- The map without files. -/
def empty : FileMap := fun _ => none

/-- The map with a file changed: to a content, or removed. -/
def put (m : FileMap) (path : String) (held : Option Content) : FileMap :=
  fun p => if p = path then held else m p

@[simp] theorem put_self (m : FileMap) (path : String) (held : Option Content) :
    m.put path held path = held := if_pos rfl

theorem put_ne (m : FileMap) {path p : String} (held : Option Content) (h : p ≠ path) :
    m.put path held p = m p := if_neg h

theorem put_get (m : FileMap) (path : String) : m.put path (m path) = m := by
  funext p
  by_cases h : p = path
  · rw [h, put_self]
  · rw [put_ne m _ h]

/-- The bytes that are asked for of a file, if the file is there. -/
def bytesOf (held : Option Content) (f : Bytes → Bytes) : Except ErrorKind Answer :=
  match held with
  | some content => .ok (.bytes (f content.val))
  | none => .error .objectNotFound

/-- What is told of a file, if it is there. -/
def toldOf (held : Option Content) : Except ErrorKind Answer :=
  match held with
  | some content => .ok (.told .file (some content.val.length))
  | none => .error .objectNotFound

/-- The answer of a file, and what the file holds afterwards. -/
def fileStep (held : Option Content) : Ask → Except ErrorKind Answer × Option Content
  | .create => (.ok .done, some .empty)
  | .write content => (.ok .done, some content)
  | .read => (bytesOf held id, held)
  | .rangeRead lower upper => (bytesOf held (ByteRange.between lower upper), held)
  | .metadata => (toldOf held, held)
  | .exist => (.ok (.found held.isSome), held)
  | .delete => (.ok .done, none)

/-- The answer of a directory. -/
def dirAnswer : Ask → Except ErrorKind Answer
  | .create | .delete => .ok .done
  | .write _ | .read | .rangeRead _ _ => .error .objectIsADirectory
  | .metadata => .ok (.told .dir none)
  | .exist => .ok (.found true)

/-- The answer to a request, and the map afterwards. -/
def step (m : FileMap) (r : Request) : Except ErrorKind Answer × FileMap :=
  let path := Path.normalize r.path
  if Path.isDir path then (dirAnswer r.ask, m)
  else ((fileStep (m path) r.ask).1, m.put path (fileStep (m path) r.ask).2)

/-- The answers to requests, and the map afterwards. -/
def run : FileMap → List Request → List (Except ErrorKind Answer) × FileMap
  | m, [] => ([], m)
  | m, r :: requests =>
    let rest := run (step m r).2 requests
    ((step m r).1 :: rest.1, rest.2)

theorem step_of_dir (m : FileMap) {r : Request} (h : Path.isDir (Path.normalize r.path) = true) :
    step m r = (dirAnswer r.ask, m) := by
  simp only [step, h, if_true]

theorem step_of_file (m : FileMap) {r : Request}
    (h : Path.isDir (Path.normalize r.path) = false) :
    step m r = ((fileStep (m (Path.normalize r.path)) r.ask).1,
      m.put (Path.normalize r.path) (fileStep (m (Path.normalize r.path)) r.ask).2) := by
  simp only [step, h, Bool.false_eq_true, if_false]

/-- A request that only looks at its file leaves the map as it is. -/
theorem step_of_look (m : FileMap) {r : Request} {answer : Except ErrorKind Answer}
    (h : Path.isDir (Path.normalize r.path) = false)
    (hlook : fileStep (m (Path.normalize r.path)) r.ask
      = (answer, m (Path.normalize r.path))) : step m r = (answer, m) := by
  rw [step_of_file m h, hlook, put_get]

/-! ### One path at a time -/

/-- A request on another path leaves the file alone. -/
theorem step_frame (m : FileMap) {r : Request} {path : String}
    (h : r.concerns path = false) : (step m r).2 path = m path := by
  have hne : path ≠ Path.normalize r.path := fun heq => by simp [Request.concerns, heq] at h
  cases hdir : Path.isDir (Path.normalize r.path) with
  | true => rw [step_of_dir m hdir]
  | false =>
    rw [step_of_file m hdir]
    dsimp only
    rw [put_ne m _ hne]

/-- A request sees nothing but the file on its path. -/
theorem step_congr {m m' : FileMap} {r : Request} {path : String}
    (h : r.concerns path = true) (hm : m path = m' path) :
    (step m r).1 = (step m' r).1 ∧ (step m r).2 path = (step m' r).2 path := by
  have hpath : Path.normalize r.path = path := by simpa [Request.concerns] using h
  cases hdir : Path.isDir (Path.normalize r.path) with
  | true =>
    rw [step_of_dir m hdir, step_of_dir m' hdir]
    exact ⟨rfl, hm⟩
  | false =>
    rw [step_of_file m hdir, step_of_file m' hdir, hpath, hm]
    dsimp only
    rw [put_self, put_self]
    exact ⟨rfl, rfl⟩

/-- The answers on a path, and what is on the path in the end, are those of a run with nothing but
the requests on that path. -/
theorem run_filter {m m' : FileMap} {path : String} (hm : m path = m' path)
    (requests : List Request) :
    Request.picked path requests (run m requests).1
        = (run m' (requests.filter (Request.concerns path))).1
      ∧ (run m requests).2 path = (run m' (requests.filter (Request.concerns path))).2 path := by
  induction requests generalizing m m' with
  | nil => exact ⟨rfl, hm⟩
  | cons r requests ih =>
    rw [run, Request.picked_cons]
    cases hr : r.concerns path with
    | true =>
      obtain ⟨hanswer, hafter⟩ := step_congr hr hm
      obtain ⟨hanswers, hend⟩ := ih hafter
      rw [List.filter_cons_of_pos hr, run, if_pos rfl, hanswers, hanswer]
      exact ⟨rfl, hend⟩
    | false =>
      have hafter : (step m r).2 path = m' path := (step_frame m hr).trans hm
      obtain ⟨hanswers, hend⟩ := ih hafter
      rw [List.filter_cons_of_neg (by simp [hr]), if_neg (by simp), hanswers]
      exact ⟨rfl, hend⟩

end FileMap

end ObjectStorage
