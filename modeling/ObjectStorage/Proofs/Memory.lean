import ObjectStorage.Memory
import ObjectStorage.Proofs.FileMap
import ObjectStorage.Proofs.Operator
import ObjectStorage.Proofs.Path.Key
import ObjectStorage.Proofs.Reading

/-!
# The memory service as a map of files

A finished operator on the memory service answers every request as the map of files does.  Its
table holds the contents under keys, which are made of root and path; as different paths have
different keys, the table represents a map whatever else is in it.

* `Memory.operator` — a finished operator on the memory service;
* `Memory.Represents` — a table holds the files of a map;
* `Memory.perform_refines` — one request;
* `Memory.operator_refines_fileMap` — every sequence of requests.
-/

namespace ObjectStorage.Memory

/-- The finished operator on the memory service below a root that a user supplied. -/
def operator (name root : String) : Operator (Table Bytes) Cursor Page :=
  .finished (service name (Path.normalizeRoot root))

/-- Below the root a table holds the files of a map. -/
def Represents (root : String) (t : Table Bytes) (m : FileMap) : Prop :=
  ∀ path, path ≠ "" → Path.isDir path = false →
    t.get? (Path.key root path) = (m path).map Subtype.val

theorem readsBuffers (name root : String) : ReadsBuffers (service name root) where
  fill _ _ _ _ := rfl
  readsLeft _ _ := rfl

/-! ### Changes of the table -/

theorem represents_empty (root : String) : Represents root .empty .empty :=
  fun _ _ _ => rfl

/-- To change the value of the key of a path is to change the file on that path. -/
theorem represents_put {root : String} {t t' : Table Bytes} {m : FileMap} {path : String}
    (h : Represents root t m) (hne : path ≠ "") (held : Option Content)
    (hget : ∀ key, t'.get? key
      = if key = Path.key root path then held.map Subtype.val else t.get? key) :
    Represents root t' (m.put path held) := by
  intro p hp hfile
  rw [hget]
  by_cases heq : p = path
  · rw [heq, if_pos rfl, FileMap.put_self]
  · have hkey : Path.key root p ≠ Path.key root path :=
      fun hkey => heq (Path.key_injective hp hne hkey)
    rw [if_neg hkey, FileMap.put_ne m held heq]
    exact h p hp hfile

/-- What a map has for a directory does not count. -/
theorem represents_put_dir {root : String} {t : Table Bytes} {m : FileMap} {path : String}
    {held : Option Content} (h : Represents root t (m.put path held))
    (hdir : Path.isDir path = true) : Represents root t m := by
  intro p hp hfile
  have hne : p ≠ path := fun heq => by
    rw [heq, hdir] at hfile
    contradiction
  rw [h p hp hfile, FileMap.put_ne m held hne]

/-! ### Calls -/

theorem call_read (name root : String) (form : Form) (path : String) (range : ByteRange)
    (t : Table Bytes) :
    (service name root).call form path (.read range) t
      = Kv.andThen (.ok (t.get? (Path.key root path)), t) fun value => (do
          let data := range.cut (← Kv.present value)
          pure (ByteRange.count data, ⟨data⟩)) := rfl

theorem call_stat (name root : String) (form : Form) (path : String) (t : Table Bytes) :
    (service name root).call form path .stat t
      = if Path.isDir path then (.ok Kv.dirMetadata, t)
        else Kv.andThen (.ok (t.get? (Path.key root path)), t) fun value => (do
          pure (Kv.fileMetadata (← Kv.present value))) := rfl

section

variable (name root : String) (form : Form) (path : String) (w : World (Table Bytes))

/-- The object at a path, of the finished operator below a root. -/
def object : Object (Table Bytes) Cursor Page :=
  (Operator.finished (service name root)).object path

/-- What the table has under the key of a path. -/
def value (root path : String) (t : Table Bytes) : Option Bytes :=
  t.get? (Path.key root (Path.normalize path))

theorem delete_apply :
    (object name root path).delete form w
      = (.ok (), { w with
          service := w.service.erase (Path.key root (Path.normalize path)) }) :=
  Operator.call_of_ok rfl

section Files

variable (h : Path.isDir (Path.normalize path) = false)
include h

theorem create_file :
    (object name root path).create form w
      = (.ok (), { w with
          service := w.service.insert (Path.key root (Path.normalize path)) [] }) := by
  rw [Object.create, Object.isDir, object, Operator.object, h]
  exact Operator.call_of_ok rfl

theorem write_file (data : Bytes) :
    (object name root path).write form data w
      = (.ok (), { w with
          service := w.service.insert (Path.key root (Path.normalize path)) data }) :=
  Operator.write_of_call h rfl

theorem openRange_file {data : Bytes} (hvalue : value root path w.service = some data)
    (function : String) (range : ByteRange) :
    (object name root path).openRange form function range w
      = (.ok ⟨⟨range.cut data⟩, []⟩, w) := by
  have hservice : (service name root).call form (Path.normalize path) (.read range) w.service
      = (.ok (ByteRange.count (range.cut data), ⟨range.cut data⟩), w.service) := by
    rw [call_read, show w.service.get? _ = some data from hvalue]
    rfl
  exact Operator.openRange_of_call h hservice function

theorem read_file {data : Bytes} (hvalue : value root path w.service = some data)
    (range : ByteRange) :
    (object name root path).read form range w = (.ok (range.cut data), w) := by
  rw [Object.read, Run.bind_of_ok (openRange_file name root form path w h hvalue _ range)]
  exact (readsBuffers name root).readAll_buffer form _ _ w

theorem metadata_file {data : Bytes} (hvalue : value root path w.service = some data) :
    (object name root path).metadata form w = (.ok (Kv.fileMetadata data), w) := by
  have hservice : (service name root).call form (Path.normalize path) .stat w.service
      = (.ok (Kv.fileMetadata data), w.service) := by
    rw [call_stat, h, if_neg (by simp), show w.service.get? _ = some data from hvalue]
    rfl
  exact Operator.call_of_ok hservice

theorem openRange_missing (hvalue : value root path w.service = none) (function : String)
    (range : ByteRange) :
    ∃ e, e.kind = .objectNotFound
      ∧ (object name root path).openRange form function range w = (.error (.failed e), w) := by
  have hservice : (service name root).call form (Path.normalize path) (.read range) w.service
      = (.error Kv.notFound, w.service) := by
    rw [call_read, show w.service.get? _ = none from hvalue]
    rfl
  exact Operator.openRange_of_failed h hservice function

theorem read_missing (hvalue : value root path w.service = none) (range : ByteRange) :
    ∃ e, e.kind = .objectNotFound
      ∧ (object name root path).read form range w = (.error (.failed e), w) := by
  obtain ⟨e, hkind, hopen⟩ :=
    openRange_missing name root form path w h hvalue "range_read" range
  exact ⟨e, hkind, Run.bind_of_error hopen⟩

theorem metadata_missing (hvalue : value root path w.service = none) :
    ∃ e, e.kind = .objectNotFound
      ∧ (object name root path).metadata form w = (.error (.failed e), w) := by
  have hservice : (service name root).call form (Path.normalize path) .stat w.service
      = (.error Kv.notFound, w.service) := by
    rw [call_stat, h, if_neg (by simp), show w.service.get? _ = none from hvalue]
    rfl
  exact ⟨_, Operator.kind_callError .memory form (Path.normalize path) .stat Kv.notFound,
    Operator.call_of_error hservice⟩

end Files

section Directories

variable (h : Path.isDir (Path.normalize path) = true)
include h

theorem create_dir : (object name root path).create form w = (.ok (), w) := by
  rw [Object.create, Object.isDir, object, Operator.object, h]
  exact Operator.call_of_ok rfl

theorem write_dir (data : Bytes) :
    ∃ e, e.kind = .objectIsADirectory
      ∧ (object name root path).write form data w = (.error (.failed e), w) := by
  have hdir : (object name root path).isDir = true := h
  exact Object.write_of_dir hdir form data w

theorem read_dir (range : ByteRange) :
    ∃ e, e.kind = .objectIsADirectory
      ∧ (object name root path).read form range w = (.error (.failed e), w) := by
  have hdir : (object name root path).isDir = true := h
  exact Object.read_of_dir hdir form range w

theorem metadata_dir :
    (object name root path).metadata form w = (.ok Kv.dirMetadata, w) := by
  have hservice : (service name root).call form (Path.normalize path) .stat w.service
      = (.ok Kv.dirMetadata, w.service) := by
    rw [call_stat, h, if_pos rfl]
  exact Operator.call_of_ok hservice

end Directories

end

/-! ### Requests -/

variable {name root : String} {m : FileMap} {r : Request} {w : World (Table Bytes)}

/-- The operator answers a request as the map does, and its table represents what the map has
become. -/
def Agrees (name root : String) (m : FileMap) (r : Request) (w : World (Table Bytes)) : Prop :=
  outcome? ((Operator.finished (service name root)).perform r w).1 = some (m.step r).1
    ∧ Represents root ((Operator.finished (service name root)).perform r w).2.service (m.step r).2

theorem agrees_of {result : Except Stop Answer} {w' : World (Table Bytes)}
    {answer : Except ErrorKind Answer} {m' : FileMap}
    (hperform : (Operator.finished (service name root)).perform r w = (result, w'))
    (hstep : m.step r = (answer, m')) (hanswer : outcome? result = some answer)
    (hmap : Represents root w'.service m') : Agrees name root m r w := by
  rw [Agrees, hperform, hstep]
  exact ⟨hanswer, hmap⟩

/-- What the table represents after a file has got a content. -/
theorem represents_write (hm : Represents root w.service m) (path : String) (content : Content) :
    Represents root
      (w.service.insert (Path.key root (Path.normalize path)) content.val)
      (m.put (Path.normalize path) (some content)) :=
  represents_put hm (Path.normalize_ne_empty path) (some content) (Table.get?_insert w.service _ _)

/-- What the table represents after a path was deleted. -/
theorem represents_delete (hm : Represents root w.service m) (path : String) :
    Represents root (w.service.erase (Path.key root (Path.normalize path)))
      (m.put (Path.normalize path) none) :=
  represents_put hm (Path.normalize_ne_empty path) none (Table.get?_erase w.service _)

/-- A request on a directory changes no file: the key that a deletion removes is that of no file. -/
theorem agrees_dir (hm : Represents root w.service m)
    (hdir : Path.isDir (Path.normalize r.path) = true) : Agrees name root m r w := by
  obtain ⟨form, path, ask⟩ := r
  have hstep := FileMap.step_of_dir m hdir
  cases ask with
  | create =>
    have hperform : (Operator.finished (service name root)).perform ⟨form, path, .create⟩ w
        = (.ok .done, w) := Run.bind_of_ok (create_dir name root form path w hdir)
    exact agrees_of hperform hstep rfl hm
  | write content =>
    obtain ⟨e, hkind, hwrite⟩ := write_dir name root form path w hdir content.val
    have hperform : (Operator.finished (service name root)).perform ⟨form, path, .write content⟩ w
        = (.error (.failed e), w) := Run.bind_of_error hwrite
    exact agrees_of hperform hstep (by rw [outcome?, hkind]; rfl) hm
  | read =>
    obtain ⟨e, hkind, hread⟩ := read_dir name root form path w hdir .full
    have hperform : (Operator.finished (service name root)).perform ⟨form, path, .read⟩ w
        = (.error (.failed e), w) := Run.bind_of_error hread
    exact agrees_of hperform hstep (by rw [outcome?, hkind]; rfl) hm
  | rangeRead lower upper =>
    obtain ⟨e, hkind, hread⟩ := read_dir name root form path w hdir (.ofBounds lower upper)
    have hperform : (Operator.finished (service name root)).perform
        ⟨form, path, .rangeRead lower upper⟩ w = (.error (.failed e), w) :=
      Run.bind_of_error hread
    exact agrees_of hperform hstep (by rw [outcome?, hkind]; rfl) hm
  | metadata =>
    have hperform : (Operator.finished (service name root)).perform ⟨form, path, .metadata⟩ w
        = (.ok (.told .dir none), w) :=
      Run.bind_of_ok (metadata_dir name root form path w hdir)
    exact agrees_of hperform hstep rfl hm
  | exist =>
    have hexists := Object.exists_of_metadata (metadata_dir name root form path w hdir)
    have hperform : (Operator.finished (service name root)).perform ⟨form, path, .exist⟩ w
        = (.ok (.found true), w) := Run.bind_of_ok hexists
    exact agrees_of hperform hstep rfl hm
  | delete =>
    have hperform : (Operator.finished (service name root)).perform ⟨form, path, .delete⟩ w
        = (.ok .done, { w with
            service := w.service.erase (Path.key root (Path.normalize path)) }) :=
      Run.bind_of_ok (delete_apply name root form path w)
    exact agrees_of hperform hstep rfl (represents_put_dir (represents_delete hm path) hdir)

/-- The map holds what the table has under the key. -/
theorem value_of_represents (hm : Represents root w.service m) {path : String}
    (hfile : Path.isDir (Path.normalize path) = false) :
    value root path w.service = (m (Path.normalize path)).map Subtype.val :=
  hm _ (Path.normalize_ne_empty path) hfile

/-- A read gives the bytes that are asked for, if its range cuts them out of every content. -/
theorem agrees_read (hm : Represents root w.service m)
    (hfile : Path.isDir (Path.normalize r.path) = false) (range : ByteRange) (f : Bytes → Bytes)
    (hask : (Operator.finished (service name root)).perform r
      = (object name root r.path).read r.form range >>= fun bs => pure (.bytes bs))
    (hlook : ∀ held, FileMap.fileStep held r.ask = (FileMap.bytesOf held f, held))
    (hcut : ∀ content : Content, range.cut content.val = f content.val) :
    Agrees name root m r w := by
  have hvalue := value_of_represents hm hfile
  cases hheld : m (Path.normalize r.path) with
  | none =>
    have hstep : m.step r = (.error .objectNotFound, m) :=
      FileMap.step_of_look m hfile (by rw [hlook, hheld]; rfl)
    obtain ⟨e, hkind, hread⟩ :=
      read_missing name root r.form r.path w hfile (by rw [hvalue, hheld]; rfl) range
    have hperform : (Operator.finished (service name root)).perform r w
        = (.error (.failed e), w) := by
      rw [hask]
      exact Run.bind_of_error hread
    exact agrees_of hperform hstep (by rw [outcome?, hkind]) hm
  | some content =>
    have hstep : m.step r = (.ok (.bytes (f content.val)), m) :=
      FileMap.step_of_look m hfile (by rw [hlook, hheld]; rfl)
    have hread := read_file name root r.form r.path w hfile (by rw [hvalue, hheld]; rfl) range
    have hperform : (Operator.finished (service name root)).perform r w
        = (.ok (.bytes (f content.val)), w) := by
      rw [hask, ← hcut]
      exact Run.bind_of_ok hread
    exact agrees_of hperform hstep rfl hm

theorem agrees_metadata (hm : Represents root w.service m) (form : Form) {path : String}
    (hfile : Path.isDir (Path.normalize path) = false) :
    Agrees name root m ⟨form, path, .metadata⟩ w := by
  have hvalue := value_of_represents hm hfile
  cases hheld : m (Path.normalize path) with
  | none =>
    have hstep : m.step ⟨form, path, .metadata⟩ = (.error .objectNotFound, m) :=
      FileMap.step_of_look m hfile (by rw [hheld]; rfl)
    obtain ⟨e, hkind, htold⟩ :=
      metadata_missing name root form path w hfile (by rw [hvalue, hheld]; rfl)
    have hperform : (Operator.finished (service name root)).perform ⟨form, path, .metadata⟩ w
        = (.error (.failed e), w) := Run.bind_of_error htold
    exact agrees_of hperform hstep (by rw [outcome?, hkind]) hm
  | some content =>
    have hstep : m.step ⟨form, path, .metadata⟩
        = (.ok (.told .file (some content.val.length)), m) :=
      FileMap.step_of_look m hfile (by rw [hheld]; rfl)
    have htold := metadata_file name root form path w hfile (by rw [hvalue, hheld]; rfl)
    have hperform : (Operator.finished (service name root)).perform ⟨form, path, .metadata⟩ w
        = (.ok (.told .file (some (ByteRange.count content.val).toNat)), w) :=
      Run.bind_of_ok htold
    rw [ByteRange.toNat_count content.property] at hperform
    exact agrees_of hperform hstep rfl hm

theorem agrees_exist (hm : Represents root w.service m) (form : Form) {path : String}
    (hfile : Path.isDir (Path.normalize path) = false) :
    Agrees name root m ⟨form, path, .exist⟩ w := by
  have hvalue := value_of_represents hm hfile
  cases hheld : m (Path.normalize path) with
  | none =>
    have hstep : m.step ⟨form, path, .exist⟩ = (.ok (.found false), m) :=
      FileMap.step_of_look m hfile (by rw [hheld]; rfl)
    obtain ⟨e, hkind, htold⟩ :=
      metadata_missing name root form path w hfile (by rw [hvalue, hheld]; rfl)
    have hperform : (Operator.finished (service name root)).perform ⟨form, path, .exist⟩ w
        = (.ok (.found false), w) := Run.bind_of_ok (Object.exists_of_missing htold hkind)
    exact agrees_of hperform hstep rfl hm
  | some content =>
    have hstep : m.step ⟨form, path, .exist⟩ = (.ok (.found true), m) :=
      FileMap.step_of_look m hfile (by rw [hheld]; rfl)
    have htold := metadata_file name root form path w hfile (by rw [hvalue, hheld]; rfl)
    have hperform : (Operator.finished (service name root)).perform ⟨form, path, .exist⟩ w
        = (.ok (.found true), w) := Run.bind_of_ok (Object.exists_of_metadata htold)
    exact agrees_of hperform hstep rfl hm

theorem agrees_file (hm : Represents root w.service m)
    (hfile : Path.isDir (Path.normalize r.path) = false) : Agrees name root m r w := by
  obtain ⟨form, path, ask⟩ := r
  cases ask with
  | create =>
    have hstep : m.step ⟨form, path, .create⟩
        = (.ok .done, m.put (Path.normalize path) (some .empty)) := FileMap.step_of_file m hfile
    have hperform : (Operator.finished (service name root)).perform ⟨form, path, .create⟩ w
        = (.ok .done, { w with
            service := w.service.insert (Path.key root (Path.normalize path)) [] }) :=
      Run.bind_of_ok (create_file name root form path w hfile)
    exact agrees_of hperform hstep rfl (represents_write hm path .empty)
  | write content =>
    have hstep : m.step ⟨form, path, .write content⟩
        = (.ok .done, m.put (Path.normalize path) (some content)) := FileMap.step_of_file m hfile
    have hperform : (Operator.finished (service name root)).perform ⟨form, path, .write content⟩ w
        = (.ok .done, { w with
            service := w.service.insert (Path.key root (Path.normalize path)) content.val }) :=
      Run.bind_of_ok (write_file name root form path w hfile content.val)
    exact agrees_of hperform hstep rfl (represents_write hm path content)
  | read =>
    exact agrees_read hm hfile .full id rfl (fun _ => rfl)
      fun content => ByteRange.cut_full content.property
  | rangeRead lower upper =>
    exact agrees_read hm hfile (.ofBounds lower upper) (ByteRange.between lower upper) rfl
      (fun _ => rfl) fun content => ByteRange.cut_ofBounds lower upper content.property
  | metadata => exact agrees_metadata hm form hfile
  | exist => exact agrees_exist hm form hfile
  | delete =>
    have hstep : m.step ⟨form, path, .delete⟩
        = (.ok .done, m.put (Path.normalize path) none) := FileMap.step_of_file m hfile
    have hperform : (Operator.finished (service name root)).perform ⟨form, path, .delete⟩ w
        = (.ok .done, { w with
            service := w.service.erase (Path.key root (Path.normalize path)) }) :=
      Run.bind_of_ok (delete_apply name root form path w)
    exact agrees_of hperform hstep rfl (represents_delete hm path)

/-- **One request.**  The operator answers as the map does, in either form, and afterwards its
table represents what the map has become. -/
theorem perform_refines (name : String) {root : String} {m : FileMap} {w : World (Table Bytes)}
    (hm : Represents root w.service m) (r : Request) : Agrees name root m r w := by
  cases hdir : Path.isDir (Path.normalize r.path) with
  | true => exact agrees_dir hm hdir
  | false => exact agrees_file hm hdir

/-- Requests one after the other, by induction: what the table represents carries over. -/
theorem performAll_refines (name : String) {root : String} {m : FileMap}
    {w : World (Table Bytes)} (hm : Represents root w.service m) (requests : List Request) :
    ((Operator.finished (service name root)).performAll requests w).1.map outcome?
        = (m.run requests).1.map some
      ∧ Represents root ((Operator.finished (service name root)).performAll requests w).2.service
          (m.run requests).2 := by
  induction requests generalizing m w with
  | nil => exact ⟨rfl, hm⟩
  | cons r requests ih =>
    obtain ⟨hanswer, hafter⟩ := perform_refines name hm r
    obtain ⟨hanswers, hend⟩ := ih hafter
    rw [Operator.performAll, FileMap.run]
    constructor
    · rw [List.map_cons, List.map_cons, hanswer, hanswers]
    · exact hend

/-- **The memory service is a map of files.**  Below any root, and for any sequence of requests on
paths as users write them, a finished operator on a fresh memory service answers as the map of files
does, and its table represents the map in the end.  The answers on one canonical path are those of
a run with nothing but the requests on that path. -/
theorem operator_refines_fileMap (name root : String) (w : World (Table Bytes))
    (requests : List Request) :
    let fresh : World (Table Bytes) := { w with service := .empty }
    let outcomes := fun rs => ((operator name root).performAll rs fresh).1.map outcome?
    outcomes requests = (FileMap.empty.run requests).1.map some
      ∧ Represents (Path.normalizeRoot root)
          ((operator name root).performAll requests fresh).2.service
          (FileMap.empty.run requests).2
      ∧ ∀ path, Request.picked path requests (outcomes requests)
          = outcomes (requests.filter (Request.concerns path)) := by
  intro fresh outcomes
  have hrun (rs : List Request) : outcomes rs = (FileMap.empty.run rs).1.map some :=
    (performAll_refines (w := fresh) name (represents_empty (Path.normalizeRoot root)) rs).1
  refine ⟨hrun requests, ?_, fun path => ?_⟩
  · exact (performAll_refines (w := fresh) name (represents_empty (Path.normalizeRoot root))
      requests).2
  · have hpath : Request.picked path requests (FileMap.empty.run requests).1
        = (FileMap.empty.run (requests.filter (Request.concerns path))).1 :=
      (FileMap.run_filter rfl requests).1
    rw [hrun, hrun, Request.picked_map, hpath]

end ObjectStorage.Memory
