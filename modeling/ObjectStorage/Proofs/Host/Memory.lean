import ObjectStorage.Host
import ObjectStorage.Proofs.Memory

/-!
# Memory services on a host

A host keeps the tables of all memory services that were built on it.  A service that works on one
of them leaves the others alone, and a host whose table is put back is the host that it was.

* `Host.table_put_get`, `Host.get?_table_put` — one of the tables of a host;
* `Host.memory` — a finished operator on the memory service with a table of the host;
* `Host.read_file`, `Host.read_missing` — what it reads;
* `Host.write_file` — what it writes.
-/

namespace ObjectStorage.Host

/-! ### Tables -/

theorem table_put_get (n : Nat) (h : Host) : (table n).put ((table n).get h) h = h := by
  have hset : h.tables.set n ((table n).get h) = h.tables := by
    by_cases hn : n < h.tables.length
    · have hget : (table n).get h = h.tables[n] := by
        show (h.tables[n]?).getD Table.empty = _
        rw [List.getElem?_eq_getElem hn, Option.getD_some]
      rw [hget, List.set_getElem_self]
    · exact List.set_eq_of_length_le (Nat.not_lt.1 hn)
  show { h with tables := h.tables.set n ((table n).get h) } = h
  rw [hset]

theorem table_get_put {n : Nat} {h : Host} (hn : n < h.tables.length) (t : Table Bytes) (k : Nat) :
    (table k).get ((table n).put t h) = if k = n then t else (table k).get h := by
  show ((h.tables.set n t)[k]?).getD Table.empty = _
  by_cases hk : k = n
  · rw [if_pos hk, hk, List.getElem?_set_self hn, Option.getD_some]
  · rw [if_neg hk, List.getElem?_set_ne (Ne.symm hk)]
    rfl

/-- **To put a value into one table** changes nothing else, in this table or in another one. -/
theorem get?_table_put {n : Nat} {h : Host} (hn : n < h.tables.length) (key : String)
    (value : Bytes) (k : Nat) (key' : String) :
    ((table k).get ((table n).put (((table n).get h).insert key value) h)).get? key'
      = if k = n ∧ key' = key then some value else ((table k).get h).get? key' := by
  rw [table_get_put hn]
  by_cases hk : k = n
  · rw [if_pos hk, Table.get?_insert, hk]
    by_cases hkey : key' = key
    · rw [if_pos hkey, if_pos ⟨rfl, hkey⟩]
    · rw [if_neg hkey, if_neg fun h => hkey h.2]
  · rw [if_neg hk, if_neg fun h => hk h.1]

/-! ### Operators -/

/-- The memory service with a table of the host, below a root that a user supplied. -/
def memoryService (n : Nat) (name root : String) : Service :=
  (Memory.service name (Path.normalizeRoot root)).within (table n) kvHandles

/-- The finished operator on it. -/
def memory (n : Nat) (name root : String) : Operator := .finished (memoryService n name root)

/-- What the table of the operator has for a path. -/
def held (n : Nat) (root path : String) (h : Host) : Option Bytes :=
  Memory.value (Path.normalizeRoot root) path ((table n).get h)

/-- Its readers are cursors. -/
def rest (r : Reader) (_ : Host) : Bytes := match kvHandles.reader? r with
  | some c => c.rest
  | none => []

theorem readsRest (n : Nat) (name root : String) : ReadsRest (memoryService n name root) rest where
  fill form size r h := by
    cases r with
    | cursor c =>
      refine ⟨.cursor ⟨c.rest.drop size⟩, ?_, rfl⟩
      show (_, _, (table n).put ((table n).get h) h) = _
      rw [table_put_get]
      rfl
    | file f =>
      refine ⟨.file f, ?_, List.drop_nil.symm⟩
      show (_, _, _) = (Except.ok (List.take size []), _, _)
      rw [List.take_nil]
  readsLeft r h := by
    cases r with
    | cursor c => exact Nat.le_refl _
    | file f => exact Nat.zero_le _

/-- The host after a file was written through the operator. -/
def storing (n : Nat) (root path : String) (data : Bytes) (h : Host) : Host :=
  (table n).put (((table n).get h).insert
    (Path.key (Path.normalizeRoot root) (Path.normalize path)) data) h

/-- A call is one of the memory service on its table. -/
theorem call_memory {n : Nat} {name root path : String} {form : Form} {action : Action}
    {result : Except Error (Reply Cursor Page action)}
    {t : Table Bytes} {h : Host}
    (hcall : (Memory.service name (Path.normalizeRoot root)).call form path action ((table n).get h)
      = (result, t)) :
    (memoryService n name root).call form path action h
      = (result.map (Reply.map kvHandles.reader kvHandles.pager action), (table n).put t h) := by
  have hrun : (table n).run
      ((Memory.service name (Path.normalizeRoot root)).call form path action) h
        = (result, (table n).put t h) := by
    rw [Part.run, hcall]
  rw [memoryService, Service.within]
  dsimp only
  rw [hrun]

section

variable (n : Nat) (name root : String) (form : Form) (path : String) (w : World Host)
variable (h : Path.isDir (Path.normalize path) = false)
include h

theorem write_file (data : Bytes) :
    ((memory n name root).object path).write form data w
      = (.ok (), { w with service := storing n root path data w.service }) :=
  Operator.write_of_call h (call_memory rfl)

theorem read_file {data : Bytes} (hvalue : held n root path w.service = some data)
    (range : ByteRange) :
    ((memory n name root).object path).read form range w = (.ok (range.cut data), w) := by
  have hservice : (memoryService n name root).call form (Path.normalize path) (.read range)
      w.service
        = (.ok (ByteRange.count (range.cut data), .cursor ⟨range.cut data⟩), w.service) := by
    have hmemory : (Memory.service name (Path.normalizeRoot root)).call form (Path.normalize path)
        (.read range) ((table n).get w.service)
          = (.ok (ByteRange.count (range.cut data), ⟨range.cut data⟩),
              (table n).get w.service) := by
      rw [Memory.call_read, show ((table n).get w.service).get? _ = some data from hvalue]
      rfl
    rw [call_memory hmemory, table_put_get]
    rfl
  have hopen : ((memory n name root).object path).openRange form "range_read" range w
      = (.ok ⟨.cursor ⟨range.cut data⟩, []⟩, w) :=
    Operator.openRange_of_call h hservice "range_read"
  rw [Object.read, Run.bind_of_ok hopen]
  exact (readsRest n name root).readAll_rest form _ _ w

theorem read_missing (hvalue : held n root path w.service = none) (range : ByteRange) :
    ∃ e, e.kind = .objectNotFound
      ∧ ((memory n name root).object path).read form range w = (.error (.failed e), w) := by
  have hservice : (memoryService n name root).call form (Path.normalize path) (.read range)
      w.service = (.error Kv.notFound, w.service) := by
    have hmemory : (Memory.service name (Path.normalizeRoot root)).call form (Path.normalize path)
        (.read range) ((table n).get w.service)
          = (.error Kv.notFound, (table n).get w.service) := by
      rw [Memory.call_read, show ((table n).get w.service).get? _ = none from hvalue]
      rfl
    rw [call_memory hmemory, table_put_get]
    rfl
  obtain ⟨e, hkind, hopen⟩ := Operator.openRange_of_failed h hservice "range_read"
  exact ⟨e, hkind, Run.bind_of_error hopen⟩

end

end ObjectStorage.Host
