import ObjectStorage.Operation
import ObjectStorage.Error
import ObjectStorage.Metadata

/-!
# Stores of keys and values

The least that a store has to offer to serve objects: get, set and delete one key, and list the
keys with a given start.  Keys are absolute paths without the slash at their start.

* `Kv.Adapter` — such a store, as functions on its state;
* `Kv.dirsAbove` — a bound on the directories that keys lie in;
* `Kv.noScan`, `Kv.noBlocking`, `Kv.noBlockingScan` — the errors of a store that offers less.
-/

namespace ObjectStorage.Kv

/-- A store of keys and values with states `σ`. -/
structure Adapter (σ : Type) where
  /-- Scheme, name and capability; of the latter, whether keys can be listed and whether the
  blocking form is offered. -/
  info : ServiceInfo
  get : Form → String → σ → Except Error (Option Bytes) × σ
  set : Form → String → Bytes → σ → Except Error Unit × σ
  /-- Deleting a missing key succeeds. -/
  delete : Form → String → σ → Except Error Unit × σ
  /-- Every key with a given start; others may come too, in any order. -/
  scan : Form → String → σ → Except Error (List String) × σ
  /-- How many directories the keys lie in at most, or how many scans succeed at most. -/
  dirsAtMost : σ → Nat

/-- How many directories lie on the way to keys at most. -/
def dirsAbove (keys : List String) : Nat := keys.foldl (fun n key => n + key.length) 0

/-- The error of a store that cannot list its keys. -/
def noScan : Error :=
  (Error.new .unsupported "kv adapter doesn't support scan").withOperation "list"

/-- The error of a store that does not offer a verb in the blocking form. -/
def noBlocking (verb : Verb) : Error :=
  (Error.new .unsupported "kv adapter doesn't support blocking").withOperation
    (Operation.call .blocking verb).name

/-- The error of a store that cannot list its keys in the blocking form. -/
def noBlockingScan : Error :=
  (Error.new .unsupported "kv adapter doesn't support blocking scan").withOperation
    (Operation.call .blocking .list).name

/-- A store that offers the async verbs of another one and nothing more. -/
def Adapter.minimal {σ : Type} (a : Adapter σ) : Adapter σ where
  info := a.info
  get
    | .async, key, s => a.get .async key s
    | .blocking, _, s => (.error (noBlocking .read), s)
  set
    | .async, key, value, s => a.set .async key value s
    | .blocking, _, _, s => (.error (noBlocking .write), s)
  delete
    | .async, key, s => a.delete .async key s
    | .blocking, _, s => (.error (noBlocking .delete), s)
  scan
    | .async, _, s => (.error noScan, s)
    | .blocking, _, s => (.error noBlockingScan, s)
  dirsAtMost := a.dirsAtMost

end ObjectStorage.Kv
