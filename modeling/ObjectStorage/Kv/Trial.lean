import ObjectStorage.Kv.Service

/-!
# A store for trials

A table that serves as a store of keys and values and keeps the bargain of such stores to the
letter only: it may return keys that were not asked for, in any order and more than once.

* `Kv.Trial.adapter` — the store.
-/

namespace ObjectStorage.Kv.Trial

/-- All keys in reverse order, twice. -/
def looseScan (t : Table Bytes) : List String := t.keys.reverse ++ t.keys.reverse

/-- A table as a store with a given description.  A `loose` store returns too many keys, a
`minimal` one offers nothing but the async verbs that every store must offer. -/
def adapter (info : ServiceInfo) (loose minimal : Bool) : Adapter (Table Bytes) :=
  let whole : Adapter (Table Bytes) :=
    { info
      get := fun _ key t => (.ok (t.get? key), t)
      set := fun _ key value t => (.ok (), t.insert key value)
      delete := fun _ key t => (.ok (), t.erase key)
      scan := fun _ start t => (.ok (if loose then looseScan t else t.scan start), t)
      dirsAtMost := fun t => dirsAbove t.keys }
  if minimal then whole.minimal else whole

end ObjectStorage.Kv.Trial
