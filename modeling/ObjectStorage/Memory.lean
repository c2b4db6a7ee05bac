import ObjectStorage.Kv.Service

/-!
# The memory service

The simplest store: a table in memory.  It never fails, and both forms of its interface do the
same.

* `Memory.adapter` — a table as a store of keys and values;
* `Memory.service` — the service on it;
* `Memory.Config` — its configuration.
-/

namespace ObjectStorage.Memory

/-- Everything that a store of keys and values can offer. -/
def capability : Capability := { read := true, write := true, list := true, blocking := true }

/-- A table in memory as a store, with a name that tells it from others. -/
def adapter (name : String) : Kv.Adapter (Table Bytes) where
  info := { scheme := .memory, name, capability }
  get _ key t := (.ok (t.get? key), t)
  set _ key value t := (.ok (), t.insert key value)
  delete _ key t := (.ok (), t.erase key)
  scan _ start t := (.ok (t.scan start), t)
  dirsAtMost t := Kv.dirsAbove t.keys

/-- The memory service below a root in canonical form. -/
def service (name root : String) : Service (Table Bytes) Cursor Page :=
  Kv.service (adapter name) root

/-- The configuration of a memory service. -/
structure Config where
  root : Option String := none

namespace Config

/-- Read the configuration from options. -/
def ofOptions (o : Options) : Config := { root := o.nonempty? "root" }

/-- The root as it was configured. -/
def rootText (c : Config) : String := c.root.getD Path.root

end Config

end ObjectStorage.Memory
