import ObjectStorage.Fs.Service
import ObjectStorage.Ipmfs
import ObjectStorage.Memory
import ObjectStorage.Operator
import ObjectStorage.Redis
import ObjectStorage.Service.Part

/-!
# The host of a program

A program runs on a host: it has the files of the host and a current directory, it holds tables in
memory, and it reaches servers.  Any enabled service can be built on a host by the name of its
scheme.

* `Host` — the host;
* `Host.Reader`, `Host.Pager` — handles of all services;
* `Host.build` — the service of a scheme, configured by options;
* `Host.fromEnvironment` — the same with options from environment variables.
-/

namespace ObjectStorage

/-- What a program finds on its host, and what it keeps there. -/
structure Host where
  files : FileTree := .empty
  /-- The current directory, unless it was removed. -/
  current : Option String := some "/"
  /-- The tables of the memory services that were built. -/
  tables : List (Table Bytes) := []
  /-- The Redis server. -/
  redis : Peer Redis.Words Redis.Value := { listens := false }
  /-- The links of the Redis services that were built. -/
  links : List Redis.Link := []
  /-- The IPFS node. -/
  node : Http.Server := { listens := false }

namespace Host

/-- Readers of all services. -/
inductive Reader
  | cursor (c : Cursor)
  | file (f : Fs.OpenFile)

/-- Pagers of all services. -/
inductive Pager
  | page (p : Page)
  | dir (s : Fs.DirStream)
  | listing (l : Ipmfs.Listing)

/-- A service on a host. -/
abbrev Service := ObjectStorage.Service Host Reader Pager

/-- An operator on a host. -/
abbrev Operator := ObjectStorage.Operator Host Reader Pager

/-- The handles of services on stores of keys and values. -/
def kvHandles : Handles Cursor Reader Page Pager where
  reader := .cursor
  reader? | .cursor c => some c | _ => none
  pager := .page
  pager? | .page p => some p | _ => none

/-- The handles of the service on files. -/
def fsHandles : Handles Fs.OpenFile Reader Fs.DirStream Pager where
  reader := .file
  reader? | .file f => some f | _ => none
  pager := .dir
  pager? | .dir s => some s | _ => none

/-- The handles of the service on an IPFS node. -/
def ipmfsHandles : Handles Cursor Reader Ipmfs.Listing Pager where
  reader := .cursor
  reader? | .cursor c => some c | _ => none
  pager := .listing
  pager? | .listing l => some l | _ => none

/-- The table with a number. -/
def table (n : Nat) : Part Host (Table Bytes) where
  get h := h.tables[n]?.getD Table.empty
  put t h := { h with tables := h.tables.set n t }

/-- The link with a number. -/
def link (n : Nat) : Part Host Redis.Link where
  get h := h.links[n]?.getD {}
  put l h := { h with links := h.links.set n l }

/-- The files of the host. -/
def tree : Part Host FileTree := ⟨Host.files, fun files h => { h with files }⟩

/-- The IPFS node. -/
def server : Part Host Http.Server := ⟨Host.node, fun node h => { h with node }⟩

/-- Tell something about a service that is built. -/
def tell (target message : String) (fields : List (String × Field)) : Run Host Unit :=
  Run.log (.remark .debug ("opendal_services::" ++ target) message fields)

/-- Build a memory service, with an empty table. -/
def buildMemory (c : Memory.Config) : Run Host Service := do
  tell "memory" "building memory backend" [("root", .text c.rootText)]
  let n ← Run.modifyService fun h => (h.tables.length, { h with tables := h.tables ++ [.empty] })
  pure ((Memory.service s!"table {n}" (Path.normalizeRoot c.rootText)).within (table n) kvHandles)

/-- Build a service on files, and create its root. -/
def buildFs (c : Fs.Config) : Run Host Service := do
  tell "fs::backend" "fs backend build started" [("builder", .text c.shown.inline)]
  let root ← Run.onService fun h => tree.run (c.prepare h.current) h
  tell "fs::backend" "fs backend build finished" [("root", .text root)]
  pure ((Fs.service root).within tree fsHandles)

/-- Build a service on an IPFS node. -/
def buildIpmfs (c : Ipmfs.Config) : Run Host Service := do
  tell "ipmfs::backend" "ipmfs backend build started" [("builder", .text c.shown.inline)]
  tell "ipmfs::backend" "ipmfs backend build finished"
    [("root", .text c.rootPath), ("endpoint", .text c.endpointText)]
  pure ((Ipmfs.service c).within server ipmfsHandles)

/-- Build a service on a Redis server, with a link of its own. -/
def buildRedis (c : Redis.Config) : Run Host Service := do
  tell "redis::backend" "redis backend build started" [("builder", .text c.shown.inline)]
  let service ← Run.ofExcept (Redis.build c)
  tell "redis::backend" "redis backend build finished"
    [("endpoint", .text c.endpointText), ("root", .text c.rootText)]
  let n ← Run.modifyService fun h =>
    (h.links.length, { h with links := h.links ++ [{ peer := h.redis }] })
  pure (service.within (link n) kvHandles)

/-- Build the service of a scheme from options. -/
def build (scheme : Scheme) (options : Options) : Run Host Service :=
  match scheme with
  | .fs => buildFs (.ofOptions options)
  | .memory => buildMemory (.ofOptions options)
  | .ipmfs => buildIpmfs (.ofOptions options)
  | .redis => buildRedis (.ofOptions options)
  | .hdfs | .rocksdb =>
    .fail ((Error.new .unsupported "service is not enabled in this build").withContext "service"
      scheme.name)

/-- Build the service of a scheme from the environment variables that are meant for it. -/
def fromEnvironment (scheme : Scheme) (vars : List (String × String)) : Run Host Service :=
  build scheme (scheme.options vars)

end Host

end ObjectStorage
