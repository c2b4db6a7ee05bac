import ObjectStorage.Cursor
import ObjectStorage.Ipmfs.Message
import ObjectStorage.Service
import ObjectStorage.Text.Shown

/-!
# The service on the mutable files of an IPFS node

Objects are files of the node below a root.  Every action is a request to the node, a read of the
last bytes two.  A directory is listed with one request, when its first page is asked for.  There
is no blocking form.

* `Ipmfs.Config` — the configuration;
* `Ipmfs.Listing` — a directory that is to be listed;
* `Ipmfs.service` — the service.
-/

namespace ObjectStorage.Ipmfs

/-- The configuration of the service. -/
structure Config where
  root : Option String := none
  endpoint : Option String := none
  deriving DecidableEq, Repr

/-- The endpoint where none is configured. -/
def defaultEndpoint : String := "http://localhost:5001"

/-- A text without slashes at its end. -/
def withoutFinalSlashes (s : String) : String :=
  String.ofList (s.toList.reverse.dropWhile (· = '/')).reverse

namespace Config

/-- Read the configuration from options. -/
def ofOptions (o : Options) : Config where
  root := o.nonempty? "root"
  endpoint := (o.nonempty? "endpoint").map withoutFinalSlashes

/-- The root in canonical form. -/
def rootPath (c : Config) : String := Path.normalizeRoot (c.root.getD "")

/-- The endpoint, whether it is configured or not. -/
def endpointText (c : Config) : String := c.endpoint.getD defaultEndpoint

/-- The configuration as it is shown before a client is made. -/
def shown (c : Config) : Text.Shown := .record "IpmfsBuilder" [
  ("root", .optional (c.root.map .text)), ("endpoint", .optional (c.endpoint.map .text)),
  ("client", .optional none)]

end Config

/-- A directory that is to be listed. -/
structure Listing where
  path : String
  /-- Was the request made? -/
  asked : Bool := false

/-- Where a command is sent to. -/
def commandUrl (endpoint name : String) : String := s!"{endpoint}/api/v0/files/{name}"

/-- Send a command about a path. -/
def command (endpoint name path : String) (options : List (String × String))
    (parts : Option (List (String × Bytes))) (server : Http.Server) :
    Except Error Http.Response × Http.Server :=
  let (result, server) :=
    Http.post (commandUrl endpoint name) (("arg", path) :: options) parts server
  ((match result with | .ok r => .ok r | .error fault => .error (unanswered fault)), server)

/-- Send a command and read the body of its answer. -/
def ask {α : Type} (endpoint name path : String) (options : List (String × String))
    (read : Bytes → Except Error α) (server : Http.Server) : Except Error α × Http.Server :=
  let (result, server) := command endpoint name path options none server
  (result.bind fun r => (accepted r).bind read, server)

/-- Send a command of whose answer only the status matters. -/
def tell (endpoint name path : String) (options : List (String × String))
    (parts : Option (List (String × Bytes))) (server : Http.Server) :
    Except Error Unit × Http.Server :=
  let (result, server) := command endpoint name path options parts server
  (result.bind fun r => if r.status = 200 then .ok () else .error (failure r), server)

/-- Ask what the node knows of a file. -/
def stat (endpoint path : String) : Http.Server → Except Error Stat × Http.Server :=
  ask endpoint "stat" path [] (decoded Stat.reader)

/-- Read bytes of a file. -/
def readBytes (endpoint path : String) (range : ByteRange) :
    Http.Server → Except Error Bytes × Http.Server :=
  ask endpoint "read" path
    ((range.offset.map fun n => ("offset", toString n)).toList
      ++ (range.size.map fun n => ("count", toString n)).toList) .ok

/-- Read a range of a file.  The last bytes are found from its size. -/
def read (endpoint path : String) (range : ByteRange) (server : Http.Server) :
    Except Error Bytes × Http.Server :=
  match range with
  | ⟨none, some _⟩ =>
    match stat endpoint path server with
    | (.error e, server) => (.error e, server)
    | (.ok s, server) =>
      let (start, stop) := range.resolve s.size
      readBytes endpoint path ⟨some start, some (stop - start)⟩ server
  | range => readBytes endpoint path range server

/-- Write a file. -/
def write (endpoint path : String) (data : Bytes) :
    Http.Server → Except Error Unit × Http.Server :=
  tell endpoint "write" path [("parents", "true"), ("create", "true"), ("truncate", "true")]
    (some [("data", data)])

/-- Delete a file or a directory with all that it holds; what is missing needs no deletion. -/
def remove (endpoint path : String) (server : Http.Server) : Except Error Unit × Http.Server :=
  match tell endpoint "rm" path [("recursive", "true")] none server with
  | (.error e, server) =>
    (if e.kind = .objectNotFound then .ok () else .error e, server)
  | r => r

/-- The entries that an answer tells; a directory that is missing has none. -/
def entries (path : String) (r : Http.Response) : Except Error (List Entry) :=
  if r.status = 200 then do
    let listed ← decoded Listed.listReader (← content r)
    pure (listed.map (Listed.entry (if path = Path.root then "" else path)))
  else
    let e := failure r
    if e.kind = .objectNotFound then .ok [] else .error e

/-- The next page of a listing: all entries at once, if there are any. -/
def nextPage (endpoint root : String) (l : Listing) (server : Http.Server) :
    Except Error Page × Listing × Http.Server :=
  if l.asked then (.ok none, l, server)
  else
    let (result, server) := command endpoint "ls" (Path.underRoot root l.path) [("long", "true")]
      none server
    let page := (result.bind (entries l.path)).map fun found =>
      if found.isEmpty then none else some found
    (page, { l with asked := true }, server)

/-- The answer of the service to a call in the async form. -/
def answer (endpoint root path : String) :
    (action : Action) → Http.Server → Except Error (Reply Cursor Listing action) × Http.Server
  | .create mode, server =>
    let path := Path.underRoot root path
    if mode = .dir then tell endpoint "mkdir" path [("parents", "true")] none server
    else write endpoint path [] server
  | .read range, server =>
    let (result, server) := read endpoint (Path.underRoot root path) range server
    (result.map fun data => (ByteRange.count data, ⟨data⟩), server)
  | .write _ data, server =>
    let (result, server) := write endpoint (Path.underRoot root path) data server
    (result.map fun () => ByteRange.count data, server)
  | .stat, server =>
    let (result, server) := stat endpoint (Path.underRoot root path) server
    (result.map Stat.metadata, server)
  | .delete, server => remove endpoint (Path.underRoot root path) server
  | .list, server => (.ok { path }, server)

/-- The service that a configuration describes.  Nothing is sent before the first call. -/
def service (c : Config) : Service Http.Server Cursor Listing where
  info := { scheme := .ipmfs, root := c.rootPath, name := c.endpointText,
            capability := { read := true, write := true, list := true } }
  call form path action server :=
    match form with
    | .async => answer c.endpointText c.rootPath path action server
    | .blocking => (.error (.unsupported .ipmfs (action.operation .blocking)), server)
  pull _ := nextPage c.endpointText c.rootPath
  fill _ := Cursor.fill
  pagesLeft l _ := if l.asked then 0 else 1
  readsLeft := Cursor.readsLeft
  dirsAtMost server := server.answers.length

end ObjectStorage.Ipmfs
