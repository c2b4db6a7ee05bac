import ObjectStorage.Kv.Service
import ObjectStorage.Peer
import ObjectStorage.Redis.Config
import ObjectStorage.Redis.Value

/-!
# The Redis service

A Redis server as a store of keys and values.  Async calls share one connection, which is opened by
the first of them and again after it was closed; every blocking call opens its own.

* `Redis.Link` — the server and the shared connection;
* `Redis.request` — one command and its answer;
* `Redis.scanAll` — all pages of a scan;
* `Redis.adapter` — the server as a store;
* `Redis.build` — the service that a configuration describes.
-/

namespace ObjectStorage.Redis

/-- A command: its words. -/
abbrev Words := List Bytes

/-- The server, and whether the shared connection is open. -/
structure Link where
  peer : Peer Words Value := {}
  connected : Bool := false

/-- An error of the server or of a connection to it. -/
def failure (reason : String) : Error :=
  (Error.new .unexpected "redis error").withSource (.text reason)

/-- The error of a value that is not the expected one. -/
def wrongType : Error := failure "Response was of incompatible type"

/-- What a server answers that has no answers left. -/
def exhausted : Value := .error "ERR no scripted reply"

/-- Words in UTF-8. -/
def words (l : List String) : Words := l.map Text.utf8

/-- Open a connection, unless an async call finds one open. -/
def connect (login : Login) (form : Form) (l : Link) : Link :=
  if form = .async && l.connected then l
  else
    { peer := login.commands.foldl (fun p c => p.receive (words c)) l.peer
      connected := l.connected || form = .async }

/-- Send a command and take its answer. -/
def send (login : Login) (form : Form) (command : Words) (l : Link) : Except Error Value × Link :=
  let l := connect login form l
  match l.peer.send exhausted command with
  | (.refused, peer) =>
    (.error (failure IoError.connectionRefused.text).temporary, { peer, connected := false })
  | (.closed, peer) =>
    (.error (failure "unexpected end of file").temporary,
      { peer, connected := l.connected && form = .blocking })
  | (.answered v, peer) =>
    ((match v.failure? with | some reason => .error (failure reason) | none => .ok v),
      { l with peer })

/-- Send a command whose answer is read in some way. -/
def request {α : Type} (login : Login) (form : Form) (read : Value → Option α) (command : Words)
    (l : Link) : Except Error α × Link :=
  let (result, l) := send login form command l
  (result.bind fun v => match read v with
    | some a => .ok a
    | none => .error wrongType, l)

/-- Is a character special in a pattern? -/
def isGlob (c : Char) : Bool := ['*', '?', '[', ']', '\\'].contains c

/-- A text as a pattern that matches it alone. -/
def escapeGlob (s : String) : String :=
  String.ofList (s.toList.flatMap fun c => if isGlob c then ['\\', c] else [c])

/-- The keys asked for at a time. -/
def scanCount : Nat := 1000

/-- The command for a page of a scan. -/
def scanCommand (pattern : String) (cursor : UInt64) : Words :=
  words ["SCAN", toString cursor, "MATCH", pattern, "COUNT", toString scanCount]

/-- The command that sets a key, which expires if a time is given. -/
def setCommand (ttl : Option UInt64) (key : String) (value : Bytes) : Words :=
  [Text.utf8 "SET", Text.utf8 key, value] ++
    match ttl with
    | some seconds => words ["EX", toString (max seconds 1)]
    | none => []

/-- Scan from a cursor on for at most `pages` pages, on an open connection. -/
def scanFrom (login : Login) (pattern : String) :
    (pages : Nat) → UInt64 → Link → Except Error (List String) × Link
  | 0, _, l => (.error wrongType, l)
  | pages + 1, cursor, l =>
    match request login .async Value.scanPage? (scanCommand pattern cursor) l with
    | (.error e, l) => (.error e, l)
    | (.ok (next, batch), l) =>
      if next = 0 then (.ok batch, l)
      else
        let (rest, l) := scanFrom login pattern pages next l
        (rest.map (batch ++ ·), l)

/-- All pages of a scan, on one connection.  The server has no more pages than answers. -/
def scanAll (login : Login) (form : Form) (pattern : String) (l : Link) :
    Except Error (List String) × Link :=
  let shared := l.connected
  let (result, l) := scanFrom login pattern (l.peer.answers.length + 1) 0
    (connect login .async (if form = .async then l else { l with connected := false }))
  (result, if form = .async then l else { l with connected := shared })

/-- The server as a store. -/
def adapter (endpoint : String) (login : Login) (ttl : Option UInt64) : Kv.Adapter Link where
  info := { scheme := .redis, name := endpoint,
            capability := { read := true, write := true, list := true, blocking := true } }
  get form key := request login form Value.content? (words ["GET", key])
  set form key value := request login form (fun _ => some ()) (setCommand ttl key value)
  delete form key := request login form (fun _ => some ()) (words ["DEL", key])
  scan form start := scanAll login form (escapeGlob start ++ "*")
  dirsAtMost l := l.peer.answers.length

/-- The service that a configuration describes.  Nothing is sent before the first call. -/
def build (c : Config) : Except Error (Service Link Cursor Page) := do
  let url ← c.connectionUrl
  match Login.ofUrl url with
  | .error fault =>
    throw ((Error.new .backendConfigInvalid "invalid redis connection info").withContext
      "service" Scheme.redis.name |>.withSource (.text (fault ++ "- InvalidClientConfig")))
  | .ok login =>
    pure (Kv.service (adapter c.endpointText login c.ttl) (Path.normalizeRoot c.rootText))

end ObjectStorage.Redis
