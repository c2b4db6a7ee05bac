import ObjectStorage.Error
import ObjectStorage.Scheme
import ObjectStorage.Text.Number
import ObjectStorage.Text.Shown
import ObjectStorage.Url

/-!
# Configuration of the Redis service

The endpoint is a URL of one of several schemes.  From it and from the other options a connection
URL is made, in which user, password and database have their places, and from which the login is
read back.

* `Config`, `Config.ofOptions`, `Config.shown` — the configuration;
* `Config.connectionUrl` — the connection URL;
* `Login`, `Login.ofUrl` — what a client says when it has connected.
-/

namespace ObjectStorage.Redis

/-- The configuration of a Redis service. -/
structure Config where
  endpoint : Option String := none
  username : Option String := none
  password : Option String := none
  db : Int := 0
  root : Option String := none
  /-- The seconds after which what is written expires. -/
  ttl : Option UInt64 := none
  deriving DecidableEq, Repr

/-- The endpoint where none is configured. -/
def defaultEndpoint : String := "tcp://127.0.0.1:6379"

/-- The port where the endpoint has none. -/
def defaultPort : Nat := 6379

namespace Config

/-- Read the configuration from options.  Numbers that cannot be read do not count. -/
def ofOptions (o : Options) : Config where
  endpoint := o.nonempty? "endpoint"
  username := o.nonempty? "username"
  password := o.nonempty? "password"
  db := ((o.get? "db").bind Text.readInt64?).getD 0
  root := o.nonempty? "root"
  ttl := (o.get? "default_ttl").bind Text.readUInt64?

/-- The configuration as it is shown; a password is not. -/
def shown (c : Config) : Text.Shown := .record "RedisBuilder" [
  ("endpoint", .optional (c.endpoint.map .text)),
  ("username", .optional (c.username.map .text)),
  ("password", .optional (c.password.map fun _ => .text "<redacted>")),
  ("db", .number c.db),
  ("root", .optional (c.root.map .text)),
  ("default_ttl", .optional (c.ttl.map fun s => .atom s!"{s}s"))]

/-- The endpoint, whether it is configured or not. -/
def endpointText (c : Config) : String := c.endpoint.getD defaultEndpoint

/-- The root as it was configured. -/
def rootText (c : Config) : String := c.root.getD Path.root

/-- The error of an endpoint that cannot be used. -/
def invalid (c : Config) (message : String) : Error :=
  (Error.new .backendConfigInvalid message).withContext "service" Scheme.redis.name
    |>.withContext "endpoint" c.endpointText

/-- The URL of a connection over a socket at a path.  User and password stand in the query as they
are. -/
def socketUrl (c : Config) (path : String) : String :=
  let query := [s!"db={c.db}"] ++ (c.username.map ("user=" ++ ·)).toList
    ++ (c.password.map ("pass=" ++ ·)).toList
  "redis+unix://" ++ path ++ "?" ++ "&".intercalate query

/-- The URL of a connection over a network. -/
def networkUrl (c : Config) (scheme : String) (url : Url) : Except Error String :=
  if url.hostText?.isNone then .error (c.invalid "endpoint must have a host")
  else
    let encode (s : String) : String := Url.encode Url.inUserInfo s.toList
    .ok (Url.text { url with
      scheme
      username := (c.username.map encode).getD url.username
      password := (c.password.map encode).or url.password
      port := some (url.port.getD defaultPort)
      path := .segments [toString c.db] })

/-- The connection URL. -/
def connectionUrl (c : Config) : Except Error String :=
  match Url.parse c.endpointText with
  | .error fault =>
    .error ((c.invalid "endpoint is not a valid url").withSource (.text fault.message))
  | .ok url =>
    if url.scheme = "tcp" || url.scheme = "redis" then c.networkUrl "redis" url
    else if url.scheme = "rediss" then c.networkUrl "rediss" url
    else if url.scheme = "unix" || url.scheme = "redis+unix" then .ok (c.socketUrl url.pathText)
    else .error (c.invalid "endpoint scheme is not supported")

end Config

/-- What a client says when it has connected. -/
structure Login where
  username : Option String := none
  password : Option String := none
  db : Int := 0
  deriving DecidableEq, Repr

namespace Login

/-- The last value under a name. -/
def last? (pairs : List (String × String)) (name : String) : Option String :=
  pairs.reverse.lookup name

/-- Percent encoded text in UTF-8. -/
def decoded (fault : String) (s : String) : Except String String :=
  match Text.text? (Url.decode s) with
  | some t => .ok t
  | none => .error fault

/-- The versions of the protocol that a URL may ask for. -/
def versions : List String := ["2", "resp2", "3", "resp3"]

/-- Refuse a version of the protocol that is not known. -/
def checkVersion (url : Url) : Except String Unit :=
  if (last? url.pairs "protocol").all versions.contains then .ok ()
  else .error "Invalid protocol version"

/-- The login of a connection over a socket. -/
def ofSocket (url : Url) : Except String Login := do
  if !(url.hostText?.all (· = "localhost") && url.pathText.toList.head? == some '/') then
    throw "Missing path"
  let db ← match last? url.pairs "db" with
    | none => pure 0
    | some s => match Text.readInt64? s with
      | some n => pure n
      | none => throw "Invalid database number"
  checkVersion url
  pure { username := last? url.pairs "user", password := last? url.pairs "pass", db }

/-- The database that a path names. -/
def dbOfPath (path : String) : Except String Int :=
  let cs := path.toList.dropWhile (· = '/')
  match (cs.reverse.dropWhile (· = '/')).reverse with
  | [] => .ok 0
  | cs => match Text.readInt64? (String.ofList cs) with
    | some n => .ok n
    | none => .error "Invalid database number"

/-- The login of a connection over a network. -/
def ofNetwork (url : Url) : Except String Login := do
  if url.hostText?.isNone then throw "Missing hostname"
  if url.scheme = "rediss" && url.fragment.any (· ≠ "insecure") then
    throw "only #insecure is supported as URL fragment"
  let db ← dbOfPath url.pathText
  let username ← if url.username = "" then pure none
    else (decoded "Username is not valid UTF-8 string" url.username).map some
  let password ← match url.password with
    | none => pure none
    | some s => (decoded "Password is not valid UTF-8 string" s).map some
  checkVersion url
  pure { username, password, db }

/-- The login that a connection URL tells, or what is wrong with the URL. -/
def ofUrl (s : String) : Except String Login :=
  match Url.parse s with
  | .error _ => .error "Redis URL did not parse"
  | .ok url =>
    if url.scheme = "redis+unix" || url.scheme = "unix" then ofSocket url
    else if url.scheme = "redis" || url.scheme = "rediss" then ofNetwork url
    else .error "Redis URL did not parse"

/-- The commands that a client begins with.  A user without a password is not told. -/
def commands (l : Login) : List (List String) :=
  (match l.password with
    | some pass => [["AUTH"] ++ l.username.toList ++ [pass]]
    | none => []) ++
  if l.db = 0 then [] else [["SELECT", toString l.db]]

end Login

end ObjectStorage.Redis
