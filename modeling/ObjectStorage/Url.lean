import ObjectStorage.Url.Host

/-!
# URLs

The endpoint of a remote service is given by a URL: scheme, user, host, port, path, query and
fragment, most of which may be missing.  A few special schemes always have a host and read a
backslash as a slash.

* `Url` — a URL by its parts;
* `Url.parse` — reads it, blanks around it and line breaks within it left out;
* `Url.text` — how it is written;
* `Url.hostText?`, `Url.pathText`, `Url.pairs` — parts of it as text.
-/

namespace ObjectStorage

/-- The path of a URL. -/
inductive UrlPath
  /-- Segments, each after a slash. -/
  | segments (list : List String)
  /-- A text that does not start with a slash. -/
  | rootless (text : String)
  deriving DecidableEq, Repr

/-- A URL.  User, password, path, query and fragment are percent encoded. -/
structure Url where
  scheme : String
  username : String := ""
  password : Option String := none
  /-- The host after two slashes, an empty name if there is none; nothing if the slashes are
  missing. -/
  host : Option Url.Host := none
  /-- The port, unless it is the default of the scheme. -/
  port : Option Nat := none
  path : UrlPath := .segments []
  query : Option String := none
  fragment : Option String := none
  deriving DecidableEq, Repr

namespace Url

/-! ### Reading -/

/-- The special schemes with their default ports. -/
def special : List (String × Option Nat) :=
  [("http", some 80), ("https", some 443), ("ws", some 80), ("wss", some 443), ("ftp", some 21),
    ("file", none)]

/-- Is a scheme special? -/
def isSpecial (scheme : String) : Bool := (special.lookup scheme).isSome

/-- The default port of a scheme. -/
def defaultPort (scheme : String) : Option Nat := (special.lookup scheme).getD none

/-- A text as it is read: without controls and blanks at its ends, and without tabs and line
breaks. -/
def clean (cs : List Char) : List Char :=
  let cs := cs.dropWhile (·.toNat ≤ 0x20)
  let cs := (cs.reverse.dropWhile (·.toNat ≤ 0x20)).reverse
  cs.filter fun c => c ≠ '\t' && c ≠ '\n' && c ≠ '\r'

/-- May a character stand in a scheme, after a letter at its start? -/
def inScheme (c : Char) : Bool := c.isAlphanum || c = '+' || c = '-' || c = '.'

/-- The scheme, in lower case, and what follows its colon. -/
def scheme? (cs : List Char) : Option (String × List Char) :=
  let name := cs.takeWhile inScheme
  match name, cs.drop name.length with
  | c :: _, ':' :: rest =>
    if c.isAlpha then some (String.ofList (name.map Char.toLower), rest) else none
  | _, _ => none

/-- Does a character end the authority? -/
def endsAuthority (special : Bool) (c : Char) : Bool :=
  c = '/' || c = '?' || c = '#' || (special && c = '\\')

/-- The user information before the last `@` of an authority, and what follows it. -/
def userInfo (special : Bool) (cs : List Char) :
    Except Fault ((String × Option String) × List Char) :=
  let authority := cs.takeWhile (!endsAuthority special ·)
  if !authority.contains '@' then .ok (("", none), cs)
  else
    let after := (authority.reverse.takeWhile (· ≠ '@')).reverse
    let info := authority.take (authority.length - after.length - 1)
    let rest := cs.drop (info.length + 1)
    if info.isEmpty && rest.head?.any (endsAuthority special) then .error .emptyHost
    else
      let user := encode inUserInfo (info.takeWhile (· ≠ ':'))
      let pass := (info.dropWhile (· ≠ ':')).drop 1
      .ok ((user, if pass.isEmpty then none else some (encode inUserInfo pass)), rest)

/-- The characters of a host, up to a colon outside brackets or the end of the authority. -/
def hostChars (special : Bool) : (bracket : Bool) → List Char → List Char
  | _, [] => []
  | bracket, c :: cs =>
    if endsAuthority special c || (c = ':' && !bracket) then []
    else c :: hostChars special (if c = '[' then true else if c = ']' then false else bracket) cs

/-- The port after a colon, unless it is missing or the default one, and what follows it. -/
def port? (default : Option Nat) : List Char → Except Fault (Option Nat × List Char)
  | ':' :: cs =>
    let ds := cs.takeWhile Char.isDigit
    let rest := cs.drop ds.length
    if rest.head?.any fun c => !endsAuthority true c then .error .invalidPort
    else match Host.digitsIn 10 ds with
      | some n =>
        if 65535 < n then .error .invalidPort
        else .ok (if ds.isEmpty || some n = default then none else some n, rest)
      | none => .error .invalidPort
  | cs => .ok (none, cs)

/-- Is a segment the one that stays, also when its dot is encoded? -/
def isDot (segment : List Char) : Bool :=
  ["." , "%2e"].contains (String.ofList (segment.map Char.toLower))

/-- Is a segment the one that goes up, also when its dots are encoded? -/
def isDoubleDot (segment : List Char) : Bool :=
  ["..", "%2e%2e", "%2e.", ".%2e"].contains (String.ofList (segment.map Char.toLower))

/-- Follow segments from those that stand already: dots stay or go up, and leave an empty segment
if they come last. -/
def follow (done : List String) : List (List Char) → List String
  | [] => done
  | [segment] =>
    if isDoubleDot segment then done.dropLast ++ [""]
    else if isDot segment then done ++ [""]
    else done ++ [encode inPath segment]
  | segment :: rest =>
    if isDoubleDot segment then follow done.dropLast rest
    else if isDot segment then follow done rest
    else follow (done ++ [encode inPath segment]) rest

/-- The path that follows an authority or a slash. -/
def pathOf (special : Bool) (cs : List Char) : UrlPath :=
  let isSlash (c : Char) : Bool := c = '/' || (special && c = '\\')
  if cs.isEmpty && !special then .segments []
  else
    let cs := if cs.head?.any isSlash then cs.drop 1 else cs
    .segments (follow [] (splitAt isSlash cs))

/-- Put path, query and fragment into a URL. -/
def finish (url : Url) (pathOf : List Char → UrlPath) (cs : List Char) : Url :=
  let special := isSpecial url.scheme
  let path := cs.takeWhile fun c => c ≠ '?' && c ≠ '#'
  let rest := cs.drop path.length
  let query := (rest.takeWhile (· ≠ '#')).drop 1
  let fragment := rest.dropWhile (· ≠ '#')
  { url with
    path := pathOf path
    query := if rest.head? == some '?' then some (encode (inQuery special) query) else none
    fragment := if fragment.isEmpty then none else some (encode inFragment (fragment.drop 1)) }

/-- Read what follows the two slashes of an authority. -/
def withAuthority (scheme : String) (cs : List Char) : Except Fault Url := do
  let special := isSpecial scheme
  let ((username, password), cs) ← userInfo special cs
  let text := hostChars special false cs
  let rest := cs.drop text.length
  if special && text.isEmpty then throw .emptyHost
  let host ← if special then Host.domain? text else Host.opaque? text
  if text.isEmpty && rest.head? == some ':' then throw .emptyHost
  let (port, rest) ← port? (defaultPort scheme) rest
  if text.isEmpty && (username ≠ "" || password.isSome) then throw .emptyHost
  pure (finish { scheme, username, password, host := some host, port } (pathOf special) rest)

/-- Read what follows the scheme of local files, whose host may be missing. -/
def fileUrl (cs : List Char) : Except Fault Url := do
  let isSlash (c : Char) : Bool := c = '/' || c = '\\'
  match cs with
  | a :: b :: rest =>
    if isSlash a && isSlash b then
      let text := rest.takeWhile (!endsAuthority true ·)
      let host ← if text.isEmpty then pure (Host.name "") else Host.domain? text
      let host := if host = .name "localhost" then .name "" else host
      pure (finish { scheme := "file", host := some host } (pathOf true) (rest.drop text.length))
    else pure (finish { scheme := "file", host := some (.name "") } (pathOf true) cs)
  | _ => pure (finish { scheme := "file", host := some (.name "") } (pathOf true) cs)

/-- Read a URL. -/
def parse (s : String) : Except Fault Url := do
  match scheme? (clean s.toList) with
  | none => throw .noScheme
  | some (scheme, rest) =>
    if scheme = "file" then fileUrl rest
    else if isSpecial scheme then
      withAuthority scheme (rest.dropWhile fun c => c = '/' || c = '\\')
    else match rest with
      | '/' :: '/' :: rest => withAuthority scheme rest
      | '/' :: _ => pure (finish { scheme } (pathOf false) rest)
      | _ => pure (finish { scheme } (fun cs => .rootless (encode isControl cs)) rest)

/-! ### Writing -/

/-- The host, unless it is missing or empty. -/
def hostText? (url : Url) : Option String := (url.host.map Host.text).filter (· ≠ "")

/-- The path as text. -/
def pathText (url : Url) : String := match url.path with
  | .segments list => String.join (list.map ("/" ++ ·))
  | .rootless text => text

/-- The names and values of the query. -/
def pairs (url : Url) : List (String × String) := formPairs (url.query.getD "")

/-- User and password as they stand before the host. -/
def userText (url : Url) : String :=
  match url.username, url.password with
  | "", none => ""
  | user, none => user ++ "@"
  | user, some pass => user ++ ":" ++ pass ++ "@"

/-- Two slashes and what stands between them and the path. -/
def authorityText (url : Url) : String := match url.host with
  | some host =>
    "//" ++ url.userText ++ host.text ++ (url.port.elim "" fun p => ":" ++ toString p)
  | none => match url.path with
    | .segments ("" :: _ :: _) => "/."
    | _ => ""

/-- A URL as text. -/
def text (url : Url) : String :=
  url.scheme ++ ":" ++ url.authorityText ++ url.pathText ++ url.query.elim "" ("?" ++ ·)
    ++ url.fragment.elim "" ("#" ++ ·)

end Url

end ObjectStorage
