import ObjectStorage.Peer
import ObjectStorage.Text.Utf8
import ObjectStorage.Url

/-!
# Requests over HTTP

A request is posted to a URL, with names and values in its query and maybe with parts in its body.
It is answered with a status and a body, or not at all.

* `Http.Request`, `Http.Response` — what is sent and answered;
* `Http.Fault` — why there is no answer;
* `Http.post` — post a request;
* `Response.content?` — the body, if all of it came;
* `Http.statusText` — a status in words.
-/

namespace ObjectStorage.Http

/-- A request, as the server sees it. -/
structure Request where
  path : String
  query : List (String × String)
  /-- The parts of a body of several parts, by name. -/
  parts : Option (List (String × Bytes)) := none

/-- An answer. -/
structure Response where
  status : Nat := 200
  body : Bytes := []
  /-- The announced length, if it differs from that of the body. -/
  announced : Option Nat := none

/-- The server of a service, reached over connections. -/
abbrev Server := Peer Request Response

/-- What a server answers that has no answers left. -/
def exhausted : Response := { status := 500, body := Text.utf8 "no scripted reply" }

/-- The statuses with their reasons. -/
def reasons : List (Nat × String) := [
  (100, "Continue"), (101, "Switching Protocols"), (102, "Processing"), (200, "OK"),
  (201, "Created"), (202, "Accepted"), (203, "Non Authoritative Information"),
  (204, "No Content"), (205, "Reset Content"), (206, "Partial Content"), (207, "Multi-Status"),
  (208, "Already Reported"), (226, "IM Used"), (300, "Multiple Choices"),
  (301, "Moved Permanently"), (302, "Found"), (303, "See Other"), (304, "Not Modified"),
  (305, "Use Proxy"), (307, "Temporary Redirect"), (308, "Permanent Redirect"),
  (400, "Bad Request"), (401, "Unauthorized"), (402, "Payment Required"), (403, "Forbidden"),
  (404, "Not Found"), (405, "Method Not Allowed"), (406, "Not Acceptable"),
  (407, "Proxy Authentication Required"), (408, "Request Timeout"), (409, "Conflict"),
  (410, "Gone"), (411, "Length Required"), (412, "Precondition Failed"),
  (413, "Payload Too Large"), (414, "URI Too Long"), (415, "Unsupported Media Type"),
  (416, "Range Not Satisfiable"), (417, "Expectation Failed"), (418, "I'm a teapot"),
  (421, "Misdirected Request"), (422, "Unprocessable Entity"), (423, "Locked"),
  (424, "Failed Dependency"), (425, "Too Early"), (426, "Upgrade Required"),
  (428, "Precondition Required"), (429, "Too Many Requests"),
  (431, "Request Header Fields Too Large"), (451, "Unavailable For Legal Reasons"),
  (500, "Internal Server Error"), (501, "Not Implemented"), (502, "Bad Gateway"),
  (503, "Service Unavailable"), (504, "Gateway Timeout"), (505, "HTTP Version Not Supported"),
  (506, "Variant Also Negotiates"), (507, "Insufficient Storage"), (508, "Loop Detected"),
  (510, "Not Extended"), (511, "Network Authentication Required")]

/-- A status in words. -/
def statusText (status : Nat) : String :=
  s!"{status} " ++ (reasons.lookup status).getD "<unknown status code>"

/-- Has an answer with this status no body, whatever follows it? -/
def isBodiless (status : Nat) : Bool := status = 204 || status = 304

/-- The body of an answer; none if the connection ended before all of it came. -/
def Response.content? (r : Response) : Option Bytes :=
  if isBodiless r.status then some []
  else
    let length := r.announced.getD r.body.length
    if r.body.length < length then none else some (r.body.take length)

/-- Why a request has no answer. -/
inductive Fault
  /-- The request could not be made; it may have a URL. -/
  | unusable (url : Option String)
  /-- The server was not reached, or did not answer. -/
  | unanswered (url : String)
  deriving DecidableEq, Repr

/-- A fault in words. -/
def Fault.message : Fault → String
  | .unusable none => "builder error"
  | .unusable (some url) => s!"builder error for url ({url})"
  | .unanswered url => s!"error sending request for url ({url})"

/-- A fault of a body that did not come in full, in words. -/
def cutBody : String := "error decoding response body"

/-- The URL of a request, with names and values added to its query, and without its user. -/
def target (text : String) (query : List (String × String)) : Except Fault Url :=
  match Url.parse text with
  | .error _ => .error (.unusable none)
  | .ok url =>
    if url.hostText?.isNone then .error (.unusable (some url.text))
    else
      let added := Url.formQuery query
      let url := { url with
        username := ""
        password := none
        query := some (match url.query with
          | none | some "" => added
          | some old => old ++ "&" ++ added) }
      if url.scheme = "http" || url.scheme = "https" then .ok url
      else .error (.unusable (some url.text))

/-- Post a request. -/
def post (text : String) (query : List (String × String)) (parts : Option (List (String × Bytes)))
    (server : Server) : Except Fault Response × Server :=
  match target text query with
  | .error fault => (.error fault, server)
  | .ok url =>
    match server.send exhausted { path := url.pathText, query := url.pairs, parts } with
    | (.answered response, server) => (.ok response, server)
    | (_, server) => (.error (.unanswered { url with fragment := none }.text), server)

end ObjectStorage.Http
