import ObjectStorage.Ipmfs
import ObjectStorage.Proofs.Url.Encoding

/-!
# What an IPFS node does with requests

The answers of a server are fixed beforehand, and so is what is proved about it: its answers are
those of a node if there is a node that gives them to the requests that were made.  A node keeps
files at places, which are lists of names, and it has its own way to read paths.

* `IsAddress` — an endpoint at which a node takes commands;
* `command_eq` — a command reaches the node as it is meant, name, path and options;
* `Files`, `Handles` — what a node keeps, and how it handles a request;
* `Served` — all requests from one state of a server to another one were handled by a node;
* `Served.first`, `Served.last`, `Served.of_send` — the first request, the end, and one request.
-/

namespace ObjectStorage.Ipmfs

/-! ### Requests -/

/-- What a text is read as is decided by the value alone, whatever failures look like. -/
theorem ok_of_toOption {ε α : Type} {result : Except ε α} {a : α}
    (h : result.toOption = some a) : result = .ok a := by
  cases result with
  | ok b => exact congrArg Except.ok (Option.some.inj h)
  | error e => cases h

/-- Commands to the endpoint are posted to a host, below a path, with no query but their own. -/
def IsAddress (endpoint base : String) : Prop :=
  ∀ name ∈ ["stat", "read", "rm"], ∃ url, Url.parse (commandUrl endpoint name) = .ok url
    ∧ url.hostText?.isSome ∧ (url.scheme = "http" ∨ url.scheme = "https") ∧ url.query = none
    ∧ url.pathText = base ++ name

/-- Where no endpoint is configured, there is one at which a node takes commands. -/
theorem isAddress_default {c : Config} (h : c.endpoint = none) :
    IsAddress c.endpointText "/api/v0/files/" := by
  rw [Config.endpointText, h, Option.getD_none]
  intro name hname
  refine ⟨{ scheme := "http", host := some (.name "localhost"), port := some 5001,
            path := .segments ["api", "v0", "files", name] }, ?_⟩
  simp only [List.mem_cons, List.not_mem_nil, or_false] at hname
  obtain rfl | rfl | rfl := hname
  all_goals exact ⟨ok_of_toOption (by decide +kernel), by rfl, .inl rfl, rfl, by decide +kernel⟩

/-- A command as the node sees it. -/
def request (base name path : String) (options : List (String × String))
    (parts : Option (List (String × Bytes))) : Http.Request :=
  { path := base ++ name, query := ("arg", path) :: options, parts }

/-- What a command makes of the end of its exchange, where it is sent to a URL. -/
def heard (url : String) : Exchange Http.Response → Except Error Http.Response
  | .answered r => .ok r
  | _ => .error (unanswered (.unanswered url))

/-- Requests for different commands have different paths. -/
theorem request_path_ne {base name name' path : String} {options : List (String × String)}
    {parts : Option (List (String × Bytes))} (h : name ≠ name') :
    (request base name path options parts).path ≠ base ++ name' := by
  intro hpath
  exact h ((String.append_right_inj base).1 hpath)

section

variable {endpoint base : String} (haddress : IsAddress endpoint base) {name : String}
  (hname : name ∈ ["stat", "read", "rm"])
include haddress hname

theorem target_command (query : List (String × String)) :
    ∃ url, Http.target (commandUrl endpoint name) query = .ok url
      ∧ url.pathText = base ++ name ∧ url.pairs = query := by
  obtain ⟨url, hparse, hhost, hscheme, hquery, hpath⟩ := haddress name hname
  have hisHost : url.hostText?.isNone = false := by
    rw [Option.isNone_eq_false_iff]
    exact hhost
  have hisHttp : (decide (url.scheme = "http") || decide (url.scheme = "https")) = true := by
    rw [Bool.or_eq_true, decide_eq_true_iff, decide_eq_true_iff]
    exact hscheme
  refine ⟨{ url with username := "", password := none, query := some (Url.formQuery query) },
    ?_, hpath, Url.formPairs_formQuery query⟩
  simp only [Http.target, hparse, hisHost, hquery, Bool.false_eq_true, if_false, hisHttp, if_true]

/-- **A command** is sent as a request for its name, its path and its options. -/
theorem command_eq (path : String) (options : List (String × String))
    (parts : Option (List (String × Bytes))) (server : Http.Server) :
    ∃ url, command endpoint name path options parts server
      = (heard url (server.send Http.exhausted (request base name path options parts)).1,
        (server.send Http.exhausted (request base name path options parts)).2) := by
  obtain ⟨url, htarget, hpath, hpairs⟩ :=
    target_command haddress hname (("arg", path) :: options)
  refine ⟨{ url with fragment := none }.text, ?_⟩
  rcases hsend : server.send Http.exhausted (request base name path options parts) with ⟨e, s⟩
  rw [request] at hsend
  rw [command, Http.post, htarget]
  dsimp only
  rw [hpath, hpairs, hsend]
  cases e <;> rfl

end

/-! ### Nodes -/

/-- The files of a node, by their places. -/
abbrev Files := List String → Option Bytes

/-- The files that are left when a place is removed, alone or with all below it. -/
def Files.without (files : Files) (whole : Bool) (place : List String) : Files := fun q =>
  if if whole then place.isPrefixOf q else place == q then none else files q

/-- A number in a query. -/
def number? (request : Http.Request) (name : String) : Option Nat :=
  (request.query.lookup name).bind String.toNat?

/-- A successful answer with a body. -/
def Tells (answer : Option Http.Response) (body : Bytes) : Prop :=
  ∃ r, answer = some r ∧ r.status = 200 ∧ r.content? = some body

/-- How a node handles a request.  It tells the size of a file; it gives the bytes of a file from an
offset on, up to a count; and it removes what is at a place, with all below it if it is told so.
Where it removes nothing it does not tell of a success. -/
structure Handles (base : String) (place : String → List String) (files : Files)
    (request : Http.Request) (answer : Option Http.Response) (files' : Files) : Prop where
  stat (hcommand : request.path = base ++ "stat") {path : String} {content : Bytes}
    (harg : request.query.lookup "arg" = some path)
    (hfile : files (place path) = some content) :
    files' = files ∧ ∃ body stat, Tells answer body
      ∧ Json.Reader.document Stat.reader body = .ok stat ∧ stat.size.toNat = content.length
  read (hcommand : request.path = base ++ "read") {path : String} {content : Bytes}
    (harg : request.query.lookup "arg" = some path)
    (hfile : files (place path) = some content) :
    files' = files ∧ Tells answer
      ((content.drop ((number? request "offset").getD 0)).take
        ((number? request "count").getD content.length))
  remove (hcommand : request.path = base ++ "rm") {path : String}
    (harg : request.query.lookup "arg" = some path) :
    files' = files.without (request.query.lookup "recursive" == some "true") (place path)
      ∨ files' = files ∧ ∀ r, answer = some r → r.status ≠ 200

/-- The requests from one state of a server to another one were handled by a node, which keeps the
first files before them and the second ones after them. -/
inductive Served (base : String) (place : String → List String) :
    Files → Http.Server → Files → Http.Server → Prop
  | refl (files : Files) (server : Http.Server) : Served base place files server files server
  | step {files files' files'' : Files} {server server'' : Http.Server} {request : Http.Request}
    {answer : Option Http.Response} {rest : List (Option Http.Response)}
    (hanswers : server.answers = answer :: rest)
    (hhandles : Handles base place files request answer files')
    (hnext : Served base place files'
      { server with answers := rest, received := request :: server.received } files'' server'') :
    Served base place files server files'' server''

namespace Served

variable {base : String} {place : String → List String} {files files' : Files}
  {server server' : Http.Server}

/-- What was received stays on record. -/
theorem received_suffix (h : Served base place files server files' server') :
    server.received <:+ server'.received := by
  induction h with
  | refl => exact List.suffix_rfl
  | step hanswers hhandles hnext ih => exact (List.suffix_cons _ _).trans ih

/-- **Without a request** nothing changes. -/
theorem last (h : Served base place files server files' server')
    (hreceived : server'.received = server.received) : files' = files := by
  cases h with
  | refl => rfl
  | step hanswers hhandles hnext =>
    have hlength := hnext.received_suffix.length_le
    rw [hreceived, List.length_cons] at hlength
    omega

/-- **The first request** is handled by the node, and so are those that follow it. -/
theorem first (h : Served base place files server files' server') {request : Http.Request}
    (hreceived : request :: server.received <:+ server'.received) :
    ∃ answer rest files₁, server.answers = answer :: rest
      ∧ Handles base place files request answer files₁
      ∧ Served base place files₁
          { server with answers := rest, received := request :: server.received }
          files' server' := by
  cases h with
  | refl =>
    have hlength := hreceived.length_le
    rw [List.length_cons] at hlength
    omega
  | @step _ files₁ _ _ _ request' answer rest hanswers hhandles hnext =>
    have hsame : request' :: server.received = request :: server.received :=
      List.IsSuffix.eq_of_length
        (List.suffix_of_suffix_length_le hnext.received_suffix hreceived (by simp)) (by simp)
    rw [List.cons.injEq] at hsame
    obtain ⟨rfl, -⟩ := hsame
    exact ⟨answer, rest, files₁, hanswers, hhandles, hnext⟩

/-- How an exchange with a server ends that gives an answer, or closes the connection. -/
def ending : Option Http.Response → Exchange Http.Response
  | some r => .answered r
  | none => .closed

/-- **The first request** to a server that listens: the node handles it and gives the answer. -/
theorem first_send (h : Served base place files server files' server')
    (hlistens : server.listens = true) {request : Http.Request}
    (hsent : (server.send Http.exhausted request).2.received <:+ server'.received) :
    ∃ answer rest files₁, server.answers = answer :: rest
      ∧ (server.send Http.exhausted request).1 = ending answer
      ∧ (server.send Http.exhausted request).2.listens = true
      ∧ Handles base place files request answer files₁
      ∧ Served base place files₁ (server.send Http.exhausted request).2 files' server' := by
  rw [Peer.received_send hlistens] at hsent
  obtain ⟨answer, rest, files₁, hanswers, hhandles, hnext⟩ := h.first hsent
  refine ⟨answer, rest, files₁, hanswers, ?_⟩
  cases answer with
  | none =>
    rw [Peer.send_closed hlistens hanswers]
    exact ⟨rfl, hlistens, hhandles, hnext⟩
  | some r =>
    rw [Peer.send_answered hlistens hanswers]
    exact ⟨rfl, hlistens, hhandles, hnext⟩

/-- **One request** is handled by the node if the server listens, and else there is none. -/
theorem of_send {request : Http.Request}
    (h : Served base place files server files' (server.send Http.exhausted request).2) :
    server.listens = false ∧ files' = files
      ∨ server.listens = true ∧ ∃ answer rest, server.answers = answer :: rest
        ∧ Handles base place files request answer files' := by
  cases hlistens : server.listens with
  | false =>
    rw [Peer.send_refused hlistens] at h
    exact .inl ⟨rfl, h.last rfl⟩
  | true =>
    obtain ⟨answer, rest, files₁, hanswers, -, -, hhandles, hnext⟩ :=
      h.first_send hlistens List.suffix_rfl
    rw [hnext.last rfl]
    exact .inr ⟨rfl, answer, rest, hanswers, hhandles⟩

end Served

end ObjectStorage.Ipmfs
