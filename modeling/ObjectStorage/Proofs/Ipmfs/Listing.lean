import ObjectStorage.Proofs.Ipmfs.Node
import ObjectStorage.Proofs.Layer.Pull

/-!
# Listing a directory of an IPFS node with retries

A listing is one request, which is made when the first page is asked for.  The pager notes that it
has asked before it knows how the request ends, and a retry asks the same pager again.  So the
retry after a failure finds a listing that is at its end already: the entries that the node would
have told now are lost, and the listing succeeds without them.

* `Usable`, `IsAway`, `Holds` — what a node has to do for the listing of a directory;
* `nextPage_of_asked`, `nextPage_of_reply`, `nextPage_of_away` — one pull;
* `listing_of_reply`, `listing_of_away` — a listing with retries, by the first answer;
* `listing_delivered_iff` — which listings deliver everything: those whose first answer is not a
  failure, and those of directories without entries.
-/

namespace ObjectStorage.Ipmfs

/-! ### What the node does -/

/-- The endpoint is one to which requests can be sent. -/
def Usable (endpoint : String) : Prop :=
  ∃ url, Http.target (commandUrl endpoint "ls") [] = .ok url

/-- The node is away for now: the connection ends without an answer, or a server in between
answers for it. -/
def IsAway : Option Http.Response → Prop
  | none => True
  | some r => r.status ∈ awayStatuses ∧ r.content?.isSome

/-- An answer tells the entries of a directory. -/
def Holds (r : Http.Response) (listed : List Listed) : Prop :=
  r.status = 200 ∧
    ∃ body, r.content? = some body ∧ Json.Reader.document Listed.listReader body = .ok listed

/-- The objects that the entries of a directory are. -/
def objects (path : String) (listed : List Listed) : List Entry :=
  listed.map (Listed.entry (if path = Path.root then "" else path))

/-- Whether a request can be made does not depend on its query. -/
theorem target_ok {text : String} {query : List (String × String)} {url : Url}
    (h : Http.target text query = .ok url) (query' : List (String × String)) :
    ∃ url', Http.target text query' = .ok url' := by
  unfold Http.target at h ⊢
  cases hparse : Url.parse text with
  | error fault => simp [hparse] at h
  | ok url₀ =>
    simp only [hparse] at h ⊢
    by_cases hhost : url₀.hostText?.isNone = true
    · simp [hhost] at h
    · simp only [hhost] at h ⊢
      by_cases hscheme : (url₀.scheme = "http" || url₀.scheme = "https") = true
      · exact ⟨_, by simp only [hscheme]; rfl⟩
      · simp [hscheme] at h

theorem failure_isTemporary {r : Http.Response} (h : IsAway (some r)) :
    (failure r).isTemporary = true ∧ (failure r).kind = .unexpected := by
  obtain ⟨hstatus, hbody⟩ := h
  obtain ⟨body, hbody⟩ := Option.isSome_iff_exists.1 hbody
  have hne : r.status ≠ 500 := by
    intro h500
    rw [h500] at hstatus
    exact absurd hstatus (by decide)
  have hcontains : awayStatuses.contains r.status = true := List.contains_iff_mem.2 hstatus
  constructor
  · simp only [failure, content, hbody, hcontains, if_true]
    rfl
  · simp only [failure, content, hbody, hcontains, if_true, hne]
    rfl

/-! ### One pull -/

theorem nextPage_of_asked {l : Listing} (h : l.asked = true) (endpoint root : String)
    (server : Http.Server) : nextPage endpoint root l server = (.ok none, l, server) := by
  rw [nextPage, if_pos h]

section Request

variable {endpoint : String} (husable : Usable endpoint) {server : Http.Server}
  (hlistens : server.listens = true)
include husable hlistens

theorem command_of_answered {r : Http.Response} {rest : List (Option Http.Response)}
    (hanswers : server.answers = some r :: rest) (path : String)
    (options : List (String × String)) (parts : Option (List (String × Bytes))) :
    ∃ server', command endpoint "ls" path options parts server = (.ok r, server') := by
  obtain ⟨url₀, husable⟩ := husable
  obtain ⟨url, hurl⟩ := target_ok husable (("arg", path) :: options)
  have hsend := Peer.send_answered hlistens hanswers Http.exhausted ⟨url.pathText, url.pairs, parts⟩
  refine ⟨(server.send Http.exhausted ⟨url.pathText, url.pairs, parts⟩).2, ?_⟩
  simp only [command, Http.post, hurl, hsend]

theorem command_of_closed {rest : List (Option Http.Response)}
    (hanswers : server.answers = none :: rest) (path : String)
    (options : List (String × String)) (parts : Option (List (String × Bytes))) :
    ∃ url server', command endpoint "ls" path options parts server
      = (.error (unanswered (.unanswered url)), server') := by
  obtain ⟨url₀, husable⟩ := husable
  obtain ⟨url, hurl⟩ := target_ok husable (("arg", path) :: options)
  have hsend := Peer.send_closed hlistens hanswers Http.exhausted ⟨url.pathText, url.pairs, parts⟩
  refine ⟨{ url with fragment := none }.text,
    (server.send Http.exhausted ⟨url.pathText, url.pairs, parts⟩).2, ?_⟩
  simp only [command, Http.post, hurl, hsend]

/-- The page of a listing whose request is answered with entries. -/
theorem nextPage_of_reply {r : Http.Response} {rest : List (Option Http.Response)}
    {listed : List Listed} (hanswers : server.answers = some r :: rest) (hholds : Holds r listed)
    {l : Listing} (hl : l.asked = false) (root : String) :
    ∃ server', nextPage endpoint root l server
      = (.ok (if listed = [] then none else some (objects l.path listed)),
          { l with asked := true }, server') := by
  obtain ⟨hstatus, body, hbody, hread⟩ := hholds
  obtain ⟨server', hcommand⟩ := command_of_answered husable hlistens hanswers
    (Path.underRoot root l.path) [("long", "true")] none
  refine ⟨server', ?_⟩
  have hentries : entries l.path r = .ok (objects l.path listed) := by
    simp only [entries, hstatus, if_true, content, hbody, decoded, bind, Except.bind, hread]
    rfl
  rw [nextPage, if_neg (by rw [hl]; exact Bool.false_ne_true)]
  simp only [hcommand, Except.bind, hentries, Except.map, List.isEmpty_iff, objects,
    List.map_eq_nil_iff]

/-- A pull fails while the node is away, but the pager has asked. -/
theorem nextPage_of_away {a : Option Http.Response} {rest : List (Option Http.Response)}
    (hanswers : server.answers = a :: rest) (haway : IsAway a)
    {l : Listing} (hl : l.asked = false) (root : String) :
    ∃ e server', nextPage endpoint root l server = (.error e, { l with asked := true }, server')
      ∧ e.isTemporary = true := by
  cases a with
  | none =>
    obtain ⟨url, server', hcommand⟩ := command_of_closed husable hlistens hanswers
      (Path.underRoot root l.path) [("long", "true")] none
    refine ⟨unanswered (.unanswered url), server', ?_, rfl⟩
    rw [nextPage, if_neg (by rw [hl]; exact Bool.false_ne_true)]
    simp only [hcommand, Except.bind, Except.map]
  | some r =>
    obtain ⟨server', hcommand⟩ := command_of_answered husable hlistens hanswers
      (Path.underRoot root l.path) [("long", "true")] none
    obtain ⟨htemporary, hkind⟩ := failure_isTemporary haway
    have hstatus : r.status ≠ 200 := by
      intro h200
      have hmem := haway.1
      rw [h200] at hmem
      exact absurd hmem (by decide)
    have hentries : entries l.path r = .error (failure r) := by
      simp only [entries, if_neg hstatus, hkind]
      rfl
    refine ⟨failure r, server', ?_, htemporary⟩
    rw [nextPage, if_neg (by rw [hl]; exact Bool.false_ne_true)]
    simp only [hcommand, Except.bind, hentries, Except.map]

end Request

/-! ### A whole listing -/

/-- A listing as the service sees it after its request. -/
theorem pull_of_asked (c : Config) (dir : String) (server : Http.Server) :
    (service c).pull .async { path := dir, asked := true } server
      = (.ok none, { path := dir, asked := true }, server) :=
  nextPage_of_asked (l := { path := dir, asked := true }) rfl c.endpointText c.rootPath server

/-- The pager of a directory, through a layer that tries again. -/
def retried (b : Backoff) (dir : String) : Pager Listing :=
  { source := .service { path := dir }, path := dir, marks := [.retry b] }

/-- List a directory through a layer that tries again: all pages up to the end, or `most`. -/
def listing (c : Config) (b : Backoff) (dir : String) (most : Nat) :
    Run Http.Server (List (Except Error Page)) := do
  let pager ← (Stack.call (service c) [.retry b] .async dir .list : Run Http.Server (Pager Listing))
  pager.pages (service c) .async most

/-- The entries that pages deliver. -/
def delivered (pages : List (Except Error Page)) : List Entry :=
  pages.flatMap fun
    | .ok (some entries) => entries
    | _ => []

theorem listing_eq (c : Config) (b : Backoff) (dir : String) (most : Nat)
    (w : World Http.Server) :
    listing c b dir most w = (retried b dir).pages (service c) .async most w := by
  have hbase : (Stack.base (service c) .async dir .list : Run Http.Server (Pager Listing)) w
      = (.ok { source := .service { path := dir }, path := dir }, w) := rfl
  have hcall : (Stack.call (service c) [.retry b] .async dir .list :
      Run Http.Server (Pager Listing)) w = (.ok (retried b dir), w) := by
    simp only [Stack.call, List.foldr, Layer.around, Retry.run]
    rw [Run.bind_of_ok (Retry.attempts_of_ok hbase b.maxTimes)]
    rfl
  rw [listing, Run.bind_of_ok hcall]

section Listing

variable {c : Config} (husable : Usable c.endpointText) {w : World Http.Server}
  (hlistens : w.service.listens = true)
include husable hlistens

/-- The first answer holds the entries: they are delivered. -/
theorem listing_of_reply (b : Backoff) (dir : String) {r : Http.Response}
    {rest : List (Option Http.Response)} (hanswers : w.service.answers = some r :: rest)
    {listed : List Listed} (hholds : Holds r listed) {most : Nat} (hmost : 2 ≤ most) :
    ∃ w', listing c b dir most w = (.ok (if listed = [] then [.ok none]
      else [.ok (some (objects dir listed)), .ok none]), w') := by
  obtain ⟨most, rfl⟩ := Nat.exists_eq_add_of_le' hmost
  obtain ⟨server', hpage⟩ := nextPage_of_reply husable hlistens hanswers hholds
    (l := { path := dir }) rfl c.rootPath
  have hfirst : (service c).pull .async { path := dir } w.service = _ := hpage
  obtain ⟨p', w', hpull, hmarks, hsource, -⟩ :=
    Pager.pull_of_ok (p := retried b dir) rfl rfl hfirst
  rw [listing_eq]
  by_cases hlisted : listed = []
  · simp only [hlisted, if_true] at hpull ⊢
    exact Pager.pages_of_end hpull (most + 1)
  · simp only [hlisted, if_false] at hpull ⊢
    obtain ⟨p'', w'', hagain, -, -, -⟩ :=
      Pager.pull_of_ok hmarks hsource (pull_of_asked c dir w'.service)
    obtain ⟨w₃, hend⟩ := Pager.pages_of_end hagain most
    exact ⟨w₃, Pager.pages_of_page hpull hend⟩

/-- The node is away at first: the listing succeeds without entries, whatever follows. -/
theorem listing_of_away {b : Backoff} (hleft : 0 < b.maxTimes) (dir : String)
    {a : Option Http.Response} {rest : List (Option Http.Response)}
    (hanswers : w.service.answers = a :: rest) (haway : IsAway a) {most : Nat} (hmost : 2 ≤ most) :
    ∃ w', listing c b dir most w = (.ok [.ok none], w') := by
  obtain ⟨most, rfl⟩ := Nat.exists_eq_add_of_le' hmost
  obtain ⟨e, server', hpage, he⟩ := nextPage_of_away husable hlistens hanswers haway
    (l := { path := dir }) rfl c.rootPath
  have hfails : (service c).pull .async { path := dir } w.service = _ := hpage
  obtain ⟨p', w', hpull, -, -, -⟩ := Pager.pull_of_temporary (p := retried b dir) rfl hleft rfl
    hfails he (pull_of_asked c dir server')
  rw [listing_eq]
  exact Pager.pages_of_end hpull (most + 1)

end Listing

/-- What a listing delivers of the entries that a node tells after some failures, no more of them
than there are retries.  It always succeeds and comes to its end, but only a node that tells the
entries at once, or has none to tell, is listed in full. -/
theorem listing_delivered_iff {c : Config} (husable : Usable c.endpointText) {b : Backoff}
    {w : World Http.Server} (hlistens : w.service.listens = true)
    {failures rest : List (Option Http.Response)} {r : Http.Response} {listed : List Listed}
    (hanswers : w.service.answers = failures ++ some r :: rest)
    (haway : ∀ a ∈ failures, IsAway a) (hleft : failures.length ≤ b.maxTimes)
    (hholds : Holds r listed) (dir : String) {most : Nat} (hmost : 2 ≤ most) :
    ∃ pages w', listing c b dir most w = (.ok pages, w')
      ∧ (pages = [.ok none] ∨ pages = [.ok (some (objects dir listed)), .ok none])
      ∧ (delivered pages = objects dir listed ↔ failures = [] ∨ listed = []) := by
  have hnone : delivered [.ok none] = objects dir listed ↔ listed = [] := by
    rw [objects, eq_comm, show delivered [.ok none] = [] from rfl, List.map_eq_nil_iff]
  cases failures with
  | nil =>
    obtain ⟨w', hrun⟩ := listing_of_reply husable hlistens b dir hanswers hholds hmost
    by_cases hlisted : listed = []
    · rw [if_pos hlisted] at hrun
      exact ⟨_, w', hrun, .inl rfl, by rw [hnone]; simp [hlisted]⟩
    · rw [if_neg hlisted] at hrun
      exact ⟨_, w', hrun, .inr rfl, by simp [delivered]⟩
  | cons a failures =>
    have hpos : 0 < b.maxTimes := Nat.lt_of_lt_of_le (Nat.succ_pos failures.length) hleft
    obtain ⟨w', hrun⟩ := listing_of_away husable hlistens hpos dir hanswers
      (haway a List.mem_cons_self) hmost
    exact ⟨_, w', hrun, .inl rfl, by rw [hnone]; simp⟩

/-! ### A directory that shows empty -/

/-- The endpoint where none is configured is one to which requests can be sent. -/
theorem usable_default : Usable (Config.endpointText {}) := by
  have hok : (Http.target (commandUrl defaultEndpoint "ls") []).isOk = true := by decide +kernel
  cases h : Http.target (commandUrl defaultEndpoint "ls") [] with
  | ok url => exact ⟨url, h⟩
  | error fault => simp [h, Except.isOk, Except.toBool] at hok

/-- A proxy that has no node behind it. -/
def busy : Http.Response := { status := 503, body := Text.utf8 "busy" }

/-- The answer of a node that knows of one file. -/
def oneFile : Http.Response :=
  { body := Text.utf8 "\x7b\"Entries\":[\x7b\"Name\":\"a\"\x7d]\x7d" }

/-- The node is away when it is asked, and back when it is asked again. -/
def awayOnce : World Http.Server := { service := { answers := [some busy, some oneFile] } }

theorem isAway_busy : IsAway (some busy) := ⟨by decide, by decide +kernel⟩

theorem holds_oneFile : Holds oneFile [{ name := "a" }] :=
  ⟨rfl, oneFile.body, by decide +kernel, ok_of_toOption (by decide +kernel)⟩

theorem listing_delivered_iff_awayOnce :
    Usable (Config.endpointText {}) ∧ awayOnce.service.listens = true
      ∧ awayOnce.service.answers = [some busy] ++ some oneFile :: []
      ∧ (∀ a ∈ [some busy], IsAway a) ∧ [some busy].length ≤ 1
      ∧ Holds oneFile [{ name := "a" }] ∧ 2 ≤ 2
      ∧ ∃ pages w', listing {} { maxTimes := 1 } "p/" 2 awayOnce = (.ok pages, w')
        ∧ (pages = [.ok none] ∨ pages = [.ok (some (objects "p/" [{ name := "a" }])), .ok none])
        ∧ (delivered pages = objects "p/" [{ name := "a" }]
          ↔ [some busy] = [] ∨ [({ name := "a" } : Listed)] = []) := by
  have haway : ∀ a ∈ [some busy], IsAway a := by
    intro a ha
    rw [List.mem_singleton.1 ha]
    exact isAway_busy
  exact ⟨usable_default, rfl, rfl, haway, Nat.le_refl 1, holds_oneFile, Nat.le_refl 2,
    listing_delivered_iff (w := awayOnce) (b := { maxTimes := 1 }) (c := {}) usable_default rfl
      (r := oneFile) rfl haway (Nat.le_refl 1) holds_oneFile "p/" (Nat.le_refl 2)⟩

/-- One failure and one retry, and the only entry of the directory is lost without an error. -/
theorem awayOnce_shows_empty :
    IsAway (some busy) ∧ Holds oneFile [{ name := "a" }]
      ∧ ∃ w', listing {} { maxTimes := 1 } "p/" 2 awayOnce = (.ok [.ok none], w')
        ∧ delivered [.ok none] ≠ objects "p/" [{ name := "a" }] := by
  have hleft : 0 < ({ maxTimes := 1 } : Backoff).maxTimes := Nat.one_pos
  obtain ⟨w', hrun⟩ := listing_of_away (w := awayOnce) usable_default rfl hleft "p/" rfl
    isAway_busy (Nat.le_refl 2)
  refine ⟨isAway_busy, holds_oneFile, w', hrun, ?_⟩
  intro h
  exact absurd (congrArg List.length h) (by decide)

end ObjectStorage.Ipmfs
