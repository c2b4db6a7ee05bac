/-!
# The other side of a connection

A remote service is reached over a connection.  What the other side does is known beforehand: it
listens or does not, and it has a list of answers, one for each request, some of which are to close
the connection without an answer.

* `Peer` — the other side, with the requests that it has received;
* `Exchange` — how a request ends;
* `Peer.send` — send a request;
* `Peer.receive` — the other side receives something that needs no answer.
-/

namespace ObjectStorage

/-- The other side of a connection. -/
structure Peer (Request Answer : Type) where
  listens : Bool := true
  /-- The answers to come; `none` closes the connection. -/
  answers : List (Option Answer) := []
  /-- What was received, the latest first. -/
  received : List Request := []

/-- How a request ends. -/
inductive Exchange (Answer : Type)
  /-- Nobody listens. -/
  | refused
  /-- The connection ends without an answer. -/
  | closed
  | answered (answer : Answer)

namespace Peer

variable {Request Answer : Type}

/-- The other side receives something that needs no answer. -/
def receive (p : Peer Request Answer) (request : Request) : Peer Request Answer :=
  if p.listens then { p with received := request :: p.received } else p

/-- Send a request.  When no answers are left, the other side answers `exhausted`. -/
def send (exhausted : Answer) (request : Request) (p : Peer Request Answer) :
    Exchange Answer × Peer Request Answer :=
  if p.listens then
    let p := p.receive request
    match p.answers with
    | [] => (.answered exhausted, p)
    | some answer :: rest => (.answered answer, { p with answers := rest })
    | none :: rest => (.closed, { p with answers := rest })
  else (.refused, p)

theorem send_answered {p : Peer Request Answer} (hlistens : p.listens = true) {answer : Answer}
    {rest : List (Option Answer)} (hanswers : p.answers = some answer :: rest)
    (exhausted : Answer) (request : Request) :
    p.send exhausted request
      = (.answered answer, { p with answers := rest, received := request :: p.received }) := by
  simp only [send, receive, hlistens, hanswers, if_true]

theorem send_closed {p : Peer Request Answer} (hlistens : p.listens = true)
    {rest : List (Option Answer)} (hanswers : p.answers = none :: rest)
    (exhausted : Answer) (request : Request) :
    p.send exhausted request
      = (.closed, { p with answers := rest, received := request :: p.received }) := by
  simp only [send, receive, hlistens, hanswers, if_true]

theorem send_refused {p : Peer Request Answer} (hlistens : p.listens = false)
    (exhausted : Answer) (request : Request) : p.send exhausted request = (.refused, p) := by
  simp only [send, hlistens, Bool.false_eq_true, if_false]

/-- Who listens has every request on record. -/
theorem received_send {p : Peer Request Answer} (hlistens : p.listens = true)
    (exhausted : Answer) (request : Request) :
    (p.send exhausted request).2.received = request :: p.received := by
  rw [send, if_pos hlistens, receive, if_pos hlistens]
  dsimp only
  split <;> rfl

/-- What was received stays on record. -/
theorem received_suffix_send (p : Peer Request Answer) (exhausted : Answer) (request : Request) :
    p.received <:+ (p.send exhausted request).2.received := by
  cases hlistens : p.listens with
  | true =>
    rw [received_send hlistens]
    exact List.suffix_cons request p.received
  | false =>
    simp only [send_refused hlistens, List.suffix_rfl]

end Peer

end ObjectStorage
