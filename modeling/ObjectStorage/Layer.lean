import ObjectStorage.Layer.Index
import ObjectStorage.Layer.Limit
import ObjectStorage.Layer.Retry

/-!
# Layers

A layer stands between a caller and a service and changes what a call does: it adds to errors,
tries again, limits, answers listings, or only looks on.  A stack of layers is a list, the
outermost first.

* `Layer` — the layers;
* `Reader`, `Pager` — handles with the marks that layers put on them;
* `Layer.around` — what a layer makes of one call;
* `Stack.call`, `Stack.info` — a call and a question through all layers;
* `Pager.pull` — the next page, through the marks of the layers.
-/

namespace ObjectStorage

/-- What stands between a caller and a service. -/
inductive Layer
  /-- Adds operation, service and path to every error. -/
  | context
  /-- Tries again what fails for now. -/
  | retry (backoff : Backoff)
  /-- Lets only so many calls through at a time. -/
  | limit (limit : Nat)
  /-- Answers listings from a fixed set of paths. -/
  | index (index : Index)
  /-- Logs every call. -/
  | logging
  /-- Measures every call. -/
  | metrics

/-! ### Handles -/

/-- A reader, with the limits to which it owes a permit. -/
structure Reader (ρ : Type) where
  source : ρ
  owes : List Nat := []

/-- What a layer does to the pages of a pager. -/
inductive PagerMark
  | context
  | retry (backoff : Backoff)
  | logged

/-- Where pages come from. -/
inductive PageSource (π : Type)
  /-- A pager of the service. -/
  | service (pager : π)
  /-- A page that is known already, until it is taken. -/
  | ready (page : Page)

/-- A pager of a directory, with the marks of the layers, the outermost first, and the limits to
which it owes a permit. -/
structure Pager (π : Type) where
  source : PageSource π
  path : String
  /-- The number of entries delivered so far. -/
  listed : Nat := 0
  marks : List PagerMark := []
  owes : List Nat := []

namespace Reader

variable {σ ρ : Type}

/-- Owe one more permit. -/
def owe (limit : Nat) (r : Reader ρ) : Reader ρ := { r with owes := limit :: r.owes }

/-- Close a reader. -/
def close (r : Reader ρ) : Run σ Unit := Limit.release r.owes

end Reader

namespace Pager

variable {σ ρ π : Type}

/-- Owe one more permit. -/
def owe (limit : Nat) (p : Pager π) : Pager π := { p with owes := limit :: p.owes }

/-- Put one more mark on. -/
def mark (m : PagerMark) (p : Pager π) : Pager π := { p with marks := m :: p.marks }

/-- Close a pager. -/
def close (p : Pager π) : Run σ Unit := Limit.release p.owes

/-- What pulling changes in a pager: its source and the number of entries delivered. -/
abbrev Progress (π : Type) := PageSource π × Nat

/-- The name of a pull in errors. -/
def pullName : Form → String
  | .async => "ObjectPager::next_page"
  | .blocking => "BlockingObjectPager::next_page"

/-- Pull a page from where it comes. -/
def pullSource (service : Service σ ρ π) (form : Form) : Run (σ × Progress π) Page :=
  .onService fun (s, source, listed) =>
    match source with
    | .ready page => (.ok page, s, .ready none, listed + (page.getD []).length)
    | .service pager =>
      let (result, pager, s) := service.pull form pager s
      let got := match result with
        | .ok (some entries) => entries.length
        | _ => 0
      (result, s, .service pager, listed + got)

/-- The facts that are added to the error of a pull. -/
def pullError (scheme : Scheme) (form : Form) (path : String) (e : Error) : Error :=
  (e.withOperation (pullName form)).withContext "service" scheme.name |>.withContext "path" path

/-- Log how a pull ended. -/
def logPull (scheme : Scheme) (path : String) :
    Except Error Page → Run (σ × Progress π) Unit
  | .ok (some _) => pure ()
  | .ok none => do
    let (_, _, listed) ← Run.getService
    .log (.listFinished scheme path listed)
  | .error e => .log (.listFailed scheme path e)

/-- What a mark makes of a pull. -/
def PagerMark.around (info : ServiceInfo) (form : Form) (path : String)
    (pull : Run (σ × Progress π) Page) : PagerMark → Run (σ × Progress π) Page
  | .context => pull.mapError (pullError info.scheme form path)
  | .retry backoff => Retry.run backoff (.call form .list) path pull
  | .logged => do
    let result ← pull.attempt
    logPull info.scheme path result
    .ofExcept result

/-- Take the next page: the result, the pager afterwards and the world. -/
def pull (service : Service σ ρ π) (form : Form) (p : Pager π) (w : World σ) :
    Except Stop Page × Pager π × World σ :=
  let whole := p.marks.foldr (fun m x => PagerMark.around service.info form p.path x m)
    (pullSource service form)
  let (result, (source, listed), w) := whole.withPart (p.source, p.listed) w
  (result, { p with source, listed }, w)

/-- How many pages or errors a pager gives at most before its end. -/
def pagesLeft (service : Service σ ρ π) (p : Pager π) (s : σ) : Nat :=
  match p.source with
  | .service pager => service.pagesLeft pager s
  | .ready page => if page.isSome then 1 else 0

end Pager

/-! ### Calls -/

namespace Layer

variable {σ ρ π : Type}

/-- The facts that are added to the error of a call. -/
def callError (scheme : Scheme) (form : Form) (path : String) (action : Action) (e : Error) :
    Error :=
  let e := (e.withOperation (action.operation form).name).withContext "service" scheme.name
    |>.withContext "path" path
  match action with
  | .read range => e.withContext "range" range.display
  | _ => e

/-- The event that a call begins with. -/
def startEvent (scheme : Scheme) (form : Form) (path : String) (action : Action) : Event :=
  match action, form with
  | .read range, _ => .readStarted scheme (action.operation form) path range
  | .write length _, .async => .writeStarted scheme (action.operation form) path length
  | _, _ => .started scheme (action.operation form) path

/-- The events that a successful call ends with.  The end of a blocking read is not logged, nor
that of a list, whose pages are still to come. -/
def endEvents (scheme : Scheme) (form : Form) (path : String) :
    (action : Action) → Reply (Reader ρ) (Pager π) action → List Event
  | .read range, reply => match form with
    | .async => [.gotReader scheme ((Action.read range).operation form) path reply.1]
    | .blocking => []
  | .list, _ => []
  | action, _ => [.finished scheme (action.operation form) path]

/-- Log how a call ended. -/
def logEnd (scheme : Scheme) (form : Form) (path : String) (action : Action) :
    Except Error (Reply (Reader ρ) (Pager π) action) → Run σ Unit
  | .ok reply => (endEvents scheme form path action reply).forM fun e => Run.log e
  | .error e => .log (.failed scheme (action.operation form) path e)

/-- The kind of the error of a result. -/
def failure? {α : Type} : Except Error α → Option ErrorKind
  | .ok _ => none
  | .error e => some e.kind

/-- Let the handle of a reply owe a permit; a reply without a handle gives it back. -/
def handOver (n : Nat) : (action : Action) → Reply (Reader ρ) (Pager π) action →
    Run σ (Reply (Reader ρ) (Pager π) action)
  | .read _, (size, reader) => pure (size, reader.owe n)
  | .list, pager => pure (pager.owe n)
  | .create _, reply | .write _ _, reply | .stat, reply | .delete, reply => do
    Limit.release [n]
    pure reply

/-- What a layer makes of a call. -/
def around (info : ServiceInfo) (form : Form) (path : String) (action : Action)
    (call : Run σ (Reply (Reader ρ) (Pager π) action)) :
    Layer → Run σ (Reply (Reader ρ) (Pager π) action)
  | .context => do
    let reply ← call.mapError (callError info.scheme form path action)
    pure (Reply.map id (Pager.mark .context) action reply)
  | .retry backoff => do
    let reply ← Retry.run backoff (action.operation form) path call
    pure (Reply.map id (Pager.mark (.retry backoff)) action reply)
  | .limit n => do
    let reply ← Limit.holding n (action.operation form) call
    handOver n action reply
  | .index paths => match action with
    | .list => pure { source := .ready (some (paths.children path)), path }
    | _ => call
  | .logging => do
    .log (startEvent info.scheme form path action)
    let result ← call.attempt
    logEnd info.scheme form path action result
    let reply ← Run.ofExcept result
    pure (Reply.map id (Pager.mark .logged) action reply)
  | .metrics => do
    let result ← call.attempt
    .measure ⟨info.scheme, action.operation form, failure? result⟩
    .ofExcept result

/-- What a layer makes of the question what a service is. -/
def aroundInfo (info : ServiceInfo) (ask : Run σ ServiceInfo) : Layer → Run σ ServiceInfo
  | .index _ => do
    let info ← ask
    pure { info with capability.list := true }
  | .logging => do
    .log (.metadataAsked info.scheme)
    ask
  | .metrics => do
    let info ← ask
    .measure ⟨info.scheme, .metadata, none⟩
    pure info
  | _ => ask

end Layer

namespace Stack

variable {σ ρ π : Type}

/-- A call of the service itself. -/
def base (service : Service σ ρ π) (form : Form) (path : String) (action : Action) :
    Run σ (Reply (Reader ρ) (Pager π) action) := do
  let reply ← Run.onService (service.call form path action)
  pure (Reply.map (⟨·, []⟩) (fun pager => { source := .service pager, path }) action reply)

/-- A call through layers, the outermost first. -/
def call (service : Service σ ρ π) (layers : List Layer) (form : Form) (path : String)
    (action : Action) : Run σ (Reply (Reader ρ) (Pager π) action) :=
  layers.foldr (fun layer call => layer.around service.info form path action call)
    (base service form path action)

/-- The question what a service is, through layers. -/
def info (service : Service σ ρ π) (layers : List Layer) : Run σ ServiceInfo :=
  layers.foldr (fun layer ask => layer.aroundInfo service.info ask) (pure service.info)

end Stack

end ObjectStorage
