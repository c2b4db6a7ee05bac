import ObjectStorage.Error.Report
import ObjectStorage.Metadata
import ObjectStorage.Operation

/-!
# Log events

While they work, layers, builders and commands log events.  An event has a level, a target that
tells where it comes from, a message, and named fields.

* `Level`, `Field` — how important an event is, and what its fields hold;
* `Event` — the events, each with what it tells;
* `Event.level`, `Event.target`, `Event.message`, `Event.fields` — how they are written.
-/

namespace ObjectStorage

/-- How important an event is, the most important level first. -/
inductive Level
  | error | warn | info | debug | trace
  deriving DecidableEq, Repr

namespace Level

/-- Every level with its name. -/
def names : List (Level × String) :=
  [(.error, "ERROR"), (.warn, "WARN"), (.info, "INFO"), (.debug, "DEBUG"), (.trace, "TRACE")]

/-- The name of a level. -/
def name (l : Level) : String := (names.lookup l).getD ""

/-- The place of a level, counted from 1 for the most important one. -/
def rank : Level → Nat
  | .error => 1
  | .warn => 2
  | .info => 3
  | .debug => 4
  | .trace => 5

end Level

/-- What a field of an event holds. -/
inductive Field
  /-- Text written as it is. -/
  | text (s : String)
  /-- Text written between quotes. -/
  | quoted (s : String)
  | number (n : Nat)
  deriving DecidableEq, Repr

/-- Something that happened. -/
inductive Event
  /-- The metadata of a service was asked for. -/
  | metadataAsked (scheme : Scheme)
  /-- A service is called. -/
  | started (scheme : Scheme) (operation : Operation) (path : String)
  /-- A service is called to read a range. -/
  | readStarted (scheme : Scheme) (operation : Operation) (path : String) (range : ByteRange)
  /-- A service is called to write a number of bytes. -/
  | writeStarted (scheme : Scheme) (operation : Operation) (path : String) (size : UInt64)
  /-- A call succeeded. -/
  | finished (scheme : Scheme) (operation : Operation) (path : String)
  /-- A call succeeded with a reader for a number of bytes. -/
  | gotReader (scheme : Scheme) (operation : Operation) (path : String) (size : UInt64)
  /-- A call failed. -/
  | failed (scheme : Scheme) (operation : Operation) (path : String) (error : Error)
  /-- A listing came to its end. -/
  | listFinished (scheme : Scheme) (path : String) (listed : Nat)
  /-- A page of a listing failed. -/
  | listFailed (scheme : Scheme) (path : String) (error : Error)
  /-- A call failed for now and is tried again after a delay in milliseconds. -/
  | retrying (operation : Operation) (path : String) (attempt : Nat) (delay : UInt64)
      (error : Error)
  /-- Something that a builder or a command has to tell. -/
  | remark (level : Level) (target message : String) (fields : List (String × Field))

namespace Event

/-- Is the failure one that callers expect in normal work? -/
def isExpected (e : Error) : Bool := e.kind = .objectNotFound || e.kind = .unsupported

/-- How important an event is. -/
def level : Event → Level
  | .failed _ _ _ error => if isExpected error then .debug else .warn
  | .listFailed .. => .warn
  | .retrying .. => .warn
  | .remark level .. => level
  | _ => .debug

/-- Where an event comes from. -/
def target : Event → String
  | .retrying .. => "opendal::layers::retry"
  | .remark _ target .. => target
  | _ => "opendal::services"

/-- What happened. -/
def message : Event → String
  | .metadataAsked .. | .started .. | .readStarted .. | .writeStarted .. => "started"
  | .finished .. => "finished"
  | .gotReader .. => "got reader"
  | .failed .. => "failed"
  | .listFinished .. => "list finished"
  | .listFailed .. => "list failed"
  | .retrying .. => "retrying after temporary error"
  | .remark _ _ message _ => message

/-- The fields that tell which call an event belongs to. -/
def callFields (scheme : Scheme) (operation : Operation) (path : String) :
    List (String × Field) :=
  [("service", .text scheme.name), ("operation", .text operation.name), ("path", .quoted path)]

/-- The fields of an event, in the order in which they are written. -/
def fields : Event → List (String × Field)
  | .metadataAsked scheme =>
    [("service", .text scheme.name), ("operation", .text Operation.metadata.name)]
  | .started scheme operation path | .finished scheme operation path =>
    callFields scheme operation path
  | .readStarted scheme operation path range =>
    callFields scheme operation path ++ [("range", .text range.display)]
  | .writeStarted scheme operation path size | .gotReader scheme operation path size =>
    callFields scheme operation path ++ [("size", .number size.toNat)]
  | .failed scheme operation path error =>
    callFields scheme operation path ++ [("error", .text error.display)]
  | .listFinished scheme path listed =>
    [("service", .text scheme.name), ("path", .text path), ("listed", .number listed)]
  | .listFailed scheme path error =>
    [("service", .text scheme.name), ("path", .text path), ("error", .text error.display)]
  | .retrying operation path attempt delay error =>
    [("operation", .text operation.name), ("path", .quoted path), ("attempt", .number attempt),
      ("delay_ms", .number delay.toNat), ("error", .text error.display)]
  | .remark _ _ _ fields => fields

end Event

end ObjectStorage
