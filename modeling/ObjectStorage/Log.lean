import ObjectStorage.Log.Filter
import ObjectStorage.Timestamp
import ObjectStorage.Variables

/-!
# Logs

A program tells what it does on the terminal, and in a log file if it is told a directory for it.

* `Log.Rotation` — how often a new file is begun;
* `Log.Config`, `Log.Config.ofVariables` — what is told about logs;
* `Log.filterOf` — the filter that counts;
* `Log.stamp`, `Log.line`, `Log.fileName` — how times and events are written, and where.
-/

namespace ObjectStorage.Log

/-- How often a new log file is begun. -/
inductive Rotation
  | daily | hourly | never
  deriving DecidableEq, Repr

namespace Rotation

/-- The name of a rotation. -/
def name : Rotation → String
  | .daily => "Daily"
  | .hourly => "Hourly"
  | .never => "Never"

/-- The rotation that a variable asks for. -/
def ofText : Option String → Rotation
  | some "hourly" => .hourly
  | some "never" => .never
  | _ => .daily

end Rotation

/-- What is told about logs. -/
structure Config where
  /-- Where log files are written, if they are. -/
  dir : Option String := none
  level : Level := .warn
  rotation : Rotation := .daily
  deriving DecidableEq, Repr

/-- What environment variables tell about logs. -/
def Config.ofVariables (vars : Variables) : Config where
  dir := (vars.get? "OLI_LOG_DIR").filter (· ≠ "")
  level := ((vars.get? "OLI_LOG_LEVEL").bind Level.read?).getD .warn
  rotation := .ofText (vars.get? "OLI_LOG_ROTATION")

/-- The variables that may hold a filter; the first one that does counts. -/
def filterVariables : List String := ["OLI_LOG", "RUST_LOG"]

/-- The filter that counts: from the variables, or else the level. -/
def filterOf (level : Level) (vars : Variables) : Filter :=
  (filterVariables.findSome? fun name => (vars.get? name).bind Filter.read?).getD (.ofLevel level)

/-! ### Writing -/

/-- How the value of a field is written. -/
def fieldText : Field → String
  | .text s => s
  | .quoted s => Text.quote s
  | .number n => toString n

/-- The time in front of a line. -/
def stamp (t : Timestamp) : String :=
  t.dateTime ++ "." ++ Text.padded 6 (t.nanos / 1000) ++ "Z"

/-- An event as a line, with the time in front, and the name of the thread if it is told. -/
def line (time : String) (thread : Option String) (e : Event) : String :=
  let level := String.ofList (List.replicate (5 - e.level.name.length) ' ') ++ e.level.name
  let thread := match thread with
    | some name => name ++ " "
    | none => ""
  s!"{time} {level} {thread}{e.target}: {e.message}"
    ++ String.join (e.fields.map fun (k, v) => s!" {k}={fieldText v}") ++ "\n"

/-- How the names of log files start. -/
def fileStart : String := "oli.log"

/-- The name of the log file that is begun at some time. -/
def fileName (rotation : Rotation) (now : Timestamp) : String :=
  let (year, month, day) := Timestamp.date (Int.fdiv now.seconds 86400)
  let date := s!"{Timestamp.yearText year}-{Text.padded 2 month}-{Text.padded 2 day}"
  match rotation with
  | .daily => s!"{fileStart}.{date}"
  | .hourly =>
    s!"{fileStart}.{date}-" ++ Text.padded 2 ((Int.fmod now.seconds 86400).toNat / 3600)
  | .never => fileStart

end ObjectStorage.Log
