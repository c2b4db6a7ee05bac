import ObjectStorage.Path
import ObjectStorage.Table
import ObjectStorage.Text.Casing

/-!
# Storage services by name

A scheme names one kind of storage service.  It is read without regard to case or blanks around
it, and configures its service from options, a map of names to values.

* `Scheme` — the services with a name of their own;
* `Scheme.parse` — reads a name, or says that it is unknown;
* `Options` — configuration, a table of names and values;
* `Scheme.options` — the options that environment variables hold for a scheme.
-/

namespace ObjectStorage

/-- The storage services that have a name. -/
inductive Scheme
  | fs | hdfs | ipmfs | memory | redis | rocksdb
  deriving DecidableEq, Repr

/-- Configuration by name. -/
abbrev Options := Table String

/-- The value of an option, unless it is missing or empty. -/
def Options.nonempty? (o : Options) (key : String) : Option String :=
  (o.get? key).filter (· ≠ "")

namespace Scheme

/-- Every scheme. -/
def all : List Scheme := [.fs, .hdfs, .ipmfs, .memory, .redis, .rocksdb]

/-- The name of a scheme in configuration, logs and messages. -/
def name : Scheme → String
  | .fs => "fs"
  | .hdfs => "hdfs"
  | .ipmfs => "ipmfs"
  | .memory => "memory"
  | .redis => "redis"
  | .rocksdb => "rocksdb"

/-- The name of a scheme as a choice among all of them. -/
def label : Scheme → String
  | .fs => "Fs"
  | .hdfs => "Hdfs"
  | .ipmfs => "Ipmfs"
  | .memory => "Memory"
  | .redis => "Redis"
  | .rocksdb => "Rocksdb"

/-- The scheme of a name in lower case; `ipfs` is another name of `ipmfs`. -/
def ofName? (s : String) : Option Scheme :=
  if s = "ipfs" then some .ipmfs else all.find? fun x => x.name == s

/-- Read a scheme, whatever its case and the blanks around it. -/
def parse (s : String) : Except String Scheme :=
  match ofName? (String.ofList (Text.lowercase (Text.trim s.toList))) with
  | some x => .ok x
  | none => .error s!"unknown scheme: {s}"

/-- Can this program reach the service? -/
def isEnabled : Scheme → Bool
  | .fs | .memory | .ipmfs | .redis => true
  | .hdfs | .rocksdb => false

/-- The start of the names, in lower case, of the environment variables for a scheme. -/
def envStart (x : Scheme) : String := s!"opendal_{x.name}_"

/-- The options that environment variables set for a scheme: what follows the start of the name,
in lower case. -/
def options (x : Scheme) (vars : List (String × String)) : Options :=
  .ofList (vars.filterMap fun (name, value) =>
    (Path.stripPrefix? x.envStart.toList (Text.lowercase name.toList)).map fun key =>
      (String.ofList key, value))

end Scheme

end ObjectStorage
