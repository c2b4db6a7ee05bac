import ObjectStorage.Scheme
import ObjectStorage.Range
import ObjectStorage.Timestamp

/-!
# What is known of objects and services

* `ObjectMode` — file, directory, or not told;
* `Metadata` — what a service tells of an object;
* `Entry` — an object as a listing shows it;
* `Capability`, `ServiceInfo` — what a service can do, and what it is.
-/

namespace ObjectStorage

/-- What an object is. -/
inductive ObjectMode
  | file | dir | unknown
  deriving DecidableEq, Repr

/-- The word for a mode. -/
def ObjectMode.word : ObjectMode → String
  | .file => "file"
  | .dir => "dir"
  | .unknown => "unknown"

/-- The mode that a path tells: a directory ends with a slash. -/
def ObjectMode.ofPath (path : String) : ObjectMode := if Path.isDir path then .dir else .file

/-- What a service tells of an object. -/
structure Metadata where
  mode : ObjectMode
  /-- Does the service have no more to tell? -/
  complete : Bool := false
  contentLength : Option UInt64 := none
  contentMd5 : Option String := none
  etag : Option String := none
  lastModified : Option Timestamp := none
  deriving DecidableEq, Repr

/-- The length of the content, zero if the service does not tell. -/
def Metadata.length (m : Metadata) : UInt64 := m.contentLength.getD 0

/-- An object as a listing shows it, with its path relative to the root of the service. -/
structure Entry where
  path : String
  metadata : Metadata
  deriving DecidableEq, Repr

/-- What a service can do. -/
structure Capability where
  read : Bool := false
  write : Bool := false
  list : Bool := false
  blocking : Bool := false
  deriving DecidableEq, Repr

/-- What a service is. -/
structure ServiceInfo where
  scheme : Scheme
  root : String := "/"
  /-- Which service of its scheme, for instance its address. -/
  name : String := ""
  capability : Capability := {}
  deriving DecidableEq, Repr

end ObjectStorage
