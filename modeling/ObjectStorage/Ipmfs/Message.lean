import ObjectStorage.Error
import ObjectStorage.Http
import ObjectStorage.Json.Reader
import ObjectStorage.Metadata

/-!
# What an IPFS node answers

A node answers with JSON: what it knows of a file, the entries of a directory, or why a command
failed.

* `Stat`, `Listed`, `Complaint` — the answers, each with the reader of its records;
* `Stat.metadata`, `Listed.entry` — what they tell of objects;
* `failure` — the error that an answer with a status other than 200 is.
-/

namespace ObjectStorage.Ipmfs

open Json (Reader)

/-- What a node knows of a file. -/
structure Stat where
  size : UInt64 := 0
  kind : String := ""
  hash : String := ""
  deriving DecidableEq, Repr

/-- Read what a node knows of a file. -/
def Stat.reader : Reader Stat := Reader.record "IpfsStat" [
  Reader.field "Size" Reader.unsigned fun size s => { s with size },
  Reader.field "Type" Reader.text fun kind s => { s with kind },
  Reader.field "Hash" Reader.text fun hash s => { s with hash }] {}

/-- What is told of an object. -/
def Stat.metadata (s : Stat) : Metadata where
  mode := if s.kind = "file" then .file else if s.kind = "directory" then .dir else .unknown
  contentLength := some s.size
  etag := if s.hash = "" then none else some s.hash

/-- An entry of a directory. -/
structure Listed where
  name : String := ""
  kind : Int := 0
  size : UInt64 := 0
  deriving DecidableEq, Repr

/-- Read an entry of a directory. -/
def Listed.reader : Reader Listed := Reader.record "IpfsLsEntry" [
  Reader.field "Name" Reader.text fun name e => { e with name },
  Reader.field "Type" Reader.signed fun kind e => { e with kind },
  Reader.field "Size" Reader.unsigned fun size e => { e with size }] {}

/-- Read the entries of a directory. -/
def Listed.listReader : Reader (List Listed) := Reader.record "IpfsLsResponse" [
  Reader.field "Entries" (Reader.optional (Reader.list Listed.reader)) fun l _ => l.getD []] []

/-- An entry as an object below a path. -/
def Listed.entry (parent : String) (e : Listed) : Entry :=
  if e.kind = 1 then ⟨parent ++ e.name ++ "/", { mode := .dir }⟩
  else ⟨parent ++ e.name, { mode := .file, contentLength := some e.size }⟩

/-- Why a command failed. -/
structure Complaint where
  message : String := ""
  code : Int := 0
  kind : String := ""
  deriving DecidableEq, Repr

/-- Read why a command failed. -/
def Complaint.reader : Reader Complaint := Reader.record "IpfsError" [
  Reader.field "Message" Reader.text fun message c => { c with message },
  Reader.field "Code" Reader.signed fun code c => { c with code },
  Reader.field "Type" Reader.text fun kind c => { c with kind }] {}

/-- The complaint of a body, if it is one. -/
def complaint? (body : Bytes) : Option Complaint :=
  (Reader.document Complaint.reader body).toOption

/-! ### Errors -/

/-- The error of a request that came to nothing. -/
def notSent (reason : String) : Error :=
  (Error.new .unexpected "send request to ipfs").withSource (.text reason)

/-- The error of a request without an answer. -/
def unanswered : Http.Fault → Error
  | .unusable url => notSent (Http.Fault.unusable url).message
  | .unanswered url => (notSent (Http.Fault.unanswered url).message).temporary

/-- The error of an answer that is not what was expected. -/
def unreadable (fault : Json.Fault) : Error :=
  (Error.new .unexpected "deserialize json from ipfs").withSource (.text fault.display)

/-- The body of an answer. -/
def content (r : Http.Response) : Except Error Bytes :=
  match r.content? with
  | some body => .ok body
  | none => .error (notSent Http.cutBody)

/-- The message of a node that knows of no such file. -/
def missing : String := "file does not exist"

/-- The statuses of a server that is away for now. -/
def awayStatuses : List Nat := [502, 503, 504]

/-- The error that an answer with a status other than 200 is.  A node answers 500 to every command
that fails, and tells in the body why. -/
def failure (r : Http.Response) : Error :=
  match content r with
  | .error e => e
  | .ok body =>
    let complaint := complaint? body
    let kind : ErrorKind :=
      if r.status = 500 && complaint.any (·.message = missing) then .objectNotFound
      else .unexpected
    let message := match complaint with
      | some c => s!"{c.message} (code: {c.code}, type: {c.kind})"
      | none => Text.textLossy body
    let e := (Error.new kind message).withContext "response"
      s!"status: {Http.statusText r.status}"
    if awayStatuses.contains r.status then e.temporary else e

/-- The body of an answer with the status 200. -/
def accepted (r : Http.Response) : Except Error Bytes :=
  if r.status = 200 then content r else .error (failure r)

/-- Read a body. -/
def decoded {α : Type} (x : Reader α) (body : Bytes) : Except Error α :=
  match Reader.document x body with
  | .ok a => .ok a
  | .error fault => .error (unreadable fault)

end ObjectStorage.Ipmfs
