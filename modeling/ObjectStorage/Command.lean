import ObjectStorage.Command.Failure
import ObjectStorage.Lister

/-!
# Commands on objects

What the command line does with the objects of operators that are built already.

* `Command.cat` — print a file;
* `Command.stat` — print what is known of an object;
* `Command.ls` — print the children of a directory, with those of its directories if wanted;
* `Command.rm`, `Command.mkdir` — delete an object, create a directory;
* `Command.cp` — copy a file.
-/

namespace ObjectStorage.Command

variable {σ ρ π : Type}

/-- The target of the events of commands. -/
def target : String := "opendal::cli::commands"

/-- The size of the blocks in which a file is printed. -/
def blockSize : Nat := 8192

/-- Print a file.  If reading fails, only the blocks that were full before are printed. -/
def cat (op : Operator σ ρ π) (path : String) : Command σ Unit := do
  let reader ← ofRun ((op.object path).reader .async)
  let (pieces, failure) ← ofRun (reader.pieces op.service .async)
  let content := pieces.flatten
  match failure with
  | none => printBytes content
  | some e => do
    printBytes (content.take (content.length / blockSize * blockSize))
    fail (.io e)

/-- Print what is known of an object. -/
def stat (op : Operator σ ρ π) (path : String) : Command σ Unit := do
  let o := op.object path
  let metadata ← ofRun (o.metadata .async)
  printLine s!"path: {o.path}"
  printLine s!"mode: {metadata.mode.word}"
  if metadata.mode = .file then printLine s!"size: {metadata.length}"
  match metadata.etag with
  | some etag => printLine s!"etag: {etag}"
  | none => pure ()
  match metadata.lastModified with
  | some time => printLine s!"last-modified: {time.rfc3339}"
  | none => pure ()

/-- Print children up to the first error, and return them. -/
def printChildren (op : Operator σ ρ π) :
    List (Except Error Entry) → Command σ (List (Object σ ρ π))
  | [] => pure []
  | .error e :: _ => fail (.storage e)
  | .ok entry :: rest => do
    let o := op.object entry.path
    printLine o.path
    pure (o :: (← printChildren op rest))

/-- Print the children of directories, the last directory first; with `recursive` the directories
among them are listed next.  At most `fuel` directories are listed. -/
def walk (op : Operator σ ρ π) (recursive : Bool) :
    (fuel : Nat) → List (Object σ ρ π) → Command σ Unit
  | 0, _ => pure ()
  | _ + 1, [] => pure ()
  | fuel + 1, dir :: waiting => do
    let lister ← ofRun (dir.list .async)
    let items ← ofRun (lister.toList op.service .async)
    let children ← printChildren op items
    let dirs := if recursive then children.filter (·.isDir) else []
    walk op recursive fuel (dirs.reverse ++ waiting)

/-- Is the object a file, as far as the service tells?  A directory that only exists by what lies
below it may be missing. -/
def isFile (o : Object σ ρ π) : Command σ Bool := do
  match ← ofRun (o.metadata .async).attempt with
  | .ok metadata => pure (metadata.mode = .file)
  | .error e => if e.kind = .objectNotFound then pure false else fail (.storage e)

/-- Print a file, or the children of a directory. -/
def ls (op : Operator σ ρ π) (path : String) (recursive : Bool) : Command σ Unit := do
  let o := op.object path
  let found ← if Path.isDir path || path = "" then pure false else isFile o
  if found then printLine o.path
  else
    let s ← ofRun Run.getService
    walk op recursive (op.dirsAtMost s) [op.object (Path.asDir path)]

/-- Delete an object. -/
def rm (op : Operator σ ρ π) (path : String) : Command σ Unit := do
  ofRun ((op.object path).delete .async)
  log (.remark .info target "removed" [("path", .text path)])

/-- Create a directory. -/
def mkdir (op : Operator σ ρ π) (path : String) : Command σ Unit :=
  ofRun ((op.object (Path.asDir path)).create .async)

/-- Where a file is copied to: a destination that ends with a slash keeps its name. -/
def destination (name dst : String) : String := if Path.isDir dst then dst ++ name else dst

/-- Copy a file. -/
def cp (srcOp : Operator σ ρ π) (src : String) (dstOp : Operator σ ρ π) (dst : String) :
    Command σ Unit := do
  let o := srcOp.object src
  if o.isDir then fail (.message s!"copying directory {o.path} is not supported")
  let dst := destination o.name dst
  let data ← ofRun (o.read .async)
  ofRun ((dstOp.object dst).write .async data)
  log (.remark .info target "copied"
    [("src", .text o.path), ("dst", .text dst), ("size", .number data.length)])

end ObjectStorage.Command
