import ObjectStorage.FileTree.Walk

/-!
# Working on a file tree

The calls that a local file system offers, on a tree: each succeeds with a changed tree or fails
as the operating system would.  Paths are absolute.

* `FileTree.openRead`, `FileTree.openWrite` — open what a path leads to;
* `FileTree.readDir` — the entries of a directory;
* `FileTree.mkdir`, `FileTree.createDirAll` — create one directory, or with all above it;
* `FileTree.rmdir`, `FileTree.unlink` — remove an empty directory, or anything else;
* `FileTree.writeFile`, `FileTree.symlink` — create a file or a link.
-/

namespace ObjectStorage.FileTree

/-- What an opened path gives access to. -/
inductive Handle
  | file (id : Nat)
  | dir
  | device

/-- Open for reading. -/
def openRead (t : FileTree) (path : String) : Except IoError Handle := do
  match ← t.node path with
  | (_, .file id) => pure (.file id)
  | (_, .dir ..) => pure .dir
  | _ => pure .device

/-- Does the path end in a slash, or in a name that can only be a directory? -/
def asksForDir (path : String) : Bool :=
  Path.isDir path || (bareNames path).getLast? == some "." ||
    (bareNames path).getLast? == some ".."

/-- Open for writing: a file is emptied, a missing one is created. -/
def openWrite (t : FileTree) (path : String) : Except IoError (Handle × FileTree) := do
  if asksForDir path then
    let _ ← t.place path
    if Path.isDir path then throw .isADirectory
  match ← t.find path with
  | .free dir name => pure (.file t.files.length, t.addFile dir name [])
  | .node _ (.file id) => pure (.file id, t.setContent id [])
  | .node _ (.dir ..) => throw .isADirectory
  | .node _ _ => pure (.device, t)

/-- Write a whole file, creating it if it is missing. -/
def writeFile (t : FileTree) (path : String) (content : Bytes) : Except IoError FileTree := do
  match ← t.openWrite path with
  | (.file id, t) => pure (t.setContent id content)
  | (_, t) => pure t

/-- The entries of a directory. -/
def readDir (t : FileTree) (path : String) : Except IoError (List (String × Node)) := do
  match ← t.node path with
  | (_, .dir _ entries) => pure entries
  | _ => throw .notADirectory

/-- Is there a directory? -/
def isDir (t : FileTree) (path : String) : Bool :=
  match t.node path with
  | .ok (_, n) => n.isDir
  | .error _ => false

/-- Create a directory. -/
def mkdir (t : FileTree) (path : String) : Except IoError FileTree := do
  match ← t.place path with
  | none => throw .alreadyExists
  | some (dir, name) =>
    if name = "." || name = ".." then throw .alreadyExists
    checkName name
    match (t.root.at? dir).bind (Node.child? name) with
    | some _ => throw .alreadyExists
    | none => pure (t.add dir name (.dir t.now []))

/-- The path of the directory that holds a path, `none` for the root; names `.` do not count. -/
def parent? (path : String) : Option String :=
  let segs := (Path.segments path.toList).filter (· ≠ ['.'])
  if segs.isEmpty then none
  else some (String.ofList ('/' :: Path.join segs.dropLast))

/-- Create directories, the innermost last, up to the first that cannot be created; one that is
there already is left alone. -/
def mkdirAll (t : FileTree) : List String → Except IoError Unit × FileTree
  | [] => (.ok (), t)
  | path :: rest =>
    match t.mkdir path with
    | .ok t => mkdirAll t rest
    | .error e =>
      if e.kind = .alreadyExists && t.isDir path then mkdirAll t rest else (.error e, t)

/-- Create a directory, and before it those of the directories above it that are missing, as far
as `fuel` steps reach; `missing` are the directories to be created after it. -/
def createDirAllFrom (t : FileTree) :
    (fuel : Nat) → String → (missing : List String) → Except IoError Unit × FileTree
  | 0, _, missing => t.mkdirAll missing
  | fuel + 1, path, missing =>
    match t.mkdir path with
    | .ok t => t.mkdirAll missing
    | .error e =>
      if e.kind = .notFound then
        match parent? path with
        | some up => createDirAllFrom t fuel up (path :: missing)
        | none => t.mkdirAll (path :: missing)
      else if e.kind = .alreadyExists && t.isDir path then t.mkdirAll missing
      else (.error e, t)

/-- Create a directory with all that are missing above it.  If that fails, those created before
stay. -/
def createDirAll (t : FileTree) (path : String) : Except IoError Unit × FileTree :=
  if path = "" then (.ok (), t) else t.createDirAllFrom path.length path []

/-- Remove an empty directory. -/
def rmdir (t : FileTree) (path : String) : Except IoError FileTree := do
  match ← t.place path with
  | none => throw .resourceBusy
  | some (dir, name) =>
    if name = "." then throw .invalidArgument
    if name = ".." then throw .directoryNotEmpty
    checkName name
    match (t.root.at? dir).bind (Node.child? name) with
    | none => throw .notFound
    | some (.dir _ []) => pure (t.remove dir name)
    | some (.dir _ (_ :: _)) => throw .directoryNotEmpty
    | some _ => throw .notADirectory

/-- Remove anything but a directory; a symbolic link is removed itself. -/
def unlink (t : FileTree) (path : String) : Except IoError FileTree := do
  match ← t.find path false with
  | .free .. => throw .notFound
  | .node _ (.dir ..) => throw .isADirectory
  | .node path _ => match path.getLast? with
    | none => throw .isADirectory
    | some name => pure (t.remove path.dropLast name)

/-- Create a symbolic link. -/
def symlink (t : FileTree) (path target : String) : Except IoError FileTree := do
  match ← t.place path with
  | none => throw .alreadyExists
  | some (dir, name) =>
    checkName name
    match (t.root.at? dir).bind (Node.child? name) with
    | some _ => throw .alreadyExists
    | none => pure (t.add dir name (.link target))

/-- What the tree holds below a directory: the path of every entry and the entry, in the order of
the paths.  At most `depth` levels are shown. -/
def below (start : String) : (depth : Nat) → Node → List (String × Node)
  | 0, _ => []
  | depth + 1, .dir _ entries =>
    entries.flatMap fun (name, child) =>
      (start ++ name, child) :: below (start ++ name ++ "/") depth child
  | _ + 1, _ => []

end ObjectStorage.FileTree
