import ObjectStorage.FileTree
import ObjectStorage.Service
import ObjectStorage.Text.Shown

/-!
# The service on a local file system

Objects are the files and directories below a root directory of a file tree.

* `Fs.service` — the service below a root;
* `Fs.OpenFile` — an open file with the part of it that is still to be read;
* `Fs.nextPage` — the next page of a directory that is being read;
* `Fs.Config` — the configuration, and the root that it asks for.
-/

namespace ObjectStorage.Fs

/-- An open file, and the part of it that is still to be read. -/
structure OpenFile where
  /-- The number of the file; a device has none. -/
  file : Option Nat
  position : Nat
  left : Nat

/-- An entry of a directory: its path and what it is. -/
structure DirItem where
  path : String
  mode : ObjectMode

/-- What reading a directory still gives, entry by entry. -/
abbrev DirStream := List (Except IoError DirItem)

/-- The most entries of a page. -/
def pageSize : Nat := 256

/-- An entry of a directory as a listing shows it, with its path relative to the root. -/
def entry (root : String) (item : DirItem) : Entry :=
  let path := Path.relative root item.path
  ⟨if item.mode = .dir then path ++ "/" else path, { mode := item.mode }⟩

/-- Take at most `n` entries from a directory that is being read, up to the first failure. -/
def takeItems : (n : Nat) → DirStream → Except IoError (List DirItem) × DirStream
  | 0, s => (.ok [], s)
  | _ + 1, [] => (.ok [], [])
  | _ + 1, .error e :: s => (.error e, s)
  | n + 1, .ok item :: s =>
    match takeItems n s with
    | (.ok items, s) => (.ok (item :: items), s)
    | (.error e, s) => (.error e, s)

/-- The next page of a directory that is being read; a directory without entries left has none. -/
def nextPage (root : String) (s : DirStream) : Except Error Page × DirStream :=
  match takeItems pageSize s with
  | (.ok [], s) => (.ok none, s)
  | (.ok items, s) => (.ok (some (items.map (entry root))), s)
  | (.error e, s) => (.error (.ofIo e), s)

/-- What a node is as an object. -/
def modeOf : Node → ObjectMode
  | .dir .. => .dir
  | .file _ => .file
  | _ => .unknown

/-- The path of an entry of the directory at a path. -/
def entryPath (dir name : String) : String := Path.asDir dir ++ name

/-- What is told of a node. -/
def metadataOf (t : FileTree) : Node → Metadata
  | .dir modified _ => { mode := .dir, lastModified := some modified }
  | .file id =>
    { mode := .file, contentLength := some (ByteRange.count (t.content id)),
      lastModified := some (t.file id).modified }
  | _ => { mode := .unknown, contentLength := some 0, lastModified := some t.now }

/-- The error of reading a directory as a file. -/
def isADirectory (path : String) : Error :=
  (Error.new .objectIsADirectory "cannot read a directory").withContext "input" path

/-- The error of a path that nothing can hold. -/
def noParent (path : String) : Error :=
  (Error.new .unexpected "path should have parent but not").withContext "input" path

/-- A result of the file tree as a result of the service. -/
def lift {α : Type} : Except IoError α → Except Error α
  | .ok a => .ok a
  | .error e => .error (.ofIo e)

/-- The outcome of a change that leaves the tree as it was if it fails. -/
def change (t : FileTree) : Except IoError FileTree → Except Error Unit × FileTree
  | .ok t => (.ok (), t)
  | .error e => (.error (.ofIo e), t)

/-- Create a directory and all above it. -/
def createDir (t : FileTree) (path : String) : Except Error Unit × FileTree :=
  let (result, t) := t.createDirAll path
  (lift result, t)

/-- Create the directories above a path. -/
def createParents (t : FileTree) (path : String) : Except Error Unit × FileTree :=
  match FileTree.parent? path with
  | none => (.error (noParent path), t)
  | some up => createDir t up

/-- Write a file after the directories above it, which stay if the file cannot be written. -/
def writeObject (t : FileTree) (path : String) (content : Bytes) : Except Error Unit × FileTree :=
  match createParents t path with
  | (.error e, t) => (.error e, t)
  | (.ok (), t) => change t (t.writeFile path content)

/-- Open a range of a file. -/
def readObject (t : FileTree) (path : String) (range : ByteRange) :
    Except Error (UInt64 × OpenFile) := do
  let (file, content) ← match ← lift (t.openRead path) with
    | .dir => throw (isADirectory path)
    | .file id => pure (some id, t.content id)
    | .device => pure (none, [])
  let (start, stop) := range.resolve (ByteRange.count content)
  let size := stop - start
  pure (size, ⟨file, start.toNat, size.toNat⟩)

/-- Delete a file or an empty directory; what is missing needs no deletion. -/
def deleteObject (t : FileTree) (path : String) : Except Error Unit × FileTree :=
  match t.node path with
  | .error e => if e.kind = .notFound then (.ok (), t) else (.error (.ofIo e), t)
  | .ok (_, n) => change t (if n.isDir then t.rmdir path else t.unlink path)

/-- Begin to read a directory; what is missing has no entries. -/
def listObject (t : FileTree) (path : String) : Except Error DirStream :=
  match t.readDir path with
  | .ok entries => .ok (entries.map fun (name, n) => .ok ⟨entryPath path name, modeOf n⟩)
  | .error e => if e.kind = .notFound then .ok [] else .error (.ofIo e)

/-- Read at most `n` bytes of what is left. -/
def fill (n : Nat) (r : OpenFile) (t : FileTree) : Except IoError Bytes × OpenFile × FileTree :=
  match r.file with
  | none => (.ok [], r, t)
  | some id =>
    let got := ((t.content id).drop r.position).take (min n r.left)
    (.ok got, { r with position := r.position + got.length, left := r.left - got.length }, t)

/-- The service below a root in canonical form. -/
def service (root : String) : Service FileTree OpenFile DirStream where
  info := { scheme := .fs, root, name := root,
            capability := { read := true, write := true, list := true, blocking := true } }
  call _ path
    | .create mode, t =>
      let path := Path.underRoot root path
      if mode = .dir then createDir t path else writeObject t path []
    | .read range, t => (readObject t (Path.underRoot root path) range, t)
    | .write _ data, t =>
      let (result, t) := writeObject t (Path.underRoot root path) data
      (result.map fun () => ByteRange.count data, t)
    | .stat, t => ((lift (t.node (Path.underRoot root path))).map fun x => metadataOf t x.2, t)
    | .delete, t => deleteObject t (Path.underRoot root path)
    | .list, t => (listObject t (Path.underRoot root path), t)
  pull _ s t :=
    let (page, s) := nextPage root s
    (page, s, t)
  fill _ := fill
  pagesLeft s _ := s.length
  readsLeft r _ := r.left
  dirsAtMost t := t.root.dirs

/-- The configuration of a service on a local file system. -/
structure Config where
  root : Option String := none
  deriving DecidableEq, Repr

namespace Config

/-- Read the configuration from options. -/
def ofOptions (o : Options) : Config := { root := o.nonempty? "root" }

/-- The configuration as it is shown. -/
def shown (c : Config) : Text.Shown :=
  .record "FsBuilder" [("root", .optional (c.root.map .text))]

/-- The error of a configuration that cannot be used. -/
def invalid (message : String) : Error :=
  (Error.new .backendConfigInvalid message).withContext "service" Scheme.fs.name

/-- A path in a directory, unless it is absolute. -/
def joined (dir path : String) : String :=
  if FileTree.isAbsolute path then path else Path.asDir dir ++ path

/-- The directory that the configuration names, from a current directory, which may be gone. -/
def directory (c : Config) (current : Option String) : Except Error String :=
  match c.root, current with
  | none, _ => .error (invalid "root is required but not set")
  | some root, some dir => .ok (joined dir root)
  | some root, none =>
    if FileTree.isAbsolute root then .ok root
    else .error ((invalid "get current dir").withSource (.io .notFound))

/-- Create the directory that the configuration names, and tell its canonical form. -/
def prepare (c : Config) (current : Option String) (t : FileTree) :
    Except Error String × FileTree :=
  match c.directory current with
  | .error e => (.error e, t)
  | .ok dir =>
    match t.createDirAll dir with
    | (.ok (), t) => (.ok (Path.normalizeRoot dir), t)
    | (.error e, t) =>
      (.error (((invalid "create root dir").withContext "root" dir).withSource (.io e)), t)

end Config

end ObjectStorage.Fs
