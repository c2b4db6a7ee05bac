import ObjectStorage.Text.Utf8
import ObjectStorage.Timestamp

/-!
# Trees of files

A file tree is what a local file system holds.  Files are known by numbers, and their contents are
kept apart from the tree, so that a file that was opened can still be read after it was removed.

* `Node` — a file, a directory with its entries, a symbolic link, or a device without content;
* `Node.at?` — the node below a directory that names lead to;
* `Node.alter` — the tree with a change at that place;
* `FileTree` — a tree with the contents of its files.
-/

namespace ObjectStorage

/-- What stands at a place of a file tree. -/
inductive Node
  | file (id : Nat)
  | dir (modified : Timestamp) (entries : List (String × Node))
  | link (target : String)
  /-- A device that swallows what is written and has nothing to read. -/
  | device

namespace Node

/-- The entry of a directory with a name. -/
def child? (name : String) : Node → Option Node
  | .dir _ entries => entries.lookup name
  | _ => none

/-- The node that names lead to. -/
def at? : List String → Node → Option Node
  | [], n => some n
  | name :: rest, n => (n.child? name).bind (at? rest)

/-- Change the node that names lead to. -/
def alter (f : Node → Node) : List String → Node → Node
  | [], n => f n
  | name :: rest, .dir modified entries =>
    .dir modified (entries.map fun (k, c) => if k = name then (k, alter f rest c) else (k, c))
  | _ :: _, n => n

/-- Put an entry into a directory that has none of the name. -/
def addEntry (now : Timestamp) (name : String) (child : Node) : Node → Node
  | .dir _ entries => .dir now (entries ++ [(name, child)])
  | n => n

/-- Take an entry out of a directory. -/
def removeEntry (now : Timestamp) (name : String) : Node → Node
  | .dir _ entries => .dir now (entries.filter fun kc => kc.1 ≠ name)
  | n => n

mutual

/-- How many directories stand at a place and below it. -/
def dirs : Node → Nat
  | .dir _ entries => dirsIn entries + 1
  | _ => 0

/-- How many directories stand at the entries of a directory and below them. -/
def dirsIn : List (String × Node) → Nat
  | [] => 0
  | (_, n) :: rest => dirs n + dirsIn rest

end

/-- Is the node a directory? -/
def isDir : Node → Bool
  | .dir .. => true
  | _ => false

/-- Is the node a regular file? -/
def isFile : Node → Bool
  | .file _ => true
  | _ => false

end Node

/-- A regular file. -/
structure File where
  content : Bytes
  modified : Timestamp

/-- A tree of files. -/
structure FileTree where
  root : Node
  /-- The files, by their numbers.  Removed ones stay for those who have them open. -/
  files : List File := []
  /-- The time that is given to what is changed. -/
  now : Timestamp := ⟨0, 0⟩

namespace FileTree

/-- A tree with nothing in it. -/
def empty : FileTree := { root := .dir ⟨0, 0⟩ [] }

instance : Inhabited FileTree := ⟨empty⟩

/-- The file with a number. -/
def file (t : FileTree) (id : Nat) : File := (t.files[id]?).getD ⟨[], t.now⟩

/-- The content of the file with a number. -/
def content (t : FileTree) (id : Nat) : Bytes := (t.file id).content

/-- Replace the content of a file. -/
def setContent (t : FileTree) (id : Nat) (content : Bytes) : FileTree :=
  { t with files := t.files.set id ⟨content, t.now⟩ }

/-- Change the node that names lead to. -/
def alter (t : FileTree) (path : List String) (f : Node → Node) : FileTree :=
  { t with root := t.root.alter f path }

/-- Put a node into a directory. -/
def add (t : FileTree) (dir : List String) (name : String) (child : Node) : FileTree :=
  t.alter dir (.addEntry t.now name child)

/-- Take a node out of a directory. -/
def remove (t : FileTree) (dir : List String) (name : String) : FileTree :=
  t.alter dir (.removeEntry t.now name)

/-- Put a new file into a directory; its number is the one of the next file. -/
def addFile (t : FileTree) (dir : List String) (name : String) (content : Bytes) : FileTree :=
  let t' := t.add dir name (.file t.files.length)
  { t' with files := t.files ++ [⟨content, t.now⟩] }

end FileTree

end ObjectStorage
