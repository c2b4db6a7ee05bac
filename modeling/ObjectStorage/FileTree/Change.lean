import ObjectStorage.FileTree

/-!
# Differences of file trees

What has to be done to a file tree so that it becomes another one.

* `FileTree.Change` — one thing to do;
* `FileTree.changes` — what leads from one tree to another.
-/

namespace ObjectStorage.FileTree

/-- One thing to do to a file tree. -/
inductive Change
  | makeDir (path : String)
  | write (path : String) (content : Bytes)
  | removeFile (path : String)
  | removeDir (path : String)
  deriving DecidableEq, Repr

/-- How many levels of a tree are compared. -/
def comparedLevels : Nat := maxPath

/-- Every entry of a tree, by its path. -/
def listing (t : FileTree) : List (String × Node) := below "/" comparedLevels t.root

/-- What makes an entry of the second tree appear in the first one. -/
def appear (old new : FileTree) : String × Node → Option Change
  | (path, .dir ..) => if old.isDir path then none else some (.makeDir path)
  | (path, .file id) =>
    match old.node path with
    | .ok (_, .file id') =>
      if id = id' && old.content id = new.content id then none
      else some (.write path (new.content id))
    | _ => some (.write path (new.content id))
  | _ => none

/-- What makes an entry of the first tree go away if it is missing in the second one. -/
def vanish (new : FileTree) : String × Node → Option Change
  | (path, n) =>
    match new.find path false with
    | .ok (.node ..) => none
    | _ => some (if n.isDir then .removeDir path else .removeFile path)

/-- What leads from one tree to another: entries go away from the innermost on, and appear from the
outermost on. -/
def changes (old new : FileTree) : List Change :=
  old.listing.reverse.filterMap (vanish new) ++ new.listing.filterMap (appear old new)

end ObjectStorage.FileTree
