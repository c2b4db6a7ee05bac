import ObjectStorage.Children

/-!
# A fixed index of paths

An index is a set of paths that is known beforehand.  A service with an index answers listings
from it; every directory above an indexed path can be listed.

* `Index` — the set, in the order of the paths;
* `Index.insert` — adds a path in its canonical form;
* `Index.children` — the page of a directory.
-/

namespace ObjectStorage

/-- A set of canonical paths. -/
abbrev Index := Table Unit

namespace Index

/-- Add a path that a user supplied. -/
def insert (index : Index) (path : String) : Index := Table.insert index (Path.normalize path) ()

/-- The index of paths that users supplied. -/
def ofPaths (paths : List String) : Index := paths.foldl insert Table.empty

/-- The start that the paths below a directory have. -/
def start (dir : String) : String := if dir = Path.root then "" else dir

/-- The children of a directory, in the order of their names.  The root is nobody's child. -/
def children (index : Index) (dir : String) : List Entry :=
  Children.page id <|
    Children.ofPaths (start dir) ((Table.scan index (start dir)).filter (· ≠ Path.root))

/-- How many directories lie on the way to indexed paths at most. -/
def dirsAtMost (index : Index) : Nat :=
  (Table.keys index).foldl (fun n path => n + path.length) 0

end Index

end ObjectStorage
