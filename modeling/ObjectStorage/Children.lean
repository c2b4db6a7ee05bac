import ObjectStorage.Metadata

/-!
# Children of a directory

Stores that know only full paths show directories all the same: what lies below a directory is
folded into the direct children of that directory.  A path whose remainder has a slash shows as
the directory that the remainder begins with, any other one as a file.

* `Children.child?` — what one path shows as in a directory;
* `Children.ofPaths` — what many paths show as, each child once, in the order of the names.
-/

namespace ObjectStorage.Children

/-- The start of a text up to and including its first slash, if it has one. -/
def firstSegment? : List Char → Option (List Char)
  | [] => none
  | c :: cs => if c = '/' then some ['/'] else (firstSegment? cs).map (c :: ·)

/-- The child of the directory `dir` that a path below it shows as. -/
def child? (dir path : String) : Option (String × ObjectMode) :=
  match Path.stripPrefix? dir.toList path.toList with
  | none | some [] => none
  | some rest => match firstSegment? rest with
    | some segment => some (dir ++ String.ofList segment, .dir)
    | none => some (path, .file)

/-- The children of the directory `dir` that paths show as, in the order of their names. -/
def ofPaths (dir : String) (paths : List String) : Table ObjectMode :=
  .ofList (paths.filterMap (child? dir))

/-- The page of a listing with these children, each path changed by `rename`. -/
def page (rename : String → String) (children : Table ObjectMode) : List Entry :=
  children.entries.map fun (path, mode) => ⟨rename path, { mode }⟩

end ObjectStorage.Children
