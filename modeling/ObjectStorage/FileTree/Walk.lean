import ObjectStorage.FileTree.Node
import ObjectStorage.IoError
import ObjectStorage.Path

/-!
# Following a path through a file tree

A path leads from the root of a tree through directories, name by name.  `.` stays, `..` goes up,
and a symbolic link leads to where its target leads.  A slash at the end of a path asks for a
directory, just as a last name `.` does.

* `FileTree.names` — the names of a path;
* `FileTree.walk` — where names lead: to a node, or to a place in a directory that is still free;
* `FileTree.find` — the same for a path, which may be refused for its form.
-/

namespace ObjectStorage.FileTree

/-- The most bytes that a name may have. -/
def maxName : Nat := 255

/-- A path has fewer bytes than this. -/
def maxPath : Nat := 4096

/-- The most symbolic links that are followed on one walk. -/
def maxLinks : Nat := 40

/-- The names between the slashes of a path; a slash at the end counts as a last name `.`. -/
def names (path : String) : List String :=
  let segs := (Path.segments path.toList).map String.ofList
  if Path.isDir path && !segs.isEmpty then segs ++ ["."] else segs

/-- Does a path start at the root? -/
def isAbsolute (path : String) : Bool := path.toList.head? == some '/'

/-- Where a walk ends. -/
inductive Spot
  /-- At a node, which these names lead to from the root. -/
  | node (path : List String) (node : Node)
  /-- In a directory that has no entry of the last name. -/
  | free (dir : List String) (name : String)

/-- Refuse a name that is too long for an entry. -/
def checkName (name : String) : Except IoError Unit :=
  if maxName < name.utf8ByteSize then .error .nameTooLong else .ok ()

/-- Walk from a directory along names, following at most `links` symbolic links.  A link in the
last place is followed if `follow` says so. -/
def walk (t : FileTree) (follow : Bool) (links : Nat) (dir : List String) :
    List String → Except IoError Spot
  | [] => match t.root.at? dir with
    | some n => .ok (.node dir n)
    | none => .error .notFound
  | name :: rest =>
    if name = "." then walk t follow links dir rest
    else if name = ".." then walk t follow links dir.dropLast rest
    else match checkName name with
      | .error e => .error e
      | .ok () =>
        match (t.root.at? dir).bind (Node.child? name), rest with
        | none, [] => .ok (.free dir name)
        | none, _ :: _ => .error .notFound
        | some (.link target), rest =>
          if rest.isEmpty && !follow then .ok (.node (dir ++ [name]) (.link target))
          else match links with
            | 0 => .error .tooManyLinks
            | links + 1 =>
              walk t follow links (if isAbsolute target then [] else dir) (names target ++ rest)
        | some (.dir modified entries), rest =>
          if rest.isEmpty then .ok (.node (dir ++ [name]) (.dir modified entries))
          else walk t follow links (dir ++ [name]) rest
        | some n, [] => .ok (.node (dir ++ [name]) n)
        | some _, _ :: _ => .error .notADirectory
termination_by ns => (links, ns.length)

/-- Refuse a path for its form. -/
def checkPath (path : String) : Except IoError Unit :=
  if path.toList.contains (Char.ofNat 0) then .error .nulInPath
  else if maxPath ≤ path.utf8ByteSize then .error .nameTooLong
  else if path = "" then .error .notFound
  else .ok ()

/-- Where an absolute path leads. -/
def find (t : FileTree) (path : String) (follow : Bool := true) : Except IoError Spot := do
  checkPath path
  t.walk follow maxLinks [] (names path)

/-- The node that an absolute path leads to. -/
def node (t : FileTree) (path : String) : Except IoError (List String × Node) := do
  match ← t.find path with
  | .node path n => pure (path, n)
  | .free .. => throw .notFound

/-- A path without the slashes at its end, as names. -/
def bareNames (path : String) : List String := (Path.segments path.toList).map String.ofList

/-- The directory in which the last name of an absolute path stands, and that name; none for the
root. -/
def place (t : FileTree) (path : String) : Except IoError (Option (List String × String)) := do
  checkPath path
  match (bareNames path).getLast? with
  | none => pure none
  | some name =>
    match ← t.walk true maxLinks [] ((bareNames path).dropLast ++ ["."]) with
    | .node dir _ => pure (some (dir, name))
    | .free .. => throw .notFound

end ObjectStorage.FileTree
