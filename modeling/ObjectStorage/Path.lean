import ObjectStorage.Text.Blank

/-!
# Object paths

A path names an object relative to the root of a service.  It is a list of nonempty segments
joined by `/`; a `/` at its end marks a directory, and the single `/` is the root.  A root is an
absolute directory: it starts and ends with `/`.

* `Path.segments` — the nonempty pieces between slashes, the view all the other functions keep;
* `Path.normalize` — the canonical form of a user supplied path;
* `Path.normalizeRoot` — the canonical form of a user supplied root;
* `Path.underRoot` / `Path.key` — a path below a root, with and without the leading `/`;
* `Path.relative` — takes such a path back;
* `Path.name` / `Path.parent` — the last segment and the directory that holds it.

Each function on `String` is a function on its characters, which is where statements are proved.
-/

namespace ObjectStorage.Path

/-! ### Slashes in a list of characters -/

/-- The pieces of a text between its slashes, empty pieces included. -/
def pieces : List Char → List (List Char)
  | [] => [[]]
  | c :: cs =>
    if c = '/' then [] :: pieces cs
    else match pieces cs with
      | [] => [[c]]
      | p :: ps => (c :: p) :: ps

/-- The nonempty pieces of a text between its slashes. -/
def segments (cs : List Char) : List (List Char) := (pieces cs).filter (· ≠ [])

/-- Join segments with single slashes. -/
def join (segs : List (List Char)) : List Char := ['/'].intercalate segs

/-- Does the text end with a slash? -/
def endsWithSlash (cs : List Char) : Bool := cs.getLast? == some '/'

/-- What follows the last slash, everything if there is none. -/
def afterLastSlash (cs : List Char) : List Char :=
  (cs.reverse.takeWhile (· ≠ '/')).reverse

/-- Everything up to and including the last slash, nothing if there is none. -/
def uptoLastSlash (cs : List Char) : List Char :=
  (cs.reverse.dropWhile (· ≠ '/')).reverse

/-- What is left of a text after a prefix of it. -/
def stripPrefix? : List Char → List Char → Option (List Char)
  | [], cs => some cs
  | _ :: _, [] => none
  | p :: ps, c :: cs => if p = c then stripPrefix? ps cs else none

theorem stripPrefix?_eq_some_iff {p cs r : List Char} :
    stripPrefix? p cs = some r ↔ cs = p ++ r := by
  induction p generalizing cs with
  | nil => simp [stripPrefix?]
  | cons a p ih =>
    cases cs with
    | nil => simp [stripPrefix?]
    | cons c cs =>
      by_cases h : a = c
      · simp [stripPrefix?, h, ih]
      · simp [stripPrefix?, h, Ne.symm h]

@[simp] theorem stripPrefix?_append (p r : List Char) : stripPrefix? p (p ++ r) = some r :=
  stripPrefix?_eq_some_iff.2 rfl

theorem pieces_ne_nil (cs : List Char) : pieces cs ≠ [] := by
  cases cs with
  | nil => simp [pieces]
  | cons c cs =>
    unfold pieces
    split
    · simp
    · split <;> simp

theorem uptoLastSlash_append_afterLastSlash (cs : List Char) :
    uptoLastSlash cs ++ afterLastSlash cs = cs := by
  rw [uptoLastSlash, afterLastSlash, ← List.reverse_append, List.takeWhile_append_dropWhile,
    List.reverse_reverse]

/-! ### The functions on characters -/

/-- The canonical form: the trimmed text with runs of slashes collapsed, none at the start, one
kept at the end; a text without segments is the root. -/
def normalizeChars (cs : List Char) : List Char :=
  let cs := Text.trim cs
  match segments cs with
  | [] => ['/']
  | segs => if endsWithSlash cs then join segs ++ ['/'] else join segs

/-- The canonical root: a slash, then every segment followed by a slash. -/
def normalizeRootChars (cs : List Char) : List Char :=
  '/' :: (segments (Text.trim cs)).flatMap (· ++ ['/'])

/-- A path below a root; the root itself when the path is `/`. -/
def underRootChars (root path : List Char) : List Char :=
  if path = ['/'] then root else root ++ path

/-- A path below a root without the leading slash. -/
def keyChars (root path : List Char) : List Char :=
  underRootChars (root.drop 1) path

/-- Strip a root, written with or without its leading slash; the empty remainder is `/`.  A path
that is not below the root is kept. -/
def relativeChars (root path : List Char) : List Char :=
  let rel := (stripPrefix? root path <|> stripPrefix? (root.dropWhile (· = '/')) path).getD path
  if rel = [] then ['/'] else rel

/-- The last segment; a directory keeps its trailing slash. -/
def nameChars (cs : List Char) : List Char :=
  if cs = ['/'] then cs
  else if endsWithSlash cs then afterLastSlash cs.dropLast ++ ['/']
  else afterLastSlash cs

/-- The directory that holds a path; `/` for top level entries and for the root itself. -/
def parentChars (cs : List Char) : List Char :=
  if cs = ['/'] then cs
  else match uptoLastSlash (if endsWithSlash cs then cs.dropLast else cs) with
    | [] => ['/']
    | up => up

/-! ### The functions on strings -/

/-- The path of the root of a service. -/
def root : String := "/"

/-- Does the path name a directory? -/
def isDir (path : String) : Bool := endsWithSlash path.toList

/-- The canonical form of a user supplied path. -/
def normalize (path : String) : String := String.ofList (normalizeChars path.toList)

/-- The canonical form of a user supplied root. -/
def normalizeRoot (root : String) : String := String.ofList (normalizeRootChars root.toList)

/-- The absolute path of `path` under `root`, with its leading slash. -/
def underRoot (root path : String) : String :=
  String.ofList (underRootChars root.toList path.toList)

/-- The key of `path` under `root`: its absolute path without the leading slash. -/
def key (root path : String) : String := String.ofList (keyChars root.toList path.toList)

/-- The path relative to `root` of a path that a service returned. -/
def relative (root path : String) : String :=
  String.ofList (relativeChars root.toList path.toList)

/-- The last segment of a path. -/
def name (path : String) : String := String.ofList (nameChars path.toList)

/-- The directory that holds a path. -/
def parent (path : String) : String := String.ofList (parentChars path.toList)

/-- The form of a path that names a directory: with a slash at its end. -/
def asDir (path : String) : String := if isDir path then path else path ++ "/"

@[simp] theorem toList_normalize (path : String) :
    (normalize path).toList = normalizeChars path.toList := String.toList_ofList

@[simp] theorem toList_normalizeRoot (root : String) :
    (normalizeRoot root).toList = normalizeRootChars root.toList := String.toList_ofList

@[simp] theorem toList_underRoot (root path : String) :
    (underRoot root path).toList = underRootChars root.toList path.toList :=
  String.toList_ofList

@[simp] theorem toList_key (root path : String) :
    (key root path).toList = keyChars root.toList path.toList := String.toList_ofList

@[simp] theorem toList_relative (root path : String) :
    (relative root path).toList = relativeChars root.toList path.toList := String.toList_ofList

@[simp] theorem toList_name (path : String) : (name path).toList = nameChars path.toList :=
  String.toList_ofList

@[simp] theorem toList_parent (path : String) :
    (parent path).toList = parentChars path.toList := String.toList_ofList

end ObjectStorage.Path
