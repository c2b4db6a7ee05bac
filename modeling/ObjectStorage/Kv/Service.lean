import ObjectStorage.Children
import ObjectStorage.Cursor
import ObjectStorage.Kv.Adapter
import ObjectStorage.Service

/-!
# Services on stores of keys and values

A store of keys and values becomes a service below a root.  A file is a key with its content.
Directories are virtual: every path that ends with a slash counts as a directory, and a listing
folds the keys below it into children.

* `Kv.children` — the page of a directory, from the keys that a scan found;
* `Kv.service` — the service.
-/

namespace ObjectStorage.Kv

/-- The error of a path without a value. -/
def notFound : Error := .new .objectNotFound "kv doesn't have this path"

/-- The children of the directory `path`, with paths relative to the root. -/
def children (root path : String) (keys : List String) : List Entry :=
  Children.page (Path.relative root) (Children.ofPaths (Path.key root path) keys)

/-- What is told of a file with a content. -/
def fileMetadata (data : Bytes) : Metadata :=
  { mode := .file, complete := true, contentLength := some (ByteRange.count data) }

/-- What is told of every directory. -/
def dirMetadata : Metadata := { mode := .dir }

/-- Go on with the result of a step of a store. -/
def andThen {σ α β : Type} (x : Except Error α × σ) (f : α → Except Error β) :
    Except Error β × σ :=
  (x.1.bind f, x.2)

/-- The value of a key that has one. -/
def present : Option Bytes → Except Error Bytes
  | some data => .ok data
  | none => .error notFound

/-- The service that a store is below a root. -/
def service {σ : Type} (a : Adapter σ) (root : String) : Service σ Cursor Page where
  info := { a.info with
    root
    capability := { read := true, write := true, list := a.info.capability.list,
                    blocking := a.info.capability.blocking } }
  call form path
    | .create mode, s =>
      if mode = .file then a.set form (Path.key root path) [] s else (.ok (), s)
    | .read range, s =>
      andThen (a.get form (Path.key root path) s) fun value => do
        let data := range.cut (← present value)
        pure (ByteRange.count data, ⟨data⟩)
    | .write _ data, s =>
      andThen (a.set form (Path.key root path) data s) fun () => pure (ByteRange.count data)
    | .stat, s =>
      if Path.isDir path then (.ok dirMetadata, s)
      else andThen (a.get form (Path.key root path) s) fun value => do
        pure (fileMetadata (← present value))
    | .delete, s => a.delete form (Path.key root path) s
    | .list, s =>
      andThen (a.scan form (Path.key root path) s) fun keys =>
        pure (some (children root path keys))
  pull _ page s := (.ok page, none, s)
  fill _ := Cursor.fill
  pagesLeft page _ := if page.isSome then 1 else 0
  readsLeft := Cursor.readsLeft
  dirsAtMost := a.dirsAtMost

end ObjectStorage.Kv
