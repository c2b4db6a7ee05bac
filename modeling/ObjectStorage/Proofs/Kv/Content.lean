import Mathlib.Logic.Function.Basic
import ObjectStorage.Kv.Trial
import ObjectStorage.Memory
import ObjectStorage.Proofs.Kv.Listing
import ObjectStorage.Proofs.Object.Steady
import ObjectStorage.Proofs.Table

/-!
# What a service sees of a store, and what it changes

A store of keys and values holds a content: the values of its keys.  A service on it sees of the
content only what lies below its root, and changes nothing else.

* `Request`, `Adapter.Holds` — stores that do with a content what a map would do, or refuse;
* `memory_holds`, `trial_holds` — such stores;
* `Below`, `Agree`, `Apart` — keys below a root, contents that are the same there, and roots that
  share no key;
* `service_steady` — what a service cannot see;
* `service_keeps` — what it cannot change.
-/

namespace ObjectStorage.Kv

variable {σ : Type}

/-! ### Stores that hold a content -/

/-- What a store can be asked for. -/
inductive Request
  | get (key : String)
  | set (key : String) (value : Bytes)
  | delete (key : String)
  | scan (start : String)

/-- The answer to a request that may be refused. -/
def answer {α : Type} (a : α) : Option Error → Except Error α
  | none => .ok a
  | some e => .error e

/-- The content after a change that may be refused. -/
def changed (content : String → Option Bytes) (key : String) (value : Option Bytes) :
    Option Error → String → Option Bytes
  | none => Function.update content key value
  | some _ => content

/-- What a scan may give: of the keys with the start those that have a value, and keys from
elsewhere. -/
inductive Finds (content : String → Option Bytes) (start : String) :
    Option Error → Except Error (List String) → Prop
  | keys {keys : List String}
    (h : ∀ rest, start ++ rest ∈ keys ↔ (content (start ++ rest)).isSome) :
    Finds content start none (.ok keys)
  | refused (e : Error) : Finds content start (some e) (.error e)

/-- A store that holds a content under keys.  It may refuse requests, always the same ones and
without a change; with all others it does what a map would do. -/
structure Adapter.Holds (a : Adapter σ) (content : σ → String → Option Bytes)
    (refusal : Form → Request → Option Error) : Prop where
  get (form : Form) (key : String) (s : σ) :
    (a.get form key s).1 = answer (content s key) (refusal form (.get key))
      ∧ content (a.get form key s).2 = content s
  set (form : Form) (key : String) (value : Bytes) (s : σ) :
    (a.set form key value s).1 = answer () (refusal form (.set key value))
      ∧ content (a.set form key value s).2
        = changed (content s) key (some value) (refusal form (.set key value))
  delete (form : Form) (key : String) (s : σ) :
    (a.delete form key s).1 = answer () (refusal form (.delete key))
      ∧ content (a.delete form key s).2 = changed (content s) key none (refusal form (.delete key))
  scan (form : Form) (start : String) (s : σ) :
    Finds (content s) start (refusal form (.scan start)) (a.scan form start s).1
      ∧ content (a.scan form start s).2 = content s

/-- What a store refuses that offers the async verbs only. -/
def minimalRefusal (refusal : Form → Request → Option Error) : Form → Request → Option Error
  | .async, .scan _ => some noScan
  | .async, request => refusal .async request
  | .blocking, .get _ => some (noBlocking .read)
  | .blocking, .set _ _ => some (noBlocking .write)
  | .blocking, .delete _ => some (noBlocking .delete)
  | .blocking, .scan _ => some noBlockingScan

theorem Adapter.Holds.minimal {a : Adapter σ} {content : σ → String → Option Bytes}
    {refusal : Form → Request → Option Error} (h : a.Holds content refusal) :
    a.minimal.Holds content (minimalRefusal refusal) where
  get form key s := by
    cases form with
    | async => exact h.get .async key s
    | blocking => exact ⟨rfl, rfl⟩
  set form key value s := by
    cases form with
    | async => exact h.set .async key value s
    | blocking => exact ⟨rfl, rfl⟩
  delete form key s := by
    cases form with
    | async => exact h.delete .async key s
    | blocking => exact ⟨rfl, rfl⟩
  scan form start s := by
    cases form with
    | async => exact ⟨.refused noScan, rfl⟩
    | blocking => exact ⟨.refused noBlockingScan, rfl⟩

theorem get?_insert_eq_update (t : Table Bytes) (key : String) (value : Bytes) :
    (t.insert key value).get? = Function.update t.get? key (some value) := by
  funext k
  rw [Table.get?_insert, Function.update_apply]

theorem get?_erase_eq_update (t : Table Bytes) (key : String) :
    (t.erase key).get? = Function.update t.get? key none := by
  funext k
  rw [Table.get?_erase, Function.update_apply]

/-- A scan of a table, whether it gives the keys that were asked for or all keys. -/
theorem finds_of_mem_iff {t : Table Bytes} {start : String} {keys : List String}
    (h : ∀ key, Table.startsWith start key = true → (key ∈ keys ↔ key ∈ t.keys)) :
    Finds t.get? start none (.ok keys) := by
  refine .keys fun rest => ?_
  have hstart : Table.startsWith start (start ++ rest) = true := by
    rw [Table.startsWith_iff, String.toList_append]
    exact List.prefix_append _ _
  rw [h _ hstart, Table.mem_keys_iff, Option.isSome_iff_exists]

/-- A store for trials holds its table, however it gives the keys. -/
theorem trial_holds (info : ServiceInfo) (loose minimal : Bool) :
    (Trial.adapter info loose minimal).Holds Table.get?
      (if minimal then minimalRefusal fun _ _ => none else fun _ _ => none) := by
  have hwhole : (Trial.adapter info loose false).Holds Table.get? fun _ _ => none :=
    { get := fun _ _ _ => ⟨rfl, rfl⟩
      set := fun _ key value t => ⟨rfl, get?_insert_eq_update t key value⟩
      delete := fun _ key t => ⟨rfl, get?_erase_eq_update t key⟩
      scan := by
        intro form start t
        refine ⟨finds_of_mem_iff fun key hstart => ?_, rfl⟩
        cases loose with
        | true =>
          show key ∈ Trial.looseScan t ↔ key ∈ t.keys
          rw [Trial.looseScan, List.mem_append, or_self, List.mem_reverse]
        | false =>
          show key ∈ t.scan start ↔ key ∈ t.keys
          rw [Table.mem_scan_iff]
          exact and_iff_left hstart }
  cases minimal with
  | false => exact hwhole
  | true => exact hwhole.minimal

/-- A memory store holds its table, and refuses nothing. -/
theorem memory_holds (name : String) :
    (Memory.adapter name).Holds Table.get? fun _ _ => none :=
  trial_holds { scheme := .memory, name, capability := Memory.capability } false false

/-! ### What a service sees of a content, and what it changes -/

/-- Does a key lie below a root? -/
def Below (root key : String) : Prop := root.toList.drop 1 <+: key.toList

/-- Contents that are the same below a root. -/
def Agree (content : σ → String → Option Bytes) (root : String) (s s' : σ) : Prop :=
  ∀ key, Below root key → content s key = content s' key

/-- Roots of which neither is the start of the other one. -/
def Apart (root root' : String) : Prop :=
  ¬ root.toList <+: root'.toList ∧ ¬ root'.toList <+: root.toList

theorem below_key (root path : String) : Below root (Path.key root path) := by
  rw [Below, Path.toList_key, Path.keyChars_eq]
  exact List.prefix_append _ _

theorem Below.append {root key : String} (h : Below root key) (rest : String) :
    Below root (key ++ rest) := by
  rw [Below, String.toList_append]
  exact h.trans (List.prefix_append _ _)

/-- **No key lies below two roots that are apart.**  Two starts of one key are starts of one
another, and so are the roots, which both begin with the one slash that keys lack. -/
theorem Apart.not_below {root root' key : String}
    (h : Apart (Path.normalizeRoot root) (Path.normalizeRoot root'))
    (hkey : Below (Path.normalizeRoot root) key) : ¬ Below (Path.normalizeRoot root') key := by
  intro hkey'
  obtain ⟨hleft, hright⟩ := h
  rw [Below, Path.toList_normalizeRoot, Path.normalizeRootChars, List.drop_one,
    List.tail_cons] at hkey hkey'
  rw [Path.toList_normalizeRoot, Path.toList_normalizeRoot, Path.normalizeRootChars,
    Path.normalizeRootChars, List.cons_prefix_cons] at hleft hright
  obtain hstarts | hstarts := List.prefix_or_prefix_of_prefix hkey hkey'
  · exact hleft ⟨rfl, hstarts⟩
  · exact hright ⟨rfl, hstarts⟩

/-- Steps of a store with the same result, after which it holds the same below a root. -/
structure StepsAgree {α : Type} (content : σ → String → Option Bytes) (root : String)
    (x x' : Except Error α × σ) : Prop where
  result : x.1 = x'.1
  store : Agree content root x.2 x'.2

theorem StepsAgree.andThen {α β : Type} {content : σ → String → Option Bytes} {root : String}
    {x x' : Except Error α × σ} (h : StepsAgree content root x x') (f : α → Except Error β) :
    StepsAgree content root (andThen x f) (andThen x' f) where
  result := congrArg (Except.bind · f) h.result
  store := h.store

theorem changed_of_ne {c : String → Option Bytes} {key k : String} (hne : k ≠ key)
    (value : Option Bytes) (refused : Option Error) : changed c key value refused k = c k := by
  cases refused with
  | none => exact Function.update_of_ne hne _ _
  | some e => rfl

theorem changed_congr {c c' : String → Option Bytes} {k : String} (h : c k = c' k) (key : String)
    (value : Option Bytes) (refused : Option Error) :
    changed c key value refused k = changed c' key value refused k := by
  cases refused with
  | some e => exact h
  | none =>
    by_cases heq : k = key
    · subst heq
      rw [changed, changed, Function.update_self, Function.update_self]
    · rw [changed_of_ne heq, changed_of_ne heq, h]

section

variable {a : Adapter σ} {content : σ → String → Option Bytes}
  {refusal : Form → Request → Option Error} (h : a.Holds content refusal) (root : String)
  (form : Form) (path : String)

include h

/-- A call changes no value but the one under the key of its path. -/
theorem content_call (action : Action) (s : σ) {key : String} (hne : key ≠ Path.key root path) :
    content ((service a root).call form path action s).2 key = content s key := by
  have hset : ∀ value, content (a.set form (Path.key root path) value s).2 key
      = content s key := fun value => by
    rw [(h.set form _ value s).2, changed_of_ne hne]
  have hget : content (a.get form (Path.key root path) s).2 key = content s key := by
    rw [(h.get form _ s).2]
  cases action with
  | create mode =>
    rw [service]
    dsimp only
    split
    · exact hset []
    · rfl
  | read range => exact hget
  | write length data => exact hset data
  | stat =>
    rw [service]
    dsimp only
    split
    · rfl
    · exact hget
  | delete =>
    show content (a.delete form (Path.key root path) s).2 key = _
    rw [(h.delete form _ s).2, changed_of_ne hne]
  | list =>
    show content (a.scan form (Path.key root path) s).2 key = _
    rw [(h.scan form _ s).2]

variable {s s' : σ} (hs : Agree content root s s')

include hs

theorem get_agree :
    StepsAgree content root (a.get form (Path.key root path) s)
      (a.get form (Path.key root path) s') where
  result := by
    rw [(h.get form _ s).1, (h.get form _ s').1, hs _ (below_key root path)]
  store key hkey := by
    rw [(h.get form _ s).2, (h.get form _ s').2, hs key hkey]

theorem set_agree (value : Bytes) :
    StepsAgree content root (a.set form (Path.key root path) value s)
      (a.set form (Path.key root path) value s') where
  result := by
    rw [(h.set form _ value s).1, (h.set form _ value s').1]
  store key hkey := by
    rw [(h.set form _ value s).2, (h.set form _ value s').2, changed_congr (hs key hkey)]

theorem delete_agree :
    StepsAgree content root (a.delete form (Path.key root path) s)
      (a.delete form (Path.key root path) s') where
  result := by
    rw [(h.delete form _ s).1, (h.delete form _ s').1]
  store key hkey := by
    rw [(h.delete form _ s).2, (h.delete form _ s').2, changed_congr (hs key hkey)]

/-- A scan may give other keys from elsewhere, but the page of a directory is made of the keys
below it. -/
theorem list_agree :
    StepsAgree content root ((service a root).call form path .list s)
      ((service a root).call form path .list s') := by
  obtain ⟨hfinds, hstore⟩ := h.scan form (Path.key root path) s
  obtain ⟨hfinds', hstore'⟩ := h.scan form (Path.key root path) s'
  refine ⟨?_, fun key hkey => ?_⟩
  · show (a.scan form (Path.key root path) s).1.bind _
      = (a.scan form (Path.key root path) s').1.bind _
    generalize (a.scan form (Path.key root path) s).1 = result at hfinds
    generalize (a.scan form (Path.key root path) s').1 = result' at hfinds'
    generalize refusal form (.scan (Path.key root path)) = refused at hfinds hfinds'
    cases hfinds with
    | refused e =>
      cases hfinds'
      rfl
    | @keys keys hkeys =>
      cases hfinds' with
      | @keys keys' hkeys' =>
        have hsame : children root path keys = children root path keys' := by
          refine children_congr fun rest => ?_
          rw [hkeys, hkeys', hs _ ((below_key root path).append rest)]
        exact congrArg (fun page => Except.ok (some page)) hsame
  · show content (a.scan form (Path.key root path) s).2 key
      = content (a.scan form (Path.key root path) s').2 key
    rw [hstore, hstore', hs key hkey]

/-- **A call sees of a content only what is below the root.** -/
theorem call_agree (action : Action) :
    StepsAgree content root ((service a root).call form path action s)
      ((service a root).call form path action s') := by
  cases action with
  | create mode =>
    rw [service]
    dsimp only
    split
    · exact set_agree h root form path hs []
    · exact ⟨rfl, hs⟩
  | read range => exact (get_agree h root form path hs).andThen _
  | write length data => exact (set_agree h root form path hs data).andThen _
  | stat =>
    rw [service]
    dsimp only
    split
    · exact ⟨rfl, hs⟩
    · exact (get_agree h root form path hs).andThen _
  | delete => exact delete_agree h root form path hs
  | list => exact list_agree h root form path hs

end

section

variable {a : Adapter σ} {content : σ → String → Option Bytes}
  {refusal : Form → Request → Option Error} (h : a.Holds content refusal)

include h

/-- A service cannot tell contents apart that are the same below its root. -/
theorem service_steady (root : String) : (service a root).Steady (Agree content root) where
  alike form :=
    { info := rfl
      call := by
        intro path action s s' hs
        obtain ⟨hresult, hstore⟩ := call_agree h root form path hs action
        rw [hresult]
        exact ⟨.refl (fun _ => rfl) (Reply.Alike.refl (fun _ => rfl) (fun _ => rfl) action) _,
          hstore⟩
      pull := by
        rintro page _ rfl s s' hs
        exact ⟨.ok rfl, rfl, hs⟩ }
  fill _ _ _ _ _ hs := ⟨rfl, rfl, hs⟩
  pagesLeft _ _ _ _ := rfl
  readsLeft _ _ _ _ := rfl

/-- A service leaves what is below a root that is apart from its own. -/
theorem service_keeps {root root' : String}
    (hapart : Apart (Path.normalizeRoot root) (Path.normalizeRoot root')) (t : σ) :
    (service a (Path.normalizeRoot root')).Keeps fun s =>
      Agree content (Path.normalizeRoot root) s t where
  call form path action _ s hs key hkey := by
    have hne : key ≠ Path.key (Path.normalizeRoot root') path := by
      rintro rfl
      exact hapart.not_below hkey (below_key _ path)
    rw [content_call h _ form path action s hne, hs key hkey]
  pull _ _ _ hs := hs
  fill _ _ _ _ hs := hs

end

end ObjectStorage.Kv
