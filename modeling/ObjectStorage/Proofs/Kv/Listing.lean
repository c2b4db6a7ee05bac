import ObjectStorage.Kv.Service
import ObjectStorage.Proofs.Children
import ObjectStorage.Proofs.Path.Key
import ObjectStorage.Proofs.Text.Order

/-!
# Listings of stores of keys and values

A directory of a store is listed as one page, which shows every child of the directory once, in the
order of the bytes of the paths, and nothing else.  The page depends only on the set of keys below
the directory: neither the order of a scan, nor keys that it gives twice, nor keys from elsewhere
make a difference.

* `Kv.Unrooted` — what stores promise of their keys;
* `Kv.IsPageOf` — the page of a directory, as the set of keys tells it;
* `Kv.children_isPageOf` — the fold of the keys gives this page;
* `Kv.list_exact` — so does a listing, in either form.
-/

namespace ObjectStorage.Kv

/-- No key begins with a slash. -/
def Unrooted (keys : List String) : Prop := ∀ key ∈ keys, key.toList.head? ≠ some '/'

/-- The page of the directory `dir` below a root, where a store has some keys. -/
structure IsPageOf (root dir : String) (keys : List String) (page : List Entry) : Prop where
  /-- The entries are in strictly increasing order of the bytes of their paths. -/
  increasing : page.Pairwise fun a b => Text.utf8 a.path < Text.utf8 b.path
  /-- A file for each remainder without a slash, a directory for each first segment of one with a
  slash, and nothing else. -/
  mem_iff (e : Entry) : e ∈ page
    ↔ (∃ rest, Path.key root dir ++ rest ∈ keys ∧ rest ≠ "" ∧ '/' ∉ rest.toList
        ∧ e = ⟨Path.inside dir ++ rest, { mode := .file }⟩)
      ∨ ∃ seg tail, Path.key root dir ++ (seg ++ "/" ++ tail) ∈ keys ∧ '/' ∉ seg.toList
          ∧ e = ⟨Path.inside dir ++ (seg ++ "/"), { mode := .dir }⟩
  /-- The mode of an entry is the one that its path tells. -/
  mode (e : Entry) : e ∈ page → (e.metadata.mode = .dir ↔ Path.isDir e.path = true)

/-- An entry is a child with its path made relative. -/
theorem mem_children {root dir : String} {keys : List String} {e : Entry} :
    e ∈ children root dir keys
      ↔ ∃ x ∈ (Children.ofPaths (Path.key root dir) keys).entries,
          (⟨Path.relative root x.1, { mode := x.2 }⟩ : Entry) = e := List.mem_map

section

variable (root dir : String) {keys : List String}

/-- What a key shows as lies below the directory, also relative to the root. -/
theorem relative_of_child? {key : String} (hkey : key.toList.head? ≠ some '/')
    {x : String × ObjectMode}
    (h : Children.child? (Path.key (Path.normalizeRoot root) dir) key = some x) :
    ∃ rest, x.1 = Path.key (Path.normalizeRoot root) dir ++ rest
      ∧ Path.relative (Path.normalizeRoot root) x.1 = Path.inside dir ++ rest := by
  rcases Children.child?_eq_some_iff.1 h with
    ⟨rest, rfl, hne, _, rfl⟩ | ⟨seg, tail, rfl, _, rfl⟩
  · exact ⟨rest, rfl, Path.relative_key_append root dir hne hkey⟩
  · have hne : seg ++ "/" ≠ "" := by
      intro heq
      have hnil : (seg ++ "/").toList = [] := by rw [heq]; rfl
      rw [String.toList_append] at hnil
      exact absurd hnil (by simp)
    -- the entry ends at a slash of the key, so both begin with the same character
    have hhead : (Path.key (Path.normalizeRoot root) dir ++ (seg ++ "/")).toList.head?
        ≠ some '/' := by
      intro heq
      apply hkey
      rw [← String.append_assoc, String.toList_append, List.head?_append, heq]
      rfl
    exact ⟨seg ++ "/", rfl, Path.relative_key_append root dir hne hhead⟩

theorem children_increasing (hkeys : Unrooted keys) :
    (children (Path.normalizeRoot root) dir keys).Pairwise
      fun a b => Text.utf8 a.path < Text.utf8 b.path := by
  rw [children, Children.page, List.pairwise_map]
  refine (Children.ofPaths _ keys).sorted.imp_of_mem ?_
  intro x y hx hy hlt
  obtain ⟨key, hkey, hchild⟩ := Children.mem_ofPaths_iff.1 hx
  obtain ⟨key', hkey', hchild'⟩ := Children.mem_ofPaths_iff.1 hy
  obtain ⟨rest, hpath, hrel⟩ := relative_of_child? root dir (hkeys key hkey) hchild
  obtain ⟨rest', hpath', hrel'⟩ := relative_of_child? root dir (hkeys key' hkey') hchild'
  rw [hpath, hpath'] at hlt
  show Text.utf8 (Path.relative (Path.normalizeRoot root) x.1)
    < Text.utf8 (Path.relative (Path.normalizeRoot root) y.1)
  rw [hrel, hrel']
  exact Text.utf8_lt_utf8 (Text.append_lt_append (Text.lt_of_append_lt hlt))

theorem mem_children_iff (hkeys : Unrooted keys) (e : Entry) :
    e ∈ children (Path.normalizeRoot root) dir keys
      ↔ (∃ rest, Path.key (Path.normalizeRoot root) dir ++ rest ∈ keys ∧ rest ≠ ""
          ∧ '/' ∉ rest.toList ∧ e = ⟨Path.inside dir ++ rest, { mode := .file }⟩)
        ∨ ∃ seg tail, Path.key (Path.normalizeRoot root) dir ++ (seg ++ "/" ++ tail) ∈ keys
            ∧ '/' ∉ seg.toList ∧ e = ⟨Path.inside dir ++ (seg ++ "/"), { mode := .dir }⟩ := by
  rw [mem_children]
  constructor
  · rintro ⟨x, hx, rfl⟩
    obtain ⟨key, hkey, hchild⟩ := Children.mem_ofPaths_iff.1 hx
    obtain ⟨below, hpath, hrel⟩ := relative_of_child? root dir (hkeys key hkey) hchild
    rcases Children.child?_eq_some_iff.1 hchild with
      ⟨rest, rfl, hne, hslash, rfl⟩ | ⟨seg, tail, rfl, hslash, rfl⟩
    · obtain rfl := (String.append_right_inj _).1 hpath
      exact .inl ⟨rest, hkey, hne, hslash, by rw [hrel]⟩
    · obtain rfl := (String.append_right_inj _).1 hpath
      exact .inr ⟨seg, tail, hkey, hslash, by rw [hrel]⟩
  · rintro (⟨rest, hkey, hne, hslash, rfl⟩ | ⟨seg, tail, hkey, hslash, rfl⟩)
    · have hchild := Children.child?_file (Path.key (Path.normalizeRoot root) dir) hne hslash
      obtain ⟨below, hpath, hrel⟩ := relative_of_child? root dir (hkeys _ hkey) hchild
      obtain rfl := (String.append_right_inj _).1 hpath
      exact ⟨_, Children.mem_ofPaths_iff.2 ⟨_, hkey, hchild⟩, by rw [hrel]⟩
    · have hchild := Children.child?_dir (Path.key (Path.normalizeRoot root) dir) hslash tail
      obtain ⟨below, hpath, hrel⟩ := relative_of_child? root dir (hkeys _ hkey) hchild
      obtain rfl := (String.append_right_inj _).1 hpath
      exact ⟨_, Children.mem_ofPaths_iff.2 ⟨_, hkey, hchild⟩, by rw [hrel]⟩

/-- The fold of the keys is the page of the directory. -/
theorem children_isPageOf (hkeys : Unrooted keys) :
    IsPageOf (Path.normalizeRoot root) dir keys
      (children (Path.normalizeRoot root) dir keys) where
  increasing := children_increasing root dir hkeys
  mem_iff := mem_children_iff root dir hkeys
  mode := by
    intro e he
    rcases (mem_children_iff root dir hkeys e).1 he with
      ⟨rest, _, hne, hslash, rfl⟩ | ⟨seg, tail, _, _, rfl⟩
    · rw [Children.isDir_append_file _ hne hslash]
      simp
    · rw [← String.append_assoc, Children.isDir_append_slash]
      simp

end

/-- The fold depends only on the set of the keys below the directory. -/
theorem children_congr {root dir : String} {keys keys' : List String}
    (h : ∀ rest, Path.key root dir ++ rest ∈ keys ↔ Path.key root dir ++ rest ∈ keys') :
    children root dir keys = children root dir keys' := by
  rw [children, children, Children.ofPaths_congr h]

/-! ### Listings -/

variable {σ τ : Type}

theorem call_list (a : Adapter σ) (root : String) {form : Form} {dir : String} {s s' : σ}
    {keys : List String} (h : a.scan form (Path.key root dir) s = (.ok keys, s')) :
    (service a root).call form dir .list s = (.ok (some (children root dir keys)), s') := by
  show andThen (a.scan form (Path.key root dir) s)
    (fun keys => (pure (some (children root dir keys)) : Except Error Page)) = _
  rw [h]
  rfl

/-- **Listings are exact.**  Whatever keys a scan gives, in whatever order, a listing in either
form is one page and then the end.  The page is the page of the directory, and any other store
gives the same one if it has the same keys below the directory. -/
theorem list_exact (a : Adapter σ) (root dir : String) (form : Form) {s s' : σ}
    {keys : List String}
    (hscan : a.scan form (Path.key (Path.normalizeRoot root) dir) s = (.ok keys, s'))
    (hkeys : Unrooted keys) :
    ∃ page, (service a (Path.normalizeRoot root)).call form dir .list s = (.ok (some page), s')
      ∧ (∀ t, (service a (Path.normalizeRoot root)).pull form (some page) t
          = (.ok (some page), none, t))
      ∧ (∀ t, (service a (Path.normalizeRoot root)).pull form none t = (.ok none, none, t))
      ∧ IsPageOf (Path.normalizeRoot root) dir keys page
      ∧ ∀ (b : Adapter τ) (form' : Form) (t t' : τ) (keys' : List String),
          b.scan form' (Path.key (Path.normalizeRoot root) dir) t = (.ok keys', t')
          → (∀ rest, Path.key (Path.normalizeRoot root) dir ++ rest ∈ keys
              ↔ Path.key (Path.normalizeRoot root) dir ++ rest ∈ keys')
          → (service b (Path.normalizeRoot root)).call form' dir .list t
              = (.ok (some page), t') := by
  refine ⟨children (Path.normalizeRoot root) dir keys, call_list a _ hscan, fun _ => rfl,
    fun _ => rfl, children_isPageOf root dir hkeys, ?_⟩
  intro b form' t t' keys' hscan' hsame
  rw [children_congr hsame]
  exact call_list b _ hscan'

/-- A store that gives the same keys to every scan and keeps no values. -/
def listed (keys : List String) : Adapter Unit where
  info := { scheme := .memory, capability := { list := true } }
  get _ _ s := (.ok none, s)
  set _ _ _ s := (.ok (), s)
  delete _ _ s := (.ok (), s)
  scan _ _ s := (.ok keys, s)
  dirsAtMost _ := dirsAbove keys

/-- Keys in no order, one of them twice, with a neighbour of the directory and the directory
itself; a file and a directory have the same name. -/
def mixedKeys : List String :=
  ["r/d/b/x", "r/dx", "r/d/b", "r/d/", "r/d/b/", "r/d/a", "q", "r/d/a"]

theorem list_exact_mixedKeys :
    Unrooted mixedKeys
      ∧ ∃ page, (service (listed mixedKeys) (Path.normalizeRoot "r")).call .blocking "d/" .list ()
          = (.ok (some page), ())
        ∧ IsPageOf (Path.normalizeRoot "r") "d/" mixedKeys page
        ∧ page = [⟨"d/a", { mode := .file }⟩, ⟨"d/b", { mode := .file }⟩,
            ⟨"d/b/", { mode := .dir }⟩] := by
  have hkeys : Unrooted mixedKeys := by
    unfold Unrooted
    decide
  have hscan : (listed mixedKeys).scan .blocking (Path.key (Path.normalizeRoot "r") "d/") ()
      = (.ok mixedKeys, ()) := rfl
  obtain ⟨page, hcall, _, _, hpage, _⟩ :=
    list_exact (τ := Unit) (listed mixedKeys) "r" "d/" .blocking hscan hkeys
  have hchildren : children (Path.normalizeRoot "r") "d/" mixedKeys
      = [⟨"d/a", { mode := .file }⟩, ⟨"d/b", { mode := .file }⟩, ⟨"d/b/", { mode := .dir }⟩] := by
    decide
  have heq : page = children (Path.normalizeRoot "r") "d/" mixedKeys :=
    Option.some.inj (Except.ok.inj (congrArg Prod.fst
      (hcall.symm.trans (call_list (listed mixedKeys) (Path.normalizeRoot "r") hscan))))
  exact ⟨hkeys, page, hcall, hpage, heq.trans hchildren⟩

end ObjectStorage.Kv
