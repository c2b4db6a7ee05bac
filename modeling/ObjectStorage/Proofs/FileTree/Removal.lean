import ObjectStorage.Proofs.FileTree.Walk
import ObjectStorage.Table

/-!
# What stays when something is removed

To take an entry out of a directory leaves all files but those at the entry and below it.  A
directory is taken out only if it has no entries, and nothing is below anything else, so that the
removal of a path takes at most the one file that the path names.

* `Node.at?_removed` — files away from an entry stay when it is taken out;
* `FileTree.at?_of_walk` — a walk ends at a node of the tree;
* `FileTree.of_rmdir`, `FileTree.of_unlink` — what is taken out;
* `FileTree.KeepsFiles` — a tree has all files of another one, but for those at some places;
* `FileTree.keepsFiles_rmdir`, `FileTree.keepsFiles_unlink` — what stays.
-/

namespace ObjectStorage

/-! ### Entries -/

namespace Node

theorem child?_removeEntry {removed name : String} (h : name ≠ removed) (now : Timestamp)
    (n : Node) : (removeEntry now removed n).child? name = n.child? name := by
  cases n with
  | dir modified entries =>
    show (entries.filter fun kc => kc.1 ≠ removed).lookup name = entries.lookup name
    rw [Table.lookup_filter_ne, if_neg h]
  | file id => rfl
  | link target => rfl
  | device => rfl

theorem lookup_map_entry (name : String) (f : Node → Node) (entries : List (String × Node))
    (k : String) :
    (entries.map fun (k, c) => if k = name then (k, f c) else (k, c)).lookup k
      = (entries.lookup k).map fun c => if k = name then f c else c := by
  induction entries with
  | nil => rfl
  | cons entry entries ih =>
    obtain ⟨key, c⟩ := entry
    rw [List.map_cons, List.lookup_cons, apply_ite Prod.fst, ite_self, ih, List.lookup_cons]
    cases hkey : k == key with
    | false => rfl
    | true =>
      rw [beq_iff_eq] at hkey
      subst hkey
      by_cases hk : k = name
      · simp only [if_pos hk, Option.map_some]
      · simp only [if_neg hk, Option.map_some]

theorem child?_alter (f : Node → Node) (name : String) (path : List String) (n : Node)
    (k : String) :
    (alter f (name :: path) n).child? k
      = (n.child? k).map fun c => if k = name then alter f path c else c := by
  cases n with
  | dir modified entries => exact lookup_map_entry name (alter f path) entries k
  | file id => rfl
  | link target => rfl
  | device => rfl

/-- **Files away from an entry stay** when it is taken out of its directory. -/
theorem at?_removed {now : Timestamp} {dir q : List String} {name : String} {id : Nat} {n : Node}
    (hfile : n.at? q = some (.file id)) (hother : ¬dir ++ [name] <+: q) :
    (n.alter (removeEntry now name) dir).at? q = some (.file id) := by
  induction dir generalizing n q with
  | nil =>
    cases q with
    | nil =>
      cases hfile
      rfl
    | cons k q =>
      have hk : k ≠ name := by
        rintro rfl
        exact hother (List.prefix_append [k] q)
      rw [alter, at?, child?_removeEntry hk]
      exact hfile
  | cons d dir ih =>
    cases q with
    | nil =>
      cases hfile
      rfl
    | cons k q =>
      obtain ⟨child, hchild, hat⟩ := Option.bind_eq_some_iff.1 hfile
      rw [at?, child?_alter, hchild]
      show (if k = d then alter (removeEntry now name) dir child else child).at? q = _
      split
      · next hk =>
        refine ih hat fun hprefix => hother ?_
        rw [hk, List.cons_append, List.cons_prefix_cons]
        exact ⟨rfl, hprefix⟩
      · exact hat

/-- Below what is no directory there is nothing. -/
theorem at?_of_not_isDir {n : Node} (hn : n.isDir = false) {q : List String} (hq : q ≠ []) :
    n.at? q = none := by
  cases q with
  | nil => exact absurd rfl hq
  | cons name q =>
    cases n with
    | dir modified entries => cases hn
    | file id => rfl
    | link target => rfl
    | device => rfl

end Node

namespace FileTree

variable {t t' : FileTree} {path : String}

/-- A walk ends at a node of the tree. -/
theorem at?_of_walk {follow : Bool} {links : Nat} {dir ns q : List String} {n : Node}
    (h : t.walk follow links dir ns = .ok (.node q n)) : t.root.at? q = some n := by
  fun_induction walk t follow links dir ns
  case case1 hat =>
    cases h
    exact hat
  case case3 ih | case4 ih | case10 ih | case12 ih => exact ih h
  case case8 hchild _ | case11 hchild _ | case13 hchild =>
    cases h
    rw [Node.at?_concat]
    exact hchild
  all_goals cases h

/-! ### Removals -/

theorem bind_eq_ok_iff {α β : Type} {x : Except IoError α} {f : α → Except IoError β} {b : β} :
    x >>= f = .ok b ↔ ∃ a, x = .ok a ∧ f a = .ok b := by
  cases x with
  | error e =>
    constructor
    · intro h
      cases h
    · rintro ⟨a, h, -⟩
      cases h
  | ok a =>
    constructor
    · intro h
      exact ⟨a, rfl, h⟩
    · rintro ⟨a', h, hf⟩
      cases h
      exact hf

/-- What `rmdir` takes out is a directory without entries. -/
theorem of_rmdir (h : t.rmdir path = .ok t') :
    ∃ dir name modified, t.root.at? (dir ++ [name]) = some (.dir modified [])
      ∧ t' = t.remove dir name := by
  obtain ⟨place, -, h⟩ := bind_eq_ok_iff.1 h
  cases place with
  | none => cases h
  | some place =>
    obtain ⟨dir, name⟩ := place
    dsimp only at h
    split at h
    · cases h
    split at h
    · cases h
    obtain ⟨-, -, h⟩ := bind_eq_ok_iff.1 h
    split at h
    · cases h
    · next modified hchild =>
      cases h
      exact ⟨dir, name, modified, by rw [Node.at?_concat, hchild], rfl⟩
    · cases h
    · cases h

/-- What `unlink` takes out is what the path names, and no directory. -/
theorem of_unlink (h : t.unlink path = .ok t') :
    ∃ dir name n, t.find path false = .ok (.node (dir ++ [name]) n) ∧ n.isDir = false
      ∧ t' = t.remove dir name := by
  obtain ⟨spot, hfind, h⟩ := bind_eq_ok_iff.1 h
  split at h
  · cases h
  · cases h
  · next q n hdir =>
    have hn : n.isDir = false := by
      cases n with
      | dir modified entries => exact absurd rfl (hdir modified entries)
      | file id => rfl
      | link target => rfl
      | device => rfl
    rcases List.eq_nil_or_concat q with rfl | ⟨dir, name, rfl⟩
    · cases h
    · rw [List.concat_eq_append] at hfind h
      rw [List.getLast?_concat, List.dropLast_concat] at h
      cases h
      exact ⟨dir, name, n, hfind, hn, rfl⟩

/-- What a path names stands in the tree. -/
theorem at?_of_find {follow : Bool} {q : List String} {n : Node}
    (h : t.find path follow = .ok (.node q n)) : t.root.at? q = some n := by
  obtain ⟨-, -, h⟩ := bind_eq_ok_iff.1 h
  exact at?_of_walk h

/-- All files of a tree stand in another one with their contents, but for those at some places. -/
def KeepsFiles (t t' : FileTree) (but : List String → Prop) : Prop :=
  ∀ q id, t.root.at? q = some (.file id) → ¬but q →
    t'.root.at? q = some (.file id) ∧ t'.content id = t.content id

/-- A path names the node at a place; symbolic links at its end are not followed. -/
def Names (t : FileTree) (path : String) (q : List String) : Prop :=
  ∃ n, t.find path false = .ok (.node q n)

theorem keepsFiles_refl (t : FileTree) (but : List String → Prop) : t.KeepsFiles t but :=
  fun _ _ hfile _ => ⟨hfile, rfl⟩

theorem keepsFiles_rmdir (h : t.rmdir path = .ok t') (but : List String → Prop) :
    t.KeepsFiles t' but := by
  obtain ⟨dir, name, modified, hat, rfl⟩ := of_rmdir h
  intro q id hfile _
  refine ⟨Node.at?_removed hfile ?_, rfl⟩
  rintro ⟨below, rfl⟩
  rw [Node.at?_append, hat] at hfile
  cases below <;> cases hfile

theorem keepsFiles_unlink (h : t.unlink path = .ok t') : t.KeepsFiles t' (t.Names path) := by
  obtain ⟨dir, name, n, hfind, hn, rfl⟩ := of_unlink h
  intro q id hfile hother
  refine ⟨Node.at?_removed hfile ?_, rfl⟩
  rintro ⟨below, rfl⟩
  cases below with
  | nil =>
    rw [List.append_nil] at hother
    exact hother ⟨n, hfind⟩
  | cons next below =>
    rw [Node.at?_append, at?_of_find hfind, Option.bind_some,
      Node.at?_of_not_isDir hn (List.cons_ne_nil next below)] at hfile
    cases hfile

end FileTree

end ObjectStorage
