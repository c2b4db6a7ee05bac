import Mathlib.Data.List.Basic
import ObjectStorage.Proofs.FileTree.Removal

/-!
# Where names lead

A walk that follows symbolic links in the last place, too, either ends at a node or does not.  Where
it ends is a relation on names and nodes, with one case for each thing that a name can be: `.`,
`..`, a link, a directory, or the end of the way.  Names that lead to a directory can be followed by
more names, and a slash at the end of a path changes nothing if there is a directory at the path.

* `FileTree.Leads` — names lead from a directory to a node;
* `FileTree.walk_eq_ok_iff` — that is where walks end;
* `FileTree.Leads.append` — more names lead on from a directory;
* `FileTree.leads_append_here_iff` — a last name `.` asks for a directory;
* `FileTree.isDir_iff` — when there is a directory at a path.
-/

namespace ObjectStorage.FileTree

variable {t : FileTree} {path : String} {links : Nat} {dir ns : List String}

/-! ### The relation -/

/-- Names lead from a directory to a node by way of at most so many links; a link in the last place
is followed, too. -/
inductive Leads (t : FileTree) : Nat → List String → List String → List String → Node → Prop
  | done {links : Nat} {dir : List String} {n : Node} (hat : t.root.at? dir = some n) :
    Leads t links dir [] dir n
  | here {links : Nat} {dir rest q : List String} {n : Node} (h : Leads t links dir rest q n) :
    Leads t links dir ("." :: rest) q n
  | up {links : Nat} {dir rest q : List String} {n : Node}
    (h : Leads t links dir.dropLast rest q n) : Leads t links dir (".." :: rest) q n
  | link {links : Nat} {dir rest q : List String} {name target : String} {n : Node}
    (hname : IsEntryName name) (hat : t.root.at? (dir ++ [name]) = some (.link target))
    (h : Leads t links (if isAbsolute target then [] else dir) (names target ++ rest) q n) :
    Leads t (links + 1) dir (name :: rest) q n
  | dir {links : Nat} {dir rest q : List String} {name : String} {n : Node}
    (hname : IsEntryName name) (hdir : t.IsDirAt (dir ++ [name]))
    (h : Leads t links (dir ++ [name]) rest q n) : Leads t links dir (name :: rest) q n
  | leaf {links : Nat} {dir : List String} {name : String} {n : Node} (hname : IsEntryName name)
    (hat : t.root.at? (dir ++ [name]) = some n) (hdir : n.isDir = false)
    (hlink : ∀ target, n ≠ .link target) : Leads t links dir [name] (dir ++ [name]) n

theorem walk_here (follow : Bool) (rest : List String) :
    t.walk follow links dir ("." :: rest) = t.walk follow links dir rest := by
  rw [walk.eq_def]
  exact if_pos rfl

theorem walk_up (follow : Bool) (rest : List String) :
    t.walk follow links dir (".." :: rest) = t.walk follow links dir.dropLast rest := by
  rw [walk.eq_def]
  exact (if_neg (by decide)).trans (if_pos rfl)

section

variable {name : String} (hname : IsEntryName name)
include hname

theorem walk_link {target : String} (rest : List String)
    (hat : t.root.at? (dir ++ [name]) = some (.link target)) :
    t.walk true (links + 1) dir (name :: rest)
      = t.walk true links (if isAbsolute target then [] else dir) (names target ++ rest) := by
  rw [Node.at?_concat] at hat
  rw [walk.eq_def]
  simp only [if_neg hname.notHere, if_neg hname.notUp, hname.short, hat]
  rw [Bool.not_true, Bool.and_false, if_neg Bool.false_ne_true]

theorem walk_leaf {n : Node} (hat : t.root.at? (dir ++ [name]) = some n)
    (hlink : ∀ target, n ≠ .link target) :
    t.walk true links dir [name] = .ok (.node (dir ++ [name]) n) := by
  rw [Node.at?_concat] at hat
  rw [walk.eq_def]
  simp only [if_neg hname.notHere, if_neg hname.notUp, hname.short, hat]
  cases n with
  | dir modified entries => rfl
  | file id => rfl
  | link target => exact absurd rfl (hlink target)
  | device => rfl

end

/-- **A walk ends at the node that its names lead to.** -/
theorem walk_eq_ok_iff {q : List String} {n : Node} :
    t.walk true links dir ns = .ok (.node q n) ↔ t.Leads links dir ns q n := by
  constructor
  · intro h
    generalize hfollow : true = follow at h
    fun_induction walk t follow links dir ns
    case case1 hat =>
      cases h
      exact .done hat
    case case3 ih => exact .here (ih h)
    case case4 ih => exact .up (ih h)
    case case8 hlast =>
      rw [← hfollow, Bool.not_true, Bool.and_false] at hlast
      cases hlast
    case case10 hhere hup hshort target rest hchild hlast links ih =>
      rw [← Node.at?_concat] at hchild
      exact .link ⟨hhere, hup, hshort⟩ hchild (ih h)
    case case11 hhere hup hshort modified entries rest hchild hrest =>
      cases h
      rw [← Node.at?_concat] at hchild
      rw [List.isEmpty_iff.1 hrest]
      exact .dir ⟨hhere, hup, hshort⟩ ⟨_, _, hchild⟩ (.done hchild)
    case case12 hhere hup hshort modified entries rest hchild hrest ih =>
      rw [← Node.at?_concat] at hchild
      exact .dir ⟨hhere, hup, hshort⟩ ⟨_, _, hchild⟩ (ih h)
    case case13 hhere hup hshort n' hlink hdir hchild =>
      cases h
      rw [← Node.at?_concat] at hchild
      refine .leaf ⟨hhere, hup, hshort⟩ hchild ?_ hlink
      cases n with
      | dir modified entries => exact absurd rfl (hdir modified entries)
      | file id => rfl
      | link target => rfl
      | device => rfl
    all_goals cases h
  · intro h
    induction h with
    | done hat => rw [walk, hat]
    | here h ih => rw [walk_here, ih]
    | up h ih => rw [walk_up, ih]
    | link hname hat h ih => rw [walk_link hname _ hat, ih]
    | dir hname hdir h ih =>
      obtain ⟨modified, entries, hat⟩ := hdir
      rw [Node.at?_concat] at hat
      rw [walk_dir hname _ hat, ih]
    | leaf hname hat hdir hlink => exact walk_leaf hname hat hlink

variable {more q q' : List String} {n n' : Node}

/-- What names lead to stands in the tree. -/
theorem Leads.at? (h : t.Leads links dir ns q n) : t.root.at? q = some n :=
  at?_of_walk (walk_eq_ok_iff.2 h)

/-- More names lead on from a directory. -/
theorem Leads.append (h : t.Leads links dir ns q n) (hn : n.isDir = true)
    (hmore : ∀ links', t.Leads links' q more q' n') : t.Leads links dir (ns ++ more) q' n' := by
  induction h with
  | done hat => exact hmore _
  | here h ih => exact .here (ih hn hmore)
  | up h ih => exact .up (ih hn hmore)
  | link hname hat h ih =>
    have hrest := ih hn hmore
    rw [List.append_assoc] at hrest
    exact .link hname hat hrest
  | dir hname hdir h ih => exact .dir hname hdir (ih hn hmore)
  | leaf hname hat hdir hlink =>
    rw [hdir] at hn
    cases hn

theorem exists_of_append_here {name : String} {rest : List String} (hne : name ≠ ".")
    (h : ns ++ ["."] = name :: rest) : ∃ ns', ns = name :: ns' ∧ rest = ns' ++ ["."] := by
  cases ns with
  | nil => exact absurd (List.cons.inj h).1.symm hne
  | cons first ns =>
    obtain ⟨rfl, hrest⟩ := List.cons.inj h
    exact ⟨ns, rfl, hrest.symm⟩

/-- **A last name `.` asks for a directory**, and leads nowhere else. -/
theorem leads_append_here_iff (hroot : t.IsDirAt []) (hdir : t.IsDirAt dir) :
    t.Leads links dir (ns ++ ["."]) q n ↔ t.Leads links dir ns q n ∧ n.isDir = true := by
  constructor
  · intro h
    generalize hall : ns ++ ["."] = all at h
    induction h generalizing ns with
    | done hat => exact absurd hall (List.concat_ne_nil _ _)
    | here h ih =>
      cases ns with
      | nil =>
        cases hall
        cases h with
        | done hat =>
          obtain ⟨modified, entries, hat'⟩ := hdir
          cases hat.symm.trans hat'
          exact ⟨.done hat, rfl⟩
      | cons name ns =>
        cases hall
        obtain ⟨hns, hn⟩ := ih hdir rfl
        exact ⟨.here hns, hn⟩
    | up h ih =>
      obtain ⟨ns', rfl, rfl⟩ := exists_of_append_here (by decide) hall
      obtain ⟨hns, hn⟩ := ih hdir.dropLast rfl
      exact ⟨.up hns, hn⟩
    | @link _ dir _ _ _ target _ hname hat h ih =>
      obtain ⟨ns', rfl, rfl⟩ := exists_of_append_here hname.notHere hall
      have hnext : t.IsDirAt (if isAbsolute target then [] else dir) := by
        split
        · exact hroot
        · exact hdir
      obtain ⟨hns, hn⟩ := ih hnext (List.append_assoc ..)
      exact ⟨.link hname hat hns, hn⟩
    | dir hname hdir' h ih =>
      obtain ⟨ns', rfl, rfl⟩ := exists_of_append_here hname.notHere hall
      obtain ⟨hns, hn⟩ := ih hdir' rfl
      exact ⟨.dir hname hdir' hns, hn⟩
    | leaf hname hat hdir' hlink =>
      obtain ⟨ns', rfl, hrest⟩ := exists_of_append_here hname.notHere hall
      exact absurd hrest.symm (List.concat_ne_nil _ _)
  · rintro ⟨h, hn⟩
    exact h.append hn fun _ => .here (.done h.at?)

/-! ### Directories at paths -/

theorem names_eq (path : String) :
    names path = if Path.isDir path && !(bareNames path).isEmpty then bareNames path ++ ["."]
      else bareNames path := by
  rw [names, bareNames, List.isEmpty_map]

theorem node_eq_ok_iff :
    t.node path = .ok (q, n)
      ↔ checkPath path = .ok () ∧ t.Leads maxLinks [] (names path) q n := by
  rw [← walk_eq_ok_iff]
  constructor
  · intro h
    obtain ⟨spot, hfind, h⟩ := bind_eq_ok_iff.1 h
    obtain ⟨⟨⟩, hcheck, hwalk⟩ := bind_eq_ok_iff.1 hfind
    cases spot with
    | node q' n' =>
      cases h
      exact ⟨hcheck, hwalk⟩
    | free dir name => cases h
  · rintro ⟨hcheck, hwalk⟩
    rw [node, find, hcheck]
    show (t.walk true maxLinks [] (names path) >>= _) = _
    rw [hwalk]
    rfl

theorem isDir_eq_true_iff :
    t.isDir path = true ↔ ∃ q n, t.node path = .ok (q, n) ∧ n.isDir = true := by
  rw [isDir]
  constructor
  · intro h
    split at h
    · next q n hnode => exact ⟨q, n, hnode, h⟩
    · cases h
  · rintro ⟨q, n, hnode, hn⟩
    rw [hnode]
    exact hn

/-- **There is a directory at a path** just if its names lead to one, with or without a slash at
its end. -/
theorem isDir_iff (hroot : t.IsDirAt []) :
    t.isDir path = true ↔ checkPath path = .ok ()
      ∧ ∃ q n, t.Leads maxLinks [] (bareNames path) q n ∧ n.isDir = true := by
  have hnames (q : List String) (n : Node) :
      t.Leads maxLinks [] (names path) q n ∧ n.isDir = true
        ↔ t.Leads maxLinks [] (bareNames path) q n ∧ n.isDir = true := by
    rw [names_eq]
    split
    · rw [leads_append_here_iff hroot hroot, and_assoc, and_self]
    · exact Iff.rfl
  rw [isDir_eq_true_iff]
  simp only [node_eq_ok_iff, and_assoc, hnames, exists_and_left]

end ObjectStorage.FileTree
