import ObjectStorage.FileTree

/-!
# Walks through directories and regular files

In a tree without symbolic links and devices a walk goes from directory to directory.  It ends in
one of four ways: at a node, at a place that is free, because a name is missing on the way, or
because a regular file stands in the way of names that are still to come.

* `Node.Plain`, `FileTree.Plain` — trees of directories and regular files;
* `FileTree.Admissible` — paths that are not refused for their form;
* `FileTree.walk_dir`, `FileTree.walk_file`, `FileTree.walk_missing` — one name that an entry can
  have, from what is there;
* `FileTree.walk_cons` — one name of a walk, whatever it is;
* `FileTree.walk_ends`, `FileTree.walk_notADirectory_iff` — how a walk ends, and when at a file;
* `FileTree.node_of_blocked`, `FileTree.node_of_free_way` — what a look-up of a path tells.
-/

namespace ObjectStorage

/-- Names lead on from where names led to. -/
theorem Node.at?_append (p q : List String) (n : Node) :
    n.at? (p ++ q) = (n.at? p).bind (at? q) := by
  induction p generalizing n with
  | nil => rfl
  | cons name p ih =>
    rw [List.cons_append, at?, at?, Option.bind_assoc]
    congr 1
    funext child
    exact ih child

theorem Node.at?_concat (p : List String) (name : String) (n : Node) :
    n.at? (p ++ [name]) = (n.at? p).bind (child? name) := by
  rw [at?_append]
  congr 1
  funext child
  exact Option.bind_fun_some (child? name child)

/-- Nothing but directories and regular files. -/
inductive Node.Plain : Node → Prop
  | file (id : Nat) : Plain (.file id)
  | dir (modified : Timestamp) (entries : List (String × Node))
    (h : ∀ entry ∈ entries, Plain entry.2) : Plain (.dir modified entries)

theorem Node.Plain.child {n child : Node} {name : String} (h : n.Plain)
    (hchild : n.child? name = some child) : child.Plain := by
  cases h with
  | file id => cases hchild
  | dir modified entries h =>
    obtain ⟨before, after, hentries, -⟩ := List.lookup_eq_some_iff.1 hchild
    refine h (name, child) ?_
    rw [hentries]
    exact List.mem_append_right before List.mem_cons_self

theorem Node.Plain.at? {n below : Node} {q : List String} (h : n.Plain)
    (hbelow : n.at? q = some below) : below.Plain := by
  induction q generalizing n with
  | nil =>
    cases hbelow
    exact h
  | cons name q ih =>
    obtain ⟨child, hchild, hat⟩ := Option.bind_eq_some_iff.1 hbelow
    exact ih (h.child hchild) hat

namespace FileTree

/-- Nothing but directories and regular files, and a directory at the root. -/
structure Plain (t : FileTree) : Prop where
  nodes : t.root.Plain
  root : t.root.isDir

/-- A path that no look-up refuses for its form: no NUL, and nothing is too long. -/
structure Admissible (path : String) : Prop where
  noNul : Char.ofNat 0 ∉ path.toList
  short : path.utf8ByteSize < maxPath
  nonempty : path ≠ ""
  names : ∀ name ∈ names path, name.utf8ByteSize ≤ maxName

theorem Admissible.checkPath {path : String} (h : Admissible path) :
    checkPath path = .ok () := by
  have hnul : path.toList.contains (Char.ofNat 0) = false := by
    rw [List.contains_eq_mem, decide_eq_false_iff_not]
    exact h.noNul
  rw [FileTree.checkPath, hnul, if_neg Bool.false_ne_true, if_neg (Nat.not_le.2 h.short),
    if_neg h.nonempty]

theorem Admissible.checkName {path : String} (h : Admissible path) :
    ∀ name ∈ FileTree.names path, checkName name = .ok () := by
  intro name hname
  exact if_neg (Nat.not_lt.2 (h.names name hname))

variable {t : FileTree} {follow : Bool} {links : Nat} {dir : List String} {name : String}

/-- A directory stands at a place. -/
def IsDirAt (t : FileTree) (dir : List String) : Prop :=
  ∃ modified entries, t.root.at? dir = some (.dir modified entries)

theorem Plain.isDirAt_root (ht : t.Plain) : t.IsDirAt [] := by
  have hroot := ht.root
  have hnodes := ht.nodes
  cases h : t.root with
  | dir modified entries => exact ⟨modified, entries, congrArg some h⟩
  | file id =>
    rw [h] at hroot
    cases hroot
  | link target =>
    rw [h] at hnodes
    cases hnodes
  | device =>
    rw [h] at hnodes
    cases hnodes

/-- What stands above a directory is a directory. -/
theorem IsDirAt.dropLast (h : t.IsDirAt dir) : t.IsDirAt dir.dropLast := by
  rcases List.eq_nil_or_concat dir with rfl | ⟨up, name, rfl⟩
  · exact h
  · obtain ⟨modified, entries, hat⟩ := h
    rw [List.concat_eq_append, List.dropLast_concat]
    rw [List.concat_eq_append, Node.at?_concat] at hat
    cases hup : t.root.at? up with
    | none => rw [hup] at hat; cases hat
    | some n =>
      rw [hup, Option.bind_some] at hat
      cases n with
      | dir modified' entries' => exact ⟨modified', entries', hup⟩
      | file id => cases hat
      | link target => cases hat
      | device => cases hat

/-- Without names left a walk is where it is. -/
theorem walk_nil (follow : Bool) (links : Nat) (hdir : t.IsDirAt dir) :
    ∃ modified entries, t.walk follow links dir [] = .ok (.node dir (.dir modified entries)) := by
  obtain ⟨modified, entries, hat⟩ := hdir
  exact ⟨modified, entries, by rw [walk, hat]⟩

/-- A name that an entry can have. -/
structure IsEntryName (name : String) : Prop where
  notHere : name ≠ "."
  notUp : name ≠ ".."
  short : checkName name = .ok ()

section

variable (hname : IsEntryName name) (rest : List String)
include hname

theorem walk_dir {modified : Timestamp} {entries : List (String × Node)}
    (hchild : (t.root.at? dir).bind (Node.child? name) = some (.dir modified entries)) :
    t.walk follow links dir (name :: rest) = t.walk follow links (dir ++ [name]) rest := by
  rw [walk.eq_def]
  simp only [if_neg hname.notHere, if_neg hname.notUp, hname.short, hchild]
  cases rest with
  | nil => rw [walk, Node.at?_concat, hchild]; rfl
  | cons next rest => rfl

theorem walk_file {id : Nat}
    (hchild : (t.root.at? dir).bind (Node.child? name) = some (.file id)) :
    t.walk follow links dir (name :: rest)
      = if rest = [] then .ok (.node (dir ++ [name]) (.file id)) else .error .notADirectory := by
  rw [walk.eq_def]
  simp only [if_neg hname.notHere, if_neg hname.notUp, hname.short, hchild]
  cases rest <;> rfl

theorem walk_missing (hchild : (t.root.at? dir).bind (Node.child? name) = none) :
    t.walk follow links dir (name :: rest)
      = if rest = [] then .ok (.free dir name) else .error .notFound := by
  rw [walk.eq_def]
  simp only [if_neg hname.notHere, if_neg hname.notUp, hname.short, hchild]
  cases rest <;> rfl

end

/-- **One name of a walk**: it leads on to a directory, or to a file, or nowhere. -/
theorem walk_cons (ht : t.Plain) (follow : Bool) (links : Nat) (hdir : t.IsDirAt dir)
    (hname : checkName name = .ok ()) :
    (∃ dir', t.IsDirAt dir' ∧
        ∀ rest, t.walk follow links dir (name :: rest) = t.walk follow links dir' rest)
      ∨ (∃ id, ∀ rest, t.walk follow links dir (name :: rest)
          = if rest = [] then .ok (.node (dir ++ [name]) (.file id)) else .error .notADirectory)
      ∨ ∀ rest, t.walk follow links dir (name :: rest)
          = if rest = [] then .ok (.free dir name) else .error .notFound := by
  by_cases hhere : name = "."
  · refine .inl ⟨dir, hdir, fun rest => ?_⟩
    rw [walk.eq_def]
    exact if_pos hhere
  by_cases hup : name = ".."
  · refine .inl ⟨dir.dropLast, hdir.dropLast, fun rest => ?_⟩
    rw [walk.eq_def]
    exact (if_neg hhere).trans (if_pos hup)
  have hentry : IsEntryName name := ⟨hhere, hup, hname⟩
  cases hchild : (t.root.at? dir).bind (Node.child? name) with
  | none => exact .inr (.inr fun rest => walk_missing hentry rest hchild)
  | some n =>
    have hat : t.root.at? (dir ++ [name]) = some n := by rw [Node.at?_concat, hchild]
    cases n with
    | dir modified entries =>
      exact .inl ⟨dir ++ [name], ⟨modified, entries, hat⟩, fun rest =>
        walk_dir hentry rest hchild⟩
    | file id => exact .inr (.inl ⟨id, fun rest => walk_file hentry rest hchild⟩)
    | link target => cases ht.nodes.at? hat
    | device => cases ht.nodes.at? hat

/-- A walk comes to a regular file with names still to come. -/
def MeetsFile (t : FileTree) (follow : Bool) (links : Nat) (dir ns : List String) : Prop :=
  ∃ before rest q id, ns = before ++ rest ∧ rest ≠ []
    ∧ t.walk follow links dir before = .ok (.node q (.file id))

/-- A walk that starts at a directory and meets a file has passed its first name. -/
theorem meetsFile_cons_iff (follow : Bool) (links : Nat) (hdir : t.IsDirAt dir) (name : String)
    (ns : List String) :
    t.MeetsFile follow links dir (name :: ns)
      ↔ ∃ before rest q id, ns = before ++ rest ∧ rest ≠ []
          ∧ t.walk follow links dir (name :: before) = .ok (.node q (.file id)) := by
  constructor
  · rintro ⟨before, rest, q, id, hns, hne, hwalk⟩
    cases before with
    | nil =>
      obtain ⟨modified, entries, hhere⟩ := walk_nil follow links hdir
      rw [hhere] at hwalk
      cases hwalk
    | cons first before =>
      obtain ⟨rfl, rfl⟩ := List.cons.inj hns
      exact ⟨before, rest, q, id, rfl, hne, hwalk⟩
  · rintro ⟨before, rest, q, id, rfl, hne, hwalk⟩
    exact ⟨name :: before, rest, q, id, rfl, hne, hwalk⟩

section

variable (ht : t.Plain) (follow : Bool) (links : Nat) (hdir : t.IsDirAt dir) {ns : List String}
  (hnames : ∀ name ∈ ns, checkName name = .ok ())
include ht hdir hnames

/-- **How a walk ends**: at a node, at a place that is free, or in one of two failures. -/
theorem walk_ends :
    (∃ q n, t.walk follow links dir ns = .ok (.node q n))
      ∨ (∃ d name, t.walk follow links dir ns = .ok (.free d name))
      ∨ t.walk follow links dir ns = .error .notFound
      ∨ t.walk follow links dir ns = .error .notADirectory := by
  induction ns generalizing dir with
  | nil =>
    obtain ⟨modified, entries, hwalk⟩ := walk_nil follow links hdir
    exact .inl ⟨dir, _, hwalk⟩
  | cons name ns ih =>
    obtain ⟨hname, hrest⟩ := List.forall_mem_cons.1 hnames
    obtain ⟨dir', hdir', hwalk⟩ | ⟨id, hwalk⟩ | hwalk := walk_cons ht follow links hdir hname
    · rw [hwalk]
      exact ih hdir' hrest
    · rw [hwalk]
      split
      · exact .inl ⟨_, _, rfl⟩
      · exact .inr (.inr (.inr rfl))
    · rw [hwalk]
      split
      · exact .inr (.inl ⟨_, _, rfl⟩)
      · exact .inr (.inr (.inl rfl))

/-- **A walk fails for a component that is no directory** just if it meets a file too early. -/
theorem walk_notADirectory_iff :
    t.walk follow links dir ns = .error .notADirectory ↔ t.MeetsFile follow links dir ns := by
  induction ns generalizing dir with
  | nil =>
    obtain ⟨modified, entries, hwalk⟩ := walk_nil follow links hdir
    constructor
    · intro h
      rw [hwalk] at h
      cases h
    · rintro ⟨before, rest, q, id, hns, hne, -⟩
      exact absurd (List.append_eq_nil_iff.1 hns.symm).2 hne
  | cons name ns ih =>
    obtain ⟨hname, hrest⟩ := List.forall_mem_cons.1 hnames
    rw [meetsFile_cons_iff follow links hdir]
    obtain ⟨dir', hdir', hwalk⟩ | ⟨id, hwalk⟩ | hwalk := walk_cons ht follow links hdir hname
    · simp only [hwalk]
      exact ih hdir' hrest
    · simp only [hwalk]
      constructor
      · intro h
        have hne : ns ≠ [] := by
          rintro rfl
          rw [if_pos rfl] at h
          cases h
        exact ⟨[], ns, dir ++ [name], id, rfl, hne, rfl⟩
      · rintro ⟨before, rest, q, id', rfl, hne, -⟩
        exact if_neg (by simp [hne])
    · simp only [hwalk]
      constructor
      · intro h
        split at h
        · cases h
        · cases congrArg IoError.kind (Except.error.inj h)
      · rintro ⟨before, rest, q, id, -, -, h⟩
        split at h <;> cases h

end

/-! ### Paths -/

/-- A regular file is in the way of a path; a slash at its end counts as a name. -/
def Blocked (t : FileTree) (path : String) : Prop :=
  t.MeetsFile true maxLinks [] (names path)

variable {path : String}

theorem find_eq (hpath : Admissible path) (follow : Bool) :
    t.find path follow = t.walk follow maxLinks [] (names path) := by
  rw [find, hpath.checkPath]
  rfl

theorem node_of_blocked (ht : t.Plain) (hpath : Admissible path) (h : t.Blocked path) :
    t.node path = .error .notADirectory := by
  have hwalk : t.walk true maxLinks [] (names path) = .error .notADirectory :=
    (walk_notADirectory_iff ht true maxLinks ht.isDirAt_root hpath.checkName).2 h
  rw [node, find_eq hpath, hwalk]
  rfl

/-- Where nothing is and no file is in the way, a name is missing. -/
theorem node_of_free_way (ht : t.Plain) (hpath : Admissible path) (hfree : ¬t.Blocked path)
    (hmissing : ∀ q n, t.node path ≠ .ok (q, n)) : t.node path = .error .notFound := by
  rw [node, find_eq hpath] at hmissing ⊢
  obtain ⟨q, n, hwalk⟩ | ⟨d, name, hwalk⟩ | hwalk | hwalk :=
    walk_ends ht true maxLinks ht.isDirAt_root hpath.checkName
  · exact absurd (by rw [hwalk]; rfl) (hmissing q n)
  · rw [hwalk]
    rfl
  · rw [hwalk]
    rfl
  · have hblocked : t.Blocked path :=
      (walk_notADirectory_iff ht true maxLinks ht.isDirAt_root hpath.checkName).1 hwalk
    exact absurd hblocked hfree

end FileTree

end ObjectStorage
