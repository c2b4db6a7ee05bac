import ObjectStorage.Proofs.FileTree.Leads

/-!
# New directories

To create a directory adds one entry to a tree, and takes nothing away: names lead where they led
before, and the names of the new directory lead to it.  So once a directory was created with all
that were missing above it, there is a directory at its path.

* `Node.at?_added` — what stands in a tree stays when an entry is put into it;
* `FileTree.Extends` — a tree has all that stands in another one;
* `FileTree.Leads.of_extends` — names lead to the same place in both;
* `FileTree.of_mkdir` — what creating a directory puts into a tree;
* `FileTree.isDir_of_mkdir`, `FileTree.of_createDirAll` — what was created is there.
-/

namespace ObjectStorage

/-! ### Entries -/

namespace Node

theorem child?_addEntry_of_some {now : Timestamp} {added name : String} {child n c : Node}
    (h : n.child? name = some c) : (addEntry now added child n).child? name = some c := by
  cases n with
  | dir modified entries =>
    show (entries ++ [(added, child)]).lookup name = some c
    rw [List.lookup_append, show entries.lookup name = some c from h, Option.some_or]
  | file id => cases h
  | link target => cases h
  | device => cases h

theorem child?_addEntry_self {now : Timestamp} {name : String} {child n : Node}
    (hdir : n.isDir = true) (hfree : n.child? name = none) :
    (addEntry now name child n).child? name = some child := by
  cases n with
  | dir modified entries =>
    show (entries ++ [(name, child)]).lookup name = some child
    rw [List.lookup_append, show entries.lookup name = none from hfree, Option.none_or]
    exact List.lookup_cons_self
  | file id => cases hdir
  | link target => cases hdir
  | device => cases hdir

/-- What stands in the place of a node: the node itself, or a directory for a directory. -/
def Replaces (n' n : Node) : Prop := n' = n ∨ n.isDir = true ∧ n'.isDir = true

theorem Replaces.refl (n : Node) : n.Replaces n := .inl rfl

theorem Replaces.isDir {n n' : Node} (h : n'.Replaces n) (hn : n.isDir = true) :
    n'.isDir = true := by
  obtain rfl | ⟨-, hn'⟩ := h
  · exact hn
  · exact hn'

theorem Replaces.trans {n n' n'' : Node} (h : n''.Replaces n') (h' : n'.Replaces n) :
    n''.Replaces n := by
  obtain rfl | ⟨hn', hn''⟩ := h
  · exact h'
  · obtain rfl | ⟨hn, -⟩ := h'
    · exact .inr ⟨hn', hn''⟩
    · exact .inr ⟨hn, hn''⟩

theorem replaces_addEntry (now : Timestamp) (name : String) (child n : Node) :
    (addEntry now name child n).Replaces n := by
  cases n with
  | dir modified entries => exact .inr ⟨rfl, rfl⟩
  | file id => exact .refl _
  | link target => exact .refl _
  | device => exact .refl _

theorem replaces_alter_cons (f : Node → Node) (name : String) (path : List String) (n : Node) :
    (alter f (name :: path) n).Replaces n := by
  cases n with
  | dir modified entries => exact .inr ⟨rfl, rfl⟩
  | file id => exact .refl _
  | link target => exact .refl _
  | device => exact .refl _

theorem at?_alter_self (f : Node → Node) (path : List String) (n : Node) :
    (n.alter f path).at? path = (n.at? path).map f := by
  induction path generalizing n with
  | nil => rfl
  | cons name path ih =>
    rw [at?, child?_alter, at?, Option.bind_map, Option.map_bind]
    refine Option.bind_congr fun child _ => ?_
    exact (congrArg (at? path) (if_pos rfl)).trans (ih child)

/-- What stands in a tree still stands there when an entry is put into a directory. -/
theorem at?_added {now : Timestamp} {dir q : List String} {name : String} {child n x : Node}
    (h : n.at? q = some x) :
    ∃ x', (n.alter (addEntry now name child) dir).at? q = some x' ∧ x'.Replaces x := by
  induction dir generalizing n q with
  | nil =>
    cases q with
    | nil =>
      cases h
      exact ⟨_, rfl, replaces_addEntry ..⟩
    | cons k q =>
      obtain ⟨c, hc, hat⟩ := Option.bind_eq_some_iff.1 h
      refine ⟨x, ?_, .refl x⟩
      rw [alter, at?, child?_addEntry_of_some hc]
      exact hat
  | cons d dir ih =>
    cases q with
    | nil =>
      cases h
      exact ⟨_, rfl, replaces_alter_cons ..⟩
    | cons k q =>
      obtain ⟨c, hc, hat⟩ := Option.bind_eq_some_iff.1 h
      rw [at?, child?_alter, hc, Option.map_some, Option.bind_some]
      by_cases hk : k = d
      · rw [if_pos hk]
        exact ih hat
      · rw [if_neg hk]
        exact ⟨x, hat, .refl x⟩

end Node

namespace FileTree

variable {t t' : FileTree} {path : String} {links : Nat} {dir ns q : List String} {n : Node}

/-! ### Trees with more entries -/

theorem isDirAt_iff : t.IsDirAt dir ↔ ∃ n, t.root.at? dir = some n ∧ n.isDir = true := by
  constructor
  · rintro ⟨modified, entries, hat⟩
    exact ⟨_, hat, rfl⟩
  · rintro ⟨n, hat, hn⟩
    cases n with
    | dir modified entries => exact ⟨modified, entries, hat⟩
    | file id => cases hn
    | link target => cases hn
    | device => cases hn

/-- A tree has all that stands in another one, and perhaps more entries in its directories. -/
def Extends (t' t : FileTree) : Prop :=
  ∀ q n, t.root.at? q = some n → ∃ n', t'.root.at? q = some n' ∧ n'.Replaces n

theorem Extends.refl (t : FileTree) : t.Extends t := fun _ n hat => ⟨n, hat, .refl n⟩

theorem Extends.trans {t'' : FileTree} (h : t''.Extends t') (h' : t'.Extends t) :
    t''.Extends t := by
  intro q n hat
  obtain ⟨n', hat', hn'⟩ := h' q n hat
  obtain ⟨n'', hat'', hn''⟩ := h q n' hat'
  exact ⟨n'', hat'', hn''.trans hn'⟩

theorem Extends.isDirAt (h : t'.Extends t) (hdir : t.IsDirAt dir) : t'.IsDirAt dir := by
  obtain ⟨n, hat, hn⟩ := isDirAt_iff.1 hdir
  obtain ⟨n', hat', rfl | ⟨-, hn'⟩⟩ := h dir n hat
  · exact isDirAt_iff.2 ⟨_, hat', hn⟩
  · exact isDirAt_iff.2 ⟨_, hat', hn'⟩

theorem extends_add (t : FileTree) (dir : List String) (name : String) (child : Node) :
    (t.add dir name child).Extends t := fun _ _ hat => Node.at?_added hat

/-- **Names lead to the same place** in a tree with more entries. -/
theorem Leads.of_extends (h : t.Leads links dir ns q n) (hmore : t'.Extends t) :
    ∃ n', t'.Leads links dir ns q n' ∧ n'.Replaces n := by
  induction h with
  | done hat =>
    obtain ⟨n', hat', hn'⟩ := hmore _ _ hat
    exact ⟨n', .done hat', hn'⟩
  | here h ih =>
    obtain ⟨n', h', hn'⟩ := ih
    exact ⟨n', .here h', hn'⟩
  | up h ih =>
    obtain ⟨n', h', hn'⟩ := ih
    exact ⟨n', .up h', hn'⟩
  | link hname hat h ih =>
    obtain ⟨n', h', hn'⟩ := ih
    obtain ⟨_, hat', rfl | ⟨hdir, -⟩⟩ := hmore _ _ hat
    · exact ⟨n', .link hname hat' h', hn'⟩
    · cases hdir
  | dir hname hdir h ih =>
    obtain ⟨n', h', hn'⟩ := ih
    exact ⟨n', .dir hname (hmore.isDirAt hdir) h', hn'⟩
  | leaf hname hat hdir hlink =>
    obtain ⟨_, hat', rfl | ⟨hdir', -⟩⟩ := hmore _ _ hat
    · exact ⟨_, .leaf hname hat' hdir hlink, .refl _⟩
    · rw [hdir] at hdir'
      cases hdir'

/-- A directory stays in a tree with more entries. -/
theorem Extends.isDir (h : t'.Extends t) (hroot : t.IsDirAt []) (hdir : t.isDir path = true) :
    t'.isDir path = true := by
  obtain ⟨hcheck, q, n, hleads, hn⟩ := (isDir_iff hroot).1 hdir
  obtain ⟨n', hleads', hn'⟩ := hleads.of_extends h
  exact (isDir_iff (h.isDirAt hroot)).2 ⟨hcheck, q, n', hleads', hn'.isDir hn⟩

/-! ### New directories -/

/-- What creating a directory puts into the tree: a directory where a name was free. -/
theorem of_mkdir (h : t.mkdir path = .ok t') :
    ∃ dir name n, bareNames path = (bareNames path).dropLast ++ [name] ∧ IsEntryName name
      ∧ checkPath path = .ok () ∧ t.Leads maxLinks [] ((bareNames path).dropLast ++ ["."]) dir n
      ∧ (t.root.at? dir).bind (Node.child? name) = none ∧ t' = t.add dir name (.dir t.now []) := by
  obtain ⟨spot, hplace, h⟩ := bind_eq_ok_iff.1 h
  obtain ⟨⟨⟩, hcheck, hplace⟩ := bind_eq_ok_iff.1 hplace
  cases hlast : (bareNames path).getLast? with
  | none =>
    rw [hlast] at hplace
    cases hplace
    cases h
  | some name =>
    rw [hlast] at hplace
    obtain ⟨place, hwalk, hplace⟩ := bind_eq_ok_iff.1 hplace
    cases place with
    | free dir name => cases hplace
    | node dir n =>
      cases hplace
      dsimp only at h
      split at h
      · cases h
      next hname =>
      obtain ⟨⟨⟩, hshort, h⟩ := bind_eq_ok_iff.1 h
      split at h
      · cases h
      next hfree =>
      cases h
      rw [Bool.or_eq_true, not_or, decide_eq_true_eq, decide_eq_true_eq] at hname
      exact ⟨dir, name, n, (List.dropLast_append_getLast? name hlast).symm,
        ⟨hname.1, hname.2, hshort⟩, hcheck, walk_eq_ok_iff.1 hwalk, hfree, rfl⟩

theorem extends_mkdir (h : t.mkdir path = .ok t') : t'.Extends t := by
  obtain ⟨dir, name, n, -, -, -, -, -, rfl⟩ := of_mkdir h
  exact extends_add t dir name _

/-- **A directory that was created is there.** -/
theorem isDir_of_mkdir (hroot : t.IsDirAt []) (h : t.mkdir path = .ok t') :
    t'.isDir path = true := by
  have hmore := extends_mkdir h
  obtain ⟨dir, name, n, hnames, hname, hcheck, hleads, hfree, rfl⟩ := of_mkdir h
  obtain ⟨hleads, hn⟩ := (leads_append_here_iff hroot hroot).1 hleads
  obtain ⟨n', hleads', hn'⟩ := hleads.of_extends hmore
  -- the new entry stands in the directory that the names before the last one lead to
  have hchild : n.child? name = none := by
    rw [hleads.at?, Option.bind_some] at hfree
    exact hfree
  have hat : (t.add dir name (.dir t.now [])).root.at? (dir ++ [name]) = some (.dir t.now []) := by
    rw [Node.at?_concat]
    show ((t.root.alter _ dir).at? dir).bind _ = _
    rw [Node.at?_alter_self, hleads.at?, Option.map_some, Option.bind_some]
    exact Node.child?_addEntry_self hn hchild
  refine (isDir_iff (hmore.isDirAt hroot)).2 ⟨hcheck, dir ++ [name], .dir t.now [], ?_, rfl⟩
  rw [hnames]
  exact hleads'.append (hn'.isDir hn) fun _ => .dir hname ⟨_, _, hat⟩ (.done hat)

/-- Directories that are created, the innermost last, are there, and all that was there before. -/
theorem of_mkdirAll {paths : List String} (hroot : t.IsDirAt [])
    (h : t.mkdirAll paths = (.ok (), t')) :
    t'.Extends t ∧ ∀ path ∈ paths, t'.isDir path = true := by
  induction paths generalizing t with
  | nil =>
    cases h
    exact ⟨.refl _, fun _ hmem => absurd hmem List.not_mem_nil⟩
  | cons path paths ih =>
    rw [mkdirAll] at h
    split at h
    · next made hmade =>
      have hmore := extends_mkdir hmade
      obtain ⟨hrest, hpaths⟩ := ih (hmore.isDirAt hroot) h
      refine ⟨hrest.trans hmore, List.forall_mem_cons.2 ⟨?_, hpaths⟩⟩
      exact hrest.isDir (hmore.isDirAt hroot) (isDir_of_mkdir hroot hmade)
    · split at h
      · next hthere =>
        obtain ⟨hrest, hpaths⟩ := ih hroot h
        rw [Bool.and_eq_true] at hthere
        exact ⟨hrest, List.forall_mem_cons.2 ⟨hrest.isDir hroot hthere.2, hpaths⟩⟩
      · cases h

theorem of_createDirAllFrom {fuel : Nat} {missing : List String} (hroot : t.IsDirAt [])
    (h : t.createDirAllFrom fuel path missing = (.ok (), t')) :
    t'.Extends t ∧ (∀ path ∈ missing, t'.isDir path = true)
      ∧ (fuel ≠ 0 → t'.isDir path = true) := by
  induction fuel generalizing path missing with
  | zero =>
    obtain ⟨hmore, hmissing⟩ := of_mkdirAll hroot h
    exact ⟨hmore, hmissing, fun hfuel => absurd rfl hfuel⟩
  | succ fuel ih =>
    rw [createDirAllFrom] at h
    split at h
    · next made hmade =>
      have hmore := extends_mkdir hmade
      obtain ⟨hrest, hmissing⟩ := of_mkdirAll (hmore.isDirAt hroot) h
      refine ⟨hrest.trans hmore, hmissing, fun _ => ?_⟩
      exact hrest.isDir (hmore.isDirAt hroot) (isDir_of_mkdir hroot hmade)
    · split at h
      · split at h
        · next up _ =>
          obtain ⟨hmore, hmissing, -⟩ := ih h
          obtain ⟨hpath, hmissing⟩ := List.forall_mem_cons.1 hmissing
          exact ⟨hmore, hmissing, fun _ => hpath⟩
        · obtain ⟨hmore, hmissing⟩ := of_mkdirAll hroot h
          obtain ⟨hpath, hmissing⟩ := List.forall_mem_cons.1 hmissing
          exact ⟨hmore, hmissing, fun _ => hpath⟩
      · split at h
        · next hthere =>
          obtain ⟨hmore, hmissing⟩ := of_mkdirAll hroot h
          rw [Bool.and_eq_true] at hthere
          exact ⟨hmore, hmissing, fun _ => hmore.isDir hroot hthere.2⟩
        · cases h

/-- **Once a directory was created with all above it, it is there**, and all that was there
before. -/
theorem of_createDirAll (hroot : t.IsDirAt []) (h : t.createDirAll path = (.ok (), t')) :
    t'.Extends t ∧ (path ≠ "" → t'.isDir path = true) := by
  rw [createDirAll] at h
  split at h
  · next hempty =>
    cases h
    exact ⟨.refl _, fun hne => absurd hempty hne⟩
  · next hne =>
    obtain ⟨hmore, -, hpath⟩ := of_createDirAllFrom hroot h
    exact ⟨hmore, fun _ => hpath (mt String.length_eq_zero_iff.1 hne)⟩

/-- Where only the last directory is missing, nothing else is created. -/
theorem createDirAll_of_mkdir (h : t.mkdir path = .ok t') :
    t.createDirAll path = (.ok (), t') := by
  have hne : path ≠ "" := by
    rintro rfl
    cases h
  obtain ⟨fuel, hfuel⟩ := Nat.exists_eq_succ_of_ne_zero (mt String.length_eq_zero_iff.1 hne)
  rw [createDirAll, if_neg hne, hfuel, createDirAllFrom, h]
  rfl

/-- To create a directory in the root needs nothing but a name that is free there. -/
theorem mkdir_in_root {name : String} {modified : Timestamp} {entries : List (String × Node)}
    (hroot : t.root = .dir modified entries) (hcheck : checkPath path = .ok ())
    (hnames : bareNames path = [name]) (hname : IsEntryName name)
    (hfree : entries.lookup name = none) :
    t.mkdir path = .ok (t.add [] name (.dir t.now [])) := by
  have hwalk : t.walk true maxLinks [] ["."] = .ok (.node [] t.root) := by
    rw [walk_here, walk]
    rfl
  have hplace : t.place path = .ok (some ([], name)) := by
    rw [place, hcheck, hnames]
    show (t.walk true maxLinks [] ["."] >>= _) = _
    rw [hwalk]
    rfl
  have hchild : (t.root.at? []).bind (Node.child? name) = none := by
    rw [hroot]
    exact hfree
  have hother : ¬((decide (name = ".") || decide (name = "..")) = true) := by
    simp [hname.notHere, hname.notUp]
  rw [mkdir, hplace]
  show (if (decide (name = ".") || decide (name = "..")) = true then _ else _) = _
  rw [if_neg hother, hname.short, hchild]
  rfl

end FileTree

end ObjectStorage
