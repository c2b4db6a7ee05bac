import Mathlib.Logic.Function.Iterate
import ObjectStorage.Layer
import ObjectStorage.Proofs.Path.Parent
import ObjectStorage.Proofs.Table

/-!
# Listings from an index

An index that users fill step by step holds the canonical forms of what they supply.  A service with
the index lists any directory as one page: the files of the index that have the directory as their
parent, and the directories in it that begin some path of the index.  So every path of the index is
found by descending from the root through directories, and nothing is shown but such paths and the
directories on the way to them.

* `Index.Growth`, `Index.grown` — how users fill an index;
* `Index.Given` — the canonical forms of what they supplied;
* `Index.IsPageOf`, `Index.children_isPageOf` — the page of a directory;
* `Index.Descends`, `Index.descends_of_begins` — the way down to a directory, by induction on the
  length of its path;
* `Stack.index_lists_exactly` — the listings of a service with an index.
-/

namespace ObjectStorage

namespace Index

/-! ### Filling an index -/

/-- What a user adds to an index at a time. -/
inductive Growth
  | path (text : String)
  | paths (texts : List String)

/-- What was supplied. -/
def Growth.texts : Growth → List String
  | .path text => [text]
  | .paths texts => texts

/-- Add to an index. -/
def grow (index : Index) (growth : Growth) : Index := growth.texts.foldl insert index

/-- The index that users have filled. -/
def grown (growths : List Growth) : Index := growths.foldl grow Table.empty

/-- A path is the canonical form of something that was supplied. -/
def Given (growths : List Growth) (path : String) : Prop :=
  ∃ growth ∈ growths, ∃ text ∈ growth.texts, path = Path.normalize text

theorem mem_keys_insert {index : Index} {text path : String} :
    path ∈ (index.insert text).keys ↔ path = Path.normalize text ∨ path ∈ index.keys := by
  rw [Table.mem_keys_iff, Table.mem_keys_iff, insert, Table.get?_insert]
  by_cases h : path = Path.normalize text
  · simp [h]
  · simp [h]

theorem mem_keys_foldl_insert {texts : List String} {index : Index} {path : String} :
    path ∈ (texts.foldl insert index).keys
      ↔ (∃ text ∈ texts, path = Path.normalize text) ∨ path ∈ index.keys := by
  induction texts generalizing index with
  | nil => simp
  | cons text texts ih =>
    rw [List.foldl_cons, ih, mem_keys_insert, ← or_assoc]
    simp only [List.mem_cons, exists_eq_or_imp, or_comm (a := path = Path.normalize text)]

/-- **An index holds what was given to it.**  By induction on what users add. -/
theorem mem_keys_grown {growths : List Growth} {path : String} :
    path ∈ (grown growths).keys ↔ Given growths path := by
  have hgrow (index : Index) : path ∈ (growths.foldl grow index).keys
      ↔ Given growths path ∨ path ∈ index.keys := by
    induction growths generalizing index with
    | nil => simp [Given]
    | cons growth growths ih =>
      rw [List.foldl_cons, ih, grow, mem_keys_foldl_insert, ← or_assoc]
      simp only [Given, List.mem_cons, exists_eq_or_imp,
        or_comm (a := ∃ text ∈ growth.texts, path = Path.normalize text)]
  rw [grown, hgrow]
  exact or_iff_left List.not_mem_nil

/-- Whatever is given is the root or a canonical path. -/
theorem isCanonical_of_given {growths : List Growth} {path : String} (h : Given growths path) :
    path = Path.root ∨ Path.IsCanonical path.toList := by
  obtain ⟨growth, _, text, _, rfl⟩ := h
  exact Path.normalize_cases text

/-! ### The page of a directory -/

/-- The page of the directory `dir`, where an index holds some paths. -/
structure IsPageOf (paths : String → Prop) (dir : String) (page : List Entry) : Prop where
  /-- The entries are in strictly increasing order of the bytes of their paths. -/
  increasing : page.Pairwise fun a b => Text.utf8 a.path < Text.utf8 b.path
  /-- The files of the index and the directories that begin its paths, if their parent is the
  directory, and nothing else. -/
  mem_iff (e : Entry) : e ∈ page
    ↔ (∃ path, paths path ∧ Path.isDir path = false ∧ Path.parent path = dir
        ∧ e = ⟨path, { mode := .file }⟩)
      ∨ ∃ child, Path.isDir child = true ∧ child ≠ Path.root ∧ Path.parent child = dir
          ∧ (∃ path, paths path ∧ child.toList <+: path.toList) ∧ e = ⟨child, { mode := .dir }⟩

theorem start_eq_inside (dir : String) : start dir = Path.inside dir := by
  by_cases h : dir = Path.root
  · rw [start, if_pos h, h]
    rfl
  · rw [start, if_neg h, Path.inside_of_ne h]

/-- The entries of a page are what the paths of the index show as. -/
theorem mem_children_iff {index : Index} {dir : String} {e : Entry} :
    e ∈ index.children dir
      ↔ ∃ path ∈ index.keys, path ≠ Path.root ∧ ∃ x,
          Children.child? (Path.inside dir) path = some x ∧ e = ⟨x.1, { mode := x.2 }⟩ := by
  rw [children, Children.page, List.mem_map, start_eq_inside]
  constructor
  · rintro ⟨x, hx, rfl⟩
    obtain ⟨path, hmem, hchild⟩ := Children.mem_ofPaths_iff.1 hx
    obtain ⟨hscan, hroot⟩ := List.mem_filter.1 hmem
    exact ⟨path, (Table.mem_scan_iff.1 hscan).1, of_decide_eq_true hroot, x, hchild, rfl⟩
  · rintro ⟨path, hkey, hroot, x, hchild, rfl⟩
    obtain ⟨rest, -, hbelow⟩ := Children.below_of_child? hchild
    have hstart : Table.startsWith (Path.inside dir) path = true :=
      Table.startsWith_iff.2 ⟨rest, hbelow.symm⟩
    have hscan := Table.mem_scan_iff.2 ⟨hkey, hstart⟩
    exact ⟨x, Children.mem_ofPaths_iff.2
      ⟨path, List.mem_filter.2 ⟨hscan, decide_eq_true hroot⟩, hchild⟩, rfl⟩

theorem children_increasing (index : Index) (dir : String) :
    (index.children dir).Pairwise fun a b => Text.utf8 a.path < Text.utf8 b.path := by
  rw [children, Children.page, List.pairwise_map]
  exact (Children.ofPaths _ _).sorted.imp Text.utf8_lt_utf8

section

variable {growths : List Growth} {dir : String}

/-- A file of an index is shown in its parent. -/
theorem file_mem_children {path : String} (hgiven : Given growths path)
    (hfile : Path.isDir path = false) :
    ⟨path, { mode := .file }⟩ ∈ (grown growths).children (Path.parent path) := by
  have hroot : path ≠ Path.root := by
    rintro rfl
    cases hfile
  have hcanonical := (isCanonical_of_given hgiven).resolve_left hroot
  obtain ⟨name, hpath, hne, hslash⟩ := Path.parent_spec hcanonical hfile
  have hchild := Children.child?_file (Path.inside (Path.parent path)) hne hslash
  rw [← hpath] at hchild
  exact mem_children_iff.2 ⟨path, mem_keys_grown.2 hgiven, hroot, _, hchild, rfl⟩

/-- A directory that begins a path of an index is canonical. -/
theorem isCanonical_of_begins {child path : String} (hgiven : Given growths path)
    (hdir : Path.isDir child = true) (hroot : child ≠ Path.root)
    (hbegins : child.toList <+: path.toList) :
    Path.IsCanonical child.toList ∧ Path.IsCanonical path.toList := by
  obtain rfl | hcanonical := isCanonical_of_given hgiven
  · -- only the root itself begins the root and has a slash at its end
    exfalso
    obtain ⟨tail, htail⟩ := hbegins
    cases hcs : child.toList with
    | nil => exact Path.ne_empty_of_isDir hdir (String.toList_eq_nil_iff.1 hcs)
    | cons c cs =>
      rw [hcs] at htail
      obtain ⟨rfl, hrest⟩ := List.cons.inj htail
      have hnil : cs = [] := (List.append_eq_nil_iff.1 hrest).1
      exact hroot (String.toList_inj.1 (by rw [hcs, hnil]; rfl))
  · exact ⟨hcanonical.of_prefix hdir hbegins, hcanonical⟩

/-- A directory that begins a path of an index is shown in its parent. -/
theorem dir_mem_children {child path : String} (hgiven : Given growths path)
    (hdir : Path.isDir child = true) (hroot : child ≠ Path.root)
    (hbegins : child.toList <+: path.toList) :
    ⟨child, { mode := .dir }⟩ ∈ (grown growths).children (Path.parent child) := by
  obtain ⟨hcanonical, hcanonical'⟩ := isCanonical_of_begins hgiven hdir hroot hbegins
  obtain ⟨name, hchild, -, hslash⟩ := Path.parent_dir_spec hcanonical hdir
  obtain ⟨tail, htail⟩ := hbegins
  have hpath : path
      = Path.inside (Path.parent child) ++ (name ++ "/" ++ String.ofList tail) := by
    rw [← String.append_assoc, ← hchild]
    apply String.toList_inj.1
    rw [String.toList_append, String.toList_ofList, htail]
  have hshows := Children.child?_dir (Path.inside (Path.parent child)) hslash (String.ofList tail)
  rw [← hpath, ← hchild] at hshows
  exact mem_children_iff.2
    ⟨path, mem_keys_grown.2 hgiven, hcanonical'.ne_root, _, hshows, rfl⟩

/-- What is shown in a directory has the directory as its parent. -/
theorem cases_of_mem_children (hdir : Path.isDir dir = true) {e : Entry}
    (h : e ∈ (grown growths).children dir) :
    (∃ path, Given growths path ∧ Path.isDir path = false ∧ Path.parent path = dir
        ∧ e = ⟨path, { mode := .file }⟩)
      ∨ ∃ child, Path.isDir child = true ∧ child ≠ Path.root ∧ Path.parent child = dir
          ∧ (∃ path, Given growths path ∧ child.toList <+: path.toList)
          ∧ e = ⟨child, { mode := .dir }⟩ := by
  obtain ⟨path, hkey, hroot, x, hchild, rfl⟩ := mem_children_iff.1 h
  have hgiven := mem_keys_grown.1 hkey
  rcases Children.child?_eq_some_iff.1 hchild with
    ⟨name, rfl, hne, hslash, rfl⟩ | ⟨name, tail, hpath, hslash, rfl⟩
  · exact .inl ⟨_, hgiven, Children.isDir_append_file _ hne hslash,
      Path.parent_file hdir hne hslash, rfl⟩
  · have hbegins : (Path.inside dir ++ (name ++ "/")).toList <+: path.toList :=
      ⟨tail.toList, by rw [hpath, ← String.toList_append, String.append_assoc]⟩
    have hplain : Path.isDir (Path.inside dir ++ (name ++ "/")) = true := by
      rw [← String.append_assoc]
      exact Children.isDir_append_slash _
    have hne : Path.inside dir ++ (name ++ "/") ≠ Path.root := by
      intro heq
      have hcanonical := (isCanonical_of_given hgiven).resolve_left hroot
      obtain ⟨rest, hrest⟩ := hbegins
      rw [heq] at hrest
      exact hcanonical.head (by rw [← hrest]; rfl)
    exact .inr ⟨_, hplain, hne, Path.parent_dir hdir hne hslash, ⟨path, hgiven, hbegins⟩, rfl⟩

/-- **The page of a directory** is as the paths that were given to the index tell it. -/
theorem children_isPageOf (hdir : Path.isDir dir = true) :
    IsPageOf (Given growths) dir ((grown growths).children dir) where
  increasing := children_increasing _ dir
  mem_iff e := by
    constructor
    · exact cases_of_mem_children hdir
    · rintro (⟨path, hgiven, hfile, rfl, rfl⟩
        | ⟨child, hplain, hroot, rfl, ⟨path, hgiven, hbegins⟩, rfl⟩)
      · exact file_mem_children hgiven hfile
      · exact dir_mem_children hgiven hplain hroot hbegins

end

/-! ### The way down -/

/-- The directories that are found by descending from the root, where each directory shows some
page. -/
inductive Descends (pages : String → List Entry) : String → Prop
  | root : Descends pages Path.root
  | down {dir : String} {e : Entry} (h : Descends pages dir) (he : e ∈ pages dir)
      (hmode : e.metadata.mode = .dir) : Descends pages e.path

variable {growths : List Growth}

/-- **Every directory that begins a path of an index is found by descending.**  By induction on the
length of its path, since its parent is shorter. -/
theorem descends_of_begins {child path : String} (hgiven : Given growths path)
    (hdir : Path.isDir child = true) (hbegins : child.toList <+: path.toList) :
    Descends (grown growths).children child := by
  by_cases hroot : child = Path.root
  · rw [hroot]
    exact .root
  · have hshown := dir_mem_children hgiven hdir hroot hbegins
    obtain ⟨hcanonical, -⟩ := isCanonical_of_begins hgiven hdir hroot hbegins
    have hparent : Descends (grown growths).children (Path.parent child) := by
      obtain htop | ⟨hne, hstarts, hlt⟩ := Path.parent_cases hcanonical
      · rw [htop]
        exact .root
      · exact descends_of_begins hgiven (Path.isDir_parent child) (hstarts.trans hbegins)
    exact .down hparent hshown rfl
termination_by child.length

/-- A path on the way from a path of the index up to the root. -/
def OnTheWay (growths : List Growth) (path : String) : Prop :=
  path = Path.root ∨ ∃ below, Given growths below
    ∧ (path = below ∨ Path.isDir path = true ∧ path.toList <+: below.toList)

theorem isCanonical_of_onTheWay {path : String} (h : OnTheWay growths path)
    (hroot : path ≠ Path.root) : Path.IsCanonical path.toList := by
  obtain ⟨below, hgiven, rfl | ⟨hdir, hbegins⟩⟩ := h.resolve_left hroot
  · exact (isCanonical_of_given hgiven).resolve_left hroot
  · exact (isCanonical_of_begins hgiven hdir hroot hbegins).1

/-- The way leads from each path to its parent. -/
theorem OnTheWay.parent {path : String} (h : OnTheWay growths path) :
    OnTheWay growths (Path.parent path) := by
  by_cases hroot : path = Path.root
  · rw [hroot]
    exact .inl rfl
  · obtain htop | ⟨-, hstarts, -⟩ := Path.parent_cases (isCanonical_of_onTheWay h hroot)
    · exact .inl htop
    · obtain ⟨below, hgiven, rfl | ⟨-, hbegins⟩⟩ := h.resolve_left hroot
      · exact .inr ⟨_, hgiven, .inr ⟨Path.isDir_parent _, hstarts⟩⟩
      · exact .inr ⟨below, hgiven, .inr ⟨Path.isDir_parent path, hstarts.trans hbegins⟩⟩

theorem OnTheWay.iterate_parent {path : String} (h : OnTheWay growths path) (k : Nat) :
    OnTheWay growths (Path.parent^[k] path) := by
  induction k generalizing path with
  | zero => exact h
  | succ k ih =>
    rw [Function.iterate_succ_apply]
    exact ih h.parent

/-- A directory on the way is found by descending. -/
theorem OnTheWay.descends {dir : String} (h : OnTheWay growths dir)
    (hdir : Path.isDir dir = true) : Descends (grown growths).children dir := by
  obtain rfl | ⟨below, hgiven, rfl | ⟨-, hbegins⟩⟩ := h
  · exact .root
  · exact descends_of_begins hgiven hdir List.prefix_rfl
  · exact descends_of_begins hgiven hdir hbegins

/-- A path on the way is shown in its parent. -/
theorem OnTheWay.mem_children {path : String} (h : OnTheWay growths path)
    (hroot : path ≠ Path.root) :
    ⟨path, { mode := .ofPath path }⟩ ∈ (grown growths).children (Path.parent path) := by
  rw [ObjectMode.ofPath]
  obtain ⟨below, hgiven, rfl | ⟨hdir, hbegins⟩⟩ := h.resolve_left hroot
  · cases hdir : Path.isDir path with
    | true => exact dir_mem_children hgiven hdir hroot List.prefix_rfl
    | false => exact file_mem_children hgiven hdir
  · rw [hdir]
    exact dir_mem_children hgiven hdir hroot hbegins

/-- Only directories on the way show anything. -/
theorem descends_of_mem_children {dir : String} (hdir : Path.isDir dir = true) {e : Entry}
    (h : e ∈ (grown growths).children dir) : Descends (grown growths).children dir := by
  have hway : OnTheWay growths e.path := by
    obtain ⟨path, hgiven, -, -, rfl⟩ | ⟨child, hplain, -, -, ⟨path, hgiven, hbegins⟩, rfl⟩ :=
      cases_of_mem_children hdir h
    · exact .inr ⟨path, hgiven, .inl rfl⟩
    · exact .inr ⟨path, hgiven, .inr ⟨hplain, hbegins⟩⟩
  have hparent : Path.parent e.path = dir := by
    obtain ⟨path, -, -, heq, rfl⟩ | ⟨child, -, -, heq, -, rfl⟩ := cases_of_mem_children hdir h
    · exact heq
    · exact heq
  rw [← hparent] at hdir ⊢
  exact hway.parent.descends hdir

end Index

/-! ### Listings -/

namespace Stack

open Index

variable {σ ρ π : Type}

/-- A page that is there already is pulled once, and then the pager is at its end. -/
theorem pull_ready (service : Service σ ρ π) (form : Form) (dir : String) (page : List Entry)
    (w : World σ) :
    ∃ p' : Pager π, ({ source := .ready (some page), path := dir } : Pager π).pull service form w
        = (.ok (some page), p', w)
      ∧ ∀ v : World σ, p'.pull service form v = (.ok none, p', v) :=
  ⟨_, rfl, fun _ => rfl⟩

/-- **An index shows exactly the tree of the paths that were given to it.**  Let users fill an index
step by step with any texts.  Then, over any service and through any layers, in either form, the
listing of any directory succeeds without changing anything, and is one page, as `IsPageOf` tells.
From any path of the index other than the root, each step up to the root leads to a directory that
is found by descending from the root, and shows where the step came from.  What is shown in any
directory is a path of the index or a directory that begins one, and the directory is itself found
by descending. -/
theorem index_lists_exactly (growths : List Growth) :
    (∀ (service : Service σ ρ π) (layers : List Layer) (form : Form) (dir : String),
      ∃ p : Pager π,
        (∀ w : World σ,
          call service (.index (grown growths) :: layers) form dir .list w = (.ok p, w))
        ∧ ∀ w : World σ, ∃ p', p.pull service form w
            = (.ok (some ((grown growths).children dir)), p', w)
          ∧ ∀ v : World σ, p'.pull service form v = (.ok none, p', v))
    ∧ (∀ dir, Path.isDir dir = true →
      IsPageOf (Given growths) dir ((grown growths).children dir))
    ∧ (∀ path, Given growths path → ∀ k, Path.parent^[k] path ≠ Path.root →
      Descends (grown growths).children (Path.parent (Path.parent^[k] path))
      ∧ ⟨Path.parent^[k] path, { mode := .ofPath (Path.parent^[k] path) }⟩
          ∈ (grown growths).children (Path.parent (Path.parent^[k] path)))
    ∧ ∀ dir, Path.isDir dir = true → ∀ e ∈ (grown growths).children dir,
      Descends (grown growths).children dir
      ∧ (Given growths e.path ∨ e.metadata.mode = .dir
          ∧ ∃ path, Given growths path ∧ e.path.toList <+: path.toList) := by
  refine ⟨?_, fun dir hdir => children_isPageOf hdir, ?_, ?_⟩
  · intro service layers form dir
    exact ⟨_, fun w => rfl, fun w => pull_ready service form dir _ w⟩
  · intro path hgiven k hroot
    have hway : OnTheWay growths (Path.parent^[k] path) :=
      OnTheWay.iterate_parent (.inr ⟨path, hgiven, .inl rfl⟩) k
    exact ⟨hway.parent.descends (Path.isDir_parent _), hway.mem_children hroot⟩
  · intro dir hdir e he
    refine ⟨descends_of_mem_children hdir he, ?_⟩
    obtain ⟨path, hgiven, -, -, rfl⟩ | ⟨child, -, -, -, hbegins, rfl⟩ :=
      cases_of_mem_children hdir he
    · exact .inl hgiven
    · exact .inr ⟨rfl, hbegins⟩

/-- What two users supplied: a file and a deeper one, then a directory with blanks, slashes in a
row and a neighbour of its name. -/
def twoGrowths : List Growth :=
  [.paths ["dir/a", "file", "dir/sub/b"], .path " //dir//sub/ ", .paths ["dirx/c", "/", "dir/a"]]

theorem index_lists_exactly_twoGrowths :
    Path.isDir "dir/" = true
      ∧ Given twoGrowths "dir/sub/b"
      ∧ Path.parent^[1] "dir/sub/b" ≠ Path.root
      ∧ ⟨"dir/sub/", { mode := .dir }⟩ ∈ (grown twoGrowths).children "dir/"
      ∧ (∃ p : Pager Empty, ∀ w : World Unit,
          call (Service.nothing { scheme := .ipmfs }) [.index (grown twoGrowths)] .async "dir/"
            .list w = (.ok p, w))
      ∧ (grown twoGrowths).children "dir/"
        = [⟨"dir/a", { mode := .file }⟩, ⟨"dir/sub/", { mode := .dir }⟩]
      ∧ Descends (grown twoGrowths).children "dir/" := by
  obtain ⟨hlists, -, hway, hshown⟩ := index_lists_exactly (σ := Unit) (ρ := Empty) (π := Empty)
    twoGrowths
  have hdir : Path.isDir "dir/" = true := by decide
  have hgiven : Given twoGrowths "dir/sub/b" :=
    ⟨_, List.mem_cons_self, "dir/sub/b", by decide, by decide⟩
  have hne : Path.parent^[1] "dir/sub/b" ≠ Path.root := by decide
  have hpage : (grown twoGrowths).children "dir/"
      = [⟨"dir/a", { mode := .file }⟩, ⟨"dir/sub/", { mode := .dir }⟩] := by decide
  obtain ⟨p, hcall, -⟩ := hlists (Service.nothing { scheme := .ipmfs }) [] .async "dir/"
  have hentry := (hway "dir/sub/b" hgiven 1 hne).2
  have hup : Path.parent^[1] "dir/sub/b" = "dir/sub/" := by decide
  have hup' : Path.parent "dir/sub/" = "dir/" := by decide
  have hmode : ObjectMode.ofPath "dir/sub/" = .dir := by decide
  rw [hup, hup', hmode] at hentry
  exact ⟨hdir, hgiven, hne, hentry, ⟨p, hcall⟩, hpage, (hshown "dir/" hdir _ hentry).1⟩

end Stack

end ObjectStorage
