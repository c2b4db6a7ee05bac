import Mathlib.Algebra.GroupWithZero.Nat
import Mathlib.Algebra.Order.BigOperators.Group.List
import Mathlib.Algebra.Order.Group.Nat
import Mathlib.Data.List.Nodup
import Mathlib.Data.List.Perm.Subperm
import ObjectStorage.Proofs.Memory.Listing
import ObjectStorage.Proofs.Path.Parent

/-!
# What lies below a directory of the memory service

Directories exist by the files below them alone.  What a directory shows are the files and the
directories whose parent it is; each of these directories shows what lies in it in turn, so that in
the end every file below the first directory is shown once, and every directory on the way to it.

* `Path.Below` — a path lies below a directory;
* `FileMap.Shows` — a path is a file, or a directory on the way to one;
* `Memory.shown`, `Memory.shownWithin` — what a directory shows, and what the directories in it do;
* `Memory.Mirrors.mem_shown_iff`, `Memory.Mirrors.mem_shownWithin_iff` — which paths these are;
* `Memory.Mirrors.shownWithin_pairwise` — none twice, and a directory before what lies below it;
* `Memory.Mirrors.length_le_dirsAbove` — a bound on what can be shown.
-/

namespace ObjectStorage

/-! ### Paths below a directory -/

namespace Path

/-- The path lies below the directory. -/
def Below (dir path : String) : Prop :=
  (inside dir).toList <+: path.toList ∧ path ≠ inside dir

theorem below_iff {dir path : String} :
    Below dir path ↔ ∃ rest, rest ≠ "" ∧ path = inside dir ++ rest := by
  constructor
  · rintro ⟨⟨rest, hrest⟩, hne⟩
    have hpath : path = inside dir ++ String.ofList rest :=
      String.toList_inj.1 (by rw [String.toList_append, String.toList_ofList, hrest])
    refine ⟨String.ofList rest, ?_, hpath⟩
    intro hempty
    rw [hempty, String.append_empty] at hpath
    exact hne hpath
  · rintro ⟨rest, hne, rfl⟩
    rw [Below, String.toList_append]
    refine ⟨List.prefix_append _ _, ?_⟩
    intro heq
    rw [← String.append_empty (s := inside dir), String.append_assoc, String.empty_append] at heq
    exact hne ((String.append_right_inj _).1 heq)

theorem Below.length_lt {dir path : String} (h : Below dir path) :
    (inside dir).length < path.length := by
  obtain ⟨rest, hne, rfl⟩ := below_iff.1 h
  have hrest : 0 < rest.toList.length :=
    List.length_pos_iff.2 (mt String.toList_eq_nil_iff.1 hne)
  rw [← String.length_toList, ← String.length_toList, String.toList_append, List.length_append]
  omega

theorem Below.trans {dir mid path : String} (h : Below dir mid) (hmid : mid ≠ root)
    (h' : Below mid path) : Below dir path := by
  have hlonger := h'.length_lt
  rw [inside_of_ne hmid] at hlonger
  obtain ⟨hstarts, -⟩ := h'
  rw [inside_of_ne hmid] at hstarts
  refine ⟨h.1.trans hstarts, ?_⟩
  rintro rfl
  exact absurd h.length_lt (Nat.not_lt.2 (Nat.le_of_lt hlonger))

/-- What lies outside of a directory is neither in it nor below what is in it. -/
theorem Below.apart {dir a b : String} (hb : Below dir b) (hne : b ≠ root) (ha : ¬Below dir a) :
    a ≠ b ∧ ¬Below b a := by
  constructor
  · rintro rfl
    exact ha hb
  · exact fun hab => ha (hb.trans hne hab)

/-- A path below a directory is a file in it, a directory in it, or below one of these. -/
theorem Below.cases {dir path : String} (h : Below dir path) :
    (∃ name, name ≠ "" ∧ '/' ∉ name.toList ∧ path = inside dir ++ name)
      ∨ ∃ name tail, '/' ∉ name.toList ∧ path = inside dir ++ (name ++ "/") ++ tail := by
  obtain ⟨rest, hne, rfl⟩ := below_iff.1 h
  rcases Children.slash_cases rest.toList with hslash | ⟨name, tail, hslash, hrest⟩
  · exact .inl ⟨rest, hne, hslash, rfl⟩
  · refine .inr ⟨String.ofList name, String.ofList tail, by rwa [String.toList_ofList], ?_⟩
    apply String.toList_inj.1
    simp only [String.toList_append, String.toList_ofList, hrest, List.append_assoc]
    rfl

/-- A canonical path lies below its parent. -/
theorem below_parent {path : String} (h : IsCanonical path.toList) : Below (parent path) path := by
  obtain ⟨name, hne, -, hpath⟩ := exists_name_of_isCanonical h
  refine below_iff.2 ⟨_, ?_, hpath⟩
  intro hempty
  have hnil := congrArg String.toList hempty
  rw [String.toList_append, String.toList_empty, List.append_eq_nil_iff] at hnil
  exact hne (String.toList_eq_nil_iff.1 hnil.1)

/-- Of two canonical paths in one directory none lies below the other. -/
theorem not_below_of_parent_eq {dir path : String} (hdir : IsCanonical dir.toList)
    (hisDir : isDir dir = true) (hpath : IsCanonical path.toList)
    (hparent : parent dir = parent path) : ¬Below dir path := by
  intro h
  obtain ⟨rest, hrest, heq⟩ := below_iff.1 h
  obtain ⟨name, -, -, hname⟩ := exists_name_of_isCanonical hdir
  obtain ⟨name', -, hslash', hname'⟩ := exists_name_of_isCanonical hpath
  rw [hisDir, if_pos rfl] at hname
  rw [inside_of_ne hdir.ne_root] at heq
  rw [← hparent] at hname'
  generalize parent dir = up at hname hname'
  generalize hends : (if isDir path then "/" else "") = ends at hname'
  have hshort : ends.toList.length ≤ 1 := by
    rw [← hends]
    split <;> decide
  have hrest' : 0 < rest.toList.length :=
    List.length_pos_iff.2 (mt String.toList_eq_nil_iff.1 hrest)
  -- what follows the parent in the longer path has a slash before its end, but names have none
  have hchars : name'.toList ++ ends.toList = name.toList ++ '/' :: rest.toList := by
    have hsame := congrArg String.toList
      (hname'.symm.trans (heq.trans (congrArg (· ++ rest) hname)))
    simp only [String.toList_append, List.append_assoc] at hsame
    exact List.append_cancel_left hsame
  obtain ⟨more, -, hmore⟩ | ⟨more, hname'', hmore⟩ := List.append_eq_append_iff.1 hchars
  · have hlength := congrArg List.length hmore
    simp only [List.length_append, List.length_cons] at hlength
    omega
  · cases more with
    | nil =>
      have hlength := congrArg List.length hmore
      simp only [List.nil_append, List.length_cons] at hlength
      omega
    | cons c more =>
      obtain rfl : '/' = c := (List.cons_eq_cons.1 hmore).1
      rw [hname''] at hslash'
      exact hslash' (List.mem_append_right _ List.mem_cons_self)

end Path

/-! ### Files and the directories on the way to them -/

namespace FileMap

variable {m : FileMap}

/-- The path is a file, or a directory on the way to one. -/
def Shows (m : FileMap) (path : String) : Prop :=
  (∃ content, m path = some content)
    ∨ Path.isDir path = true ∧ ∃ file content, m file = some content ∧ path.toList <+: file.toList

/-- A file that begins with what is shown. -/
theorem Shows.exists_file {path : String} (h : m.Shows path) :
    ∃ file content, m file = some content ∧ path.toList <+: file.toList := by
  obtain ⟨content, hcontent⟩ | ⟨-, hfile⟩ := h
  · exact ⟨path, content, hcontent, List.prefix_rfl⟩
  · exact hfile

theorem Shows.isCanonical (hm : m.HoldsFiles) {path : String} (h : m.Shows path) :
    Path.IsCanonical path.toList := by
  obtain ⟨content, hcontent⟩ | ⟨hdir, file, content, hcontent, hstarts⟩ := h
  · exact hm.isCanonical hcontent
  · exact Path.IsCanonical.of_prefix (hm.isCanonical hcontent) hdir hstarts

/-- A directory on the way to a path that is shown is shown. -/
theorem Shows.of_starts {dir path : String} (h : m.Shows path) (hdir : Path.isDir dir = true)
    (hstarts : dir.toList <+: path.toList) : m.Shows dir := by
  obtain ⟨file, content, hcontent, hfile⟩ := h.exists_file
  exact .inr ⟨hdir, file, content, hcontent, hstarts.trans hfile⟩

/-- Where files have paths that are their own canonical form, directories have too. -/
theorem Shows.normalize_eq (hm : m.HoldsFiles)
    (hfixed : ∀ path content, m path = some content → Path.normalize path = path) {path : String}
    (h : m.Shows path) : Path.normalize path = path := by
  have hcanonical := h.isCanonical hm
  obtain ⟨file, content, hcontent, more, hmore⟩ := h.exists_file
  have hblank := (Path.normalize_eq_self_iff (hm.isCanonical hcontent)).1
    (hfixed file content hcontent)
  rw [Path.normalize_eq_self_iff hcanonical, ← hblank, Path.startsBlank, Path.startsBlank, ← hmore,
    List.head?_append_of_ne_nil _ hcanonical.ne_nil]

end FileMap

/-! ### Starts of keys -/

namespace Kv

theorem dirsAbove_eq_sum (keys : List String) : dirsAbove keys = (keys.map String.length).sum := by
  rw [dirsAbove, List.sum_eq_foldl, List.foldl_map]

theorem length_le_dirsAbove {key : String} {keys : List String} (h : key ∈ keys) :
    key.length ≤ dirsAbove keys := by
  rw [dirsAbove_eq_sum]
  exact List.le_sum_of_mem (List.mem_map_of_mem h)

/-- The starts of a key without its first characters, one for each character of the key. -/
def starts (skipped : Nat) (key : String) : List String :=
  (List.range key.length).map fun n => String.ofList ((key.toList.drop skipped).take (n + 1))

theorem length_starts (skipped : Nat) (key : String) :
    (starts skipped key).length = key.length := by
  rw [starts, List.length_map, List.length_range]

theorem mem_starts {skipped : Nat} {key path : String} (hne : path.toList ≠ [])
    (hstarts : path.toList <+: key.toList.drop skipped) : path ∈ starts skipped key := by
  have hpos : 0 < path.toList.length := List.length_pos_iff.2 hne
  have hlength := hstarts.length_le
  have hkey : key.toList.length = key.length := String.length_toList
  rw [List.length_drop, hkey] at hlength
  refine List.mem_map.2 ⟨path.toList.length - 1, List.mem_range.2 (by omega), ?_⟩
  rw [Nat.sub_add_cancel hpos, ← List.prefix_iff_eq_take.1 hstarts, String.ofList_toList]

end Kv

/-! ### What directories show -/

namespace Memory

/-- The paths that a directory shows, below a root of a table. -/
def shown (root : String) (t : Table Bytes) (dir : String) : List String :=
  (page root dir t).map (·.path)

/-- The paths that a directory shows, and after them what the directories among them show, the last
directory first; directories are nested that deeply at most. -/
def shownWithin (root : String) (t : Table Bytes) : (depth : Nat) → String → List String
  | 0, _ => []
  | depth + 1, dir => shown root t dir
    ++ ((shown root t dir).filter Path.isDir).reverse.flatMap (shownWithin root t depth)

/-- Nothing below the directory is longer by more than a number of characters. -/
def Deep (m : FileMap) (depth : Nat) (dir : String) : Prop :=
  ∀ path, m.Shows path → Path.Below dir path → path.length ≤ (Path.inside dir).length + depth

namespace Mirrors

variable {root : String} {t : Table Bytes} {m : FileMap}
  (h : Mirrors (Path.normalizeRoot root) t m)
include h

/-- **A directory shows the files and the directories whose parent it is.** -/
theorem mem_shown_iff {dir : String} (hdir : Path.isDir dir = true) (path : String) :
    path ∈ shown (Path.normalizeRoot root) t dir ↔ m.Shows path ∧ Path.parent path = dir := by
  rw [shown, List.mem_map]
  constructor
  · rintro ⟨e, he, rfl⟩
    have hcanonical := h.isCanonical_of_mem_page he
    rcases (h.mem_page_iff dir e).1 he with
      ⟨rest, content, hcontent, hne, hslash, rfl⟩ | ⟨seg, tail, content, hcontent, hslash, rfl⟩
    · exact ⟨.inl ⟨content, hcontent⟩, Path.parent_file hdir hne hslash⟩
    · refine ⟨.inr ⟨?_, _, content, hcontent, ?_⟩, Path.parent_dir hdir hcanonical.ne_root hslash⟩
      · show Path.isDir (Path.inside dir ++ (seg ++ "/")) = true
        rw [← String.append_assoc]
        exact Children.isDir_append_slash _
      · exact ⟨tail.toList, by simp only [String.toList_append, List.append_assoc]⟩
  · rintro ⟨hshows, rfl⟩
    obtain ⟨content, hcontent⟩ | ⟨hisDir, file, content, hcontent, tail, htail⟩ := hshows
    · exact ⟨_, h.mem_page_of_content hcontent, rfl⟩
    · have hcanonical := Path.IsCanonical.of_prefix (h.files.isCanonical hcontent) hisDir
        ⟨tail, htail⟩
      obtain ⟨seg, hpath, -, hslash⟩ := Path.parent_dir_spec hcanonical hisDir
      have hfile : file = Path.inside (Path.parent path) ++ (seg ++ "/" ++ String.ofList tail) := by
        rw [← String.append_assoc, ← hpath]
        exact String.toList_inj.1 (by rw [String.toList_append, String.toList_ofList, htail])
      refine ⟨⟨path, { mode := .dir }⟩, (h.mem_page_iff _ _).2 ?_, rfl⟩
      exact .inr ⟨seg, String.ofList tail, content, hfile ▸ hcontent, hslash, by rw [← hpath]⟩

/-- A directory shows paths in the order of their bytes. -/
theorem shown_increasing (dir : String) :
    (shown (Path.normalizeRoot root) t dir).Pairwise fun a b => Text.utf8 a < Text.utf8 b := by
  rw [shown, List.pairwise_map]
  exact (Kv.children_isPageOf root dir (h.unrooted_scan _)).increasing

theorem nodup_shown (dir : String) : (shown (Path.normalizeRoot root) t dir).Nodup := by
  refine List.Pairwise.imp ?_ (h.shown_increasing dir)
  rintro a b hlt rfl
  exact List.lt_irrefl _ hlt

/-- What lies below a directory is shown by it, or lies below a directory that is. -/
theorem shows_below_iff {dir : String} (hdir : Path.isDir dir = true) (path : String) :
    m.Shows path ∧ Path.Below dir path
      ↔ path ∈ shown (Path.normalizeRoot root) t dir
        ∨ ∃ sub ∈ (shown (Path.normalizeRoot root) t dir).filter Path.isDir,
            m.Shows path ∧ Path.Below sub path := by
  simp only [List.mem_filter, h.mem_shown_iff hdir]
  constructor
  · rintro ⟨hshows, hbelow⟩
    obtain ⟨name, hne, hslash, rfl⟩ | ⟨name, tail, hslash, rfl⟩ := hbelow.cases
    · exact .inl ⟨hshows, Path.parent_file hdir hne hslash⟩
    · have hisDir : Path.isDir (Path.inside dir ++ (name ++ "/")) = true := by
        rw [← String.append_assoc]
        exact Children.isDir_append_slash _
      have hsub : m.Shows (Path.inside dir ++ (name ++ "/")) :=
        hshows.of_starts hisDir ⟨tail.toList, (String.toList_append ..).symm⟩
      have hcanonical := hsub.isCanonical h.files
      have hparent := Path.parent_dir hdir hcanonical.ne_root hslash
      by_cases htail : tail = ""
      · rw [htail, String.append_empty] at hshows ⊢
        exact .inl ⟨hshows, hparent⟩
      · refine .inr ⟨_, ⟨⟨hsub, hparent⟩, hisDir⟩, hshows, Path.below_iff.2 ⟨tail, htail, ?_⟩⟩
        rw [Path.inside_of_ne hcanonical.ne_root]
  · rintro (⟨hshows, rfl⟩ | ⟨sub, ⟨⟨hsub, rfl⟩, hisDir⟩, hshows, hbelow⟩)
    · exact ⟨hshows, Path.below_parent (hshows.isCanonical h.files)⟩
    · have hcanonical := hsub.isCanonical h.files
      exact ⟨hshows, (Path.below_parent hcanonical).trans hcanonical.ne_root hbelow⟩

/-! ### All that lies below a directory -/

/-- A directory with nothing longer below it shows nothing. -/
theorem shown_of_deep_zero {dir : String} (hdir : Path.isDir dir = true) (hdeep : Deep m 0 dir) :
    shown (Path.normalizeRoot root) t dir = [] := by
  rw [List.eq_nil_iff_forall_not_mem]
  intro path hpath
  obtain ⟨hshows, hbelow⟩ := (h.shows_below_iff hdir path).2 (.inl hpath)
  exact absurd (hdeep path hshows hbelow) (Nat.not_le.2 hbelow.length_lt)

/-- Directories in a directory are less deep. -/
theorem deep_of_mem_shown {depth : Nat} {dir sub : String} (hdir : Path.isDir dir = true)
    (hdeep : Deep m (depth + 1) dir)
    (hsub : sub ∈ (shown (Path.normalizeRoot root) t dir).filter Path.isDir) :
    Deep m depth sub := by
  obtain ⟨hmem, -⟩ := List.mem_filter.1 hsub
  obtain ⟨hshows, rfl⟩ := (h.mem_shown_iff hdir sub).1 hmem
  have hcanonical := hshows.isCanonical h.files
  have hbelow := Path.below_parent hcanonical
  intro path hpath hsubpath
  have hlong := hdeep path hpath (hbelow.trans hcanonical.ne_root hsubpath)
  have hshorter := hbelow.length_lt
  rw [Path.inside_of_ne hcanonical.ne_root]
  omega

/-- **Every file below the directory is shown in the end, and every directory on the way to it.** -/
theorem mem_shownWithin_iff {depth : Nat} {dir : String} (hdir : Path.isDir dir = true)
    (hdeep : Deep m depth dir) (path : String) :
    path ∈ shownWithin (Path.normalizeRoot root) t depth dir
      ↔ m.Shows path ∧ Path.Below dir path := by
  induction depth generalizing dir with
  | zero =>
    constructor
    · exact fun hmem => absurd hmem List.not_mem_nil
    · rintro ⟨hshows, hbelow⟩
      exact absurd (hdeep path hshows hbelow) (Nat.not_le.2 hbelow.length_lt)
  | succ depth ih =>
    have hsubs {sub : String}
        (hsub : sub ∈ (shown (Path.normalizeRoot root) t dir).filter Path.isDir) :
        path ∈ shownWithin (Path.normalizeRoot root) t depth sub
          ↔ m.Shows path ∧ Path.Below sub path :=
      ih (List.mem_filter.1 hsub).2 (h.deep_of_mem_shown hdir hdeep hsub)
    rw [shownWithin, List.mem_append, List.mem_flatMap, h.shows_below_iff hdir]
    refine or_congr Iff.rfl (exists_congr fun sub => ?_)
    rw [List.mem_reverse]
    exact and_congr_right hsubs

section

variable {dir a b : String} (hdir : Path.isDir dir = true)
include hdir

/-- Of two paths that a directory shows none lies below the other. -/
theorem not_below_of_mem_shown (ha : a ∈ shown (Path.normalizeRoot root) t dir)
    (hisDir : Path.isDir a = true) (hb : b ∈ shown (Path.normalizeRoot root) t dir) :
    ¬Path.Below a b := by
  obtain ⟨hshowsa, hparenta⟩ := (h.mem_shown_iff hdir a).1 ha
  obtain ⟨hshowsb, hparentb⟩ := (h.mem_shown_iff hdir b).1 hb
  exact Path.not_below_of_parent_eq (hshowsa.isCanonical h.files) hisDir
    (hshowsb.isCanonical h.files) (hparenta.trans hparentb.symm)

/-- Of two directories that a directory shows none begins the other. -/
theorem not_starts_of_mem_shown
    (ha : a ∈ (shown (Path.normalizeRoot root) t dir).filter Path.isDir)
    (hb : b ∈ (shown (Path.normalizeRoot root) t dir).filter Path.isDir) (hne : a ≠ b) :
    ¬(Path.inside a).toList <+: (Path.inside b).toList := by
  intro hstarts
  obtain ⟨hmema, hisDira⟩ := List.mem_filter.1 ha
  obtain ⟨hmemb, -⟩ := List.mem_filter.1 hb
  have hinside {path : String} (hpath : path ∈ shown (Path.normalizeRoot root) t dir) :
      Path.inside path = path :=
    Path.inside_of_ne (((h.mem_shown_iff hdir path).1 hpath).1.isCanonical h.files).ne_root
  refine h.not_below_of_mem_shown hdir hmema hisDira hmemb ⟨?_, ?_⟩
  · rwa [hinside hmemb] at hstarts
  · rw [hinside hmema]
    exact hne.symm

/-- Nothing lies below two directories that a directory shows. -/
theorem not_below_both {path : String}
    (ha : a ∈ (shown (Path.normalizeRoot root) t dir).filter Path.isDir)
    (hb : b ∈ (shown (Path.normalizeRoot root) t dir).filter Path.isDir) (hne : a ≠ b)
    (hbelow : Path.Below a path) : ¬Path.Below b path := by
  intro hbelow'
  rcases List.prefix_or_prefix_of_prefix hbelow.1 hbelow'.1 with hstarts | hstarts
  · exact h.not_starts_of_mem_shown hdir ha hb hne hstarts
  · exact h.not_starts_of_mem_shown hdir hb ha hne.symm hstarts

end

/-- **Nothing is shown twice, and a directory before what lies below it.** -/
theorem shownWithin_pairwise {depth : Nat} {dir : String} (hdir : Path.isDir dir = true)
    (hdeep : Deep m depth dir) :
    (shownWithin (Path.normalizeRoot root) t depth dir).Pairwise
      fun a b => a ≠ b ∧ (Path.isDir b = true → ¬Path.Below b a) := by
  induction depth generalizing dir with
  | zero => exact .nil
  | succ depth ih =>
    -- what the directories in this one show lies below them
    have hbelow {sub path : String}
        (hsub : sub ∈ (shown (Path.normalizeRoot root) t dir).filter Path.isDir)
        (hpath : path ∈ shownWithin (Path.normalizeRoot root) t depth sub) :
        m.Shows path ∧ Path.Below sub path :=
      (h.mem_shownWithin_iff (List.mem_filter.1 hsub).2 (h.deep_of_mem_shown hdir hdeep hsub)
        path).1 hpath
    have hdistinct := h.nodup_shown dir
    rw [shownWithin, List.pairwise_append, List.pairwise_flatMap]
    refine ⟨?_, ⟨?_, ?_⟩, ?_⟩
    · refine hdistinct.imp_of_mem fun ha hb hne => ⟨hne, fun hisDir => ?_⟩
      exact h.not_below_of_mem_shown hdir hb hisDir ha
    · intro sub hsub
      rw [List.mem_reverse] at hsub
      exact ih (List.mem_filter.1 hsub).2 (h.deep_of_mem_shown hdir hdeep hsub)
    · have hsubs := List.nodup_reverse.2 (hdistinct.filter Path.isDir)
      refine hsubs.imp_of_mem fun hsub hsub' hne a ha b hb => ?_
      rw [List.mem_reverse] at hsub hsub'
      obtain ⟨-, hbelowa⟩ := hbelow hsub ha
      obtain ⟨hshowsb, hbelowb⟩ := hbelow hsub' hb
      have hapart := hbelowb.apart (hshowsb.isCanonical h.files).ne_root
        (h.not_below_both hdir hsub hsub' hne hbelowa)
      exact ⟨hapart.1, fun _ => hapart.2⟩
    · intro a ha b hb
      obtain ⟨sub, hsub, hb⟩ := List.mem_flatMap.1 hb
      rw [List.mem_reverse] at hsub
      obtain ⟨hshowsb, hbelowb⟩ := hbelow hsub hb
      obtain ⟨hmem, hisDir⟩ := List.mem_filter.1 hsub
      have hapart := hbelowb.apart (hshowsb.isCanonical h.files).ne_root
        (h.not_below_of_mem_shown hdir hmem hisDir ha)
      exact ⟨hapart.1, fun _ => hapart.2⟩

/-- The key of a file that begins with what is shown. -/
theorem exists_key_of_shows {path : String} (hshows : m.Shows path) :
    ∃ key ∈ t.keys, path.toList <+: key.toList.drop ((Path.normalizeRoot root).length - 1) := by
  obtain ⟨file, content, hcontent, hstarts⟩ := hshows.exists_file
  refine ⟨_, h.mem_keys_iff.2 ⟨file, content, hcontent, rfl⟩, ?_⟩
  rwa [Path.toList_key_canonical _ (h.files.isCanonical hcontent), ← String.length_toList,
    ← List.length_drop, List.drop_left]

/-- Nothing is longer than all keys together. -/
theorem deep_dirsAbove (dir : String) : Deep m (Kv.dirsAbove t.keys) dir := by
  intro path hshows _
  obtain ⟨key, hkey, hstarts⟩ := h.exists_key_of_shows hshows
  have hlength := hstarts.length_le
  rw [List.length_drop, String.length_toList, String.length_toList] at hlength
  have hsum := Kv.length_le_dirsAbove hkey
  omega

/-- **Different paths that are shown are not more than the characters of the keys**: each of them
begins the file of a key, and ends at one of its characters. -/
theorem length_le_dirsAbove {paths : List String} (hdistinct : paths.Nodup)
    (hshows : ∀ path ∈ paths, m.Shows path) : paths.length ≤ Kv.dirsAbove t.keys := by
  have hsubset : paths ⊆ t.keys.flatMap (Kv.starts ((Path.normalizeRoot root).length - 1)) := by
    intro path hpath
    obtain ⟨key, hkey, hstarts⟩ := h.exists_key_of_shows (hshows path hpath)
    exact List.mem_flatMap.2 ⟨key, hkey, Kv.mem_starts
      ((hshows path hpath).isCanonical h.files).ne_nil hstarts⟩
  have hle := (List.subperm_of_subset hdistinct hsubset).length_le
  rwa [List.length_flatMap, funext (Kv.length_starts _), ← Kv.dirsAbove_eq_sum] at hle

end Mirrors

end Memory

end ObjectStorage
