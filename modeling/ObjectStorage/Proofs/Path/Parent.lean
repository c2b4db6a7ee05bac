import ObjectStorage.Proofs.Path.Canonical

/-!
# The directory above a path

A path lies in a directory if it is what the paths below that directory start with, followed by a
name, with a slash if the path is a directory itself.  The directory is the parent of just these
paths, so that step by step from parent to parent a canonical path loses its last name and comes to
the root.

* `Path.parent_file`, `Path.parent_dir` — the parent of what lies in a directory;
* `Path.exists_name_of_isCanonical` — a canonical path lies in its parent;
* `Path.parent_cases`, `Path.isDir_parent` — a parent is the root or shorter, and a directory;
* `Path.exists_segment_of_isCanonical` — what follows the parent is the name of the path.
-/

namespace ObjectStorage.Path

/-! ### Texts that end with a slash, and a name after them -/

/-- Nothing, or a text that ends with a slash. -/
def IsStart (start : List Char) : Prop := start = [] ∨ ∃ pre, start = pre ++ ['/']

theorem uptoLastSlash_append {start name : List Char} (hstart : IsStart start)
    (hname : '/' ∉ name) : uptoLastSlash (start ++ name) = start := by
  have hdrop : (start ++ name).reverse.dropWhile (· ≠ '/') = start.reverse := by
    have hall : ∀ c ∈ name.reverse, decide (c ≠ '/') = true := by
      intro c hc
      simpa using fun heq : c = '/' => hname (heq ▸ List.mem_reverse.1 hc)
    rw [List.reverse_append, List.dropWhile_append_of_pos hall]
    obtain rfl | ⟨pre, rfl⟩ := hstart
    · rfl
    · rw [List.reverse_append]
      exact List.dropWhile_cons_of_neg (by simp)
  rw [uptoLastSlash, hdrop, List.reverse_reverse]

theorem afterLastSlash_append {start name : List Char} (hstart : IsStart start)
    (hname : '/' ∉ name) : afterLastSlash (start ++ name) = name := by
  have happend := uptoLastSlash_append_afterLastSlash (start ++ name)
  rw [uptoLastSlash_append hstart hname] at happend
  exact List.append_cancel_left happend

theorem isStart_uptoLastSlash (cs : List Char) : IsStart (uptoLastSlash cs) := by
  rw [uptoLastSlash]
  cases hrest : cs.reverse.dropWhile (· ≠ '/') with
  | nil => exact .inl rfl
  | cons c rest =>
    have hc : c = '/' := by
      have hfirst := List.head?_dropWhile_not (fun c => decide (c ≠ '/')) cs.reverse
      rw [hrest] at hfirst
      simpa using hfirst
    exact .inr ⟨rest.reverse, by rw [List.reverse_cons, hc]⟩

/-- A path with a slash at its end is what the paths below it start with, or the root. -/
theorem isStart_inside {dir : String} (h : isDir dir = true) : IsStart (inside dir).toList := by
  rw [toList_inside, insideChars]
  split
  · exact .inl rfl
  · right
    have hlast : dir.toList.getLast? = some '/' := by
      simpa [isDir, endsWithSlash] using h
    exact ⟨_, (List.dropLast_append_getLast? '/' hlast).symm⟩

theorem inside_of_ne {dir : String} (h : dir ≠ root) : inside dir = dir := by
  have hchars : dir.toList ≠ ['/'] := fun heq => h (String.toList_inj.1 heq)
  apply String.toList_inj.1
  rw [toList_inside, insideChars, if_neg hchars]

/-- The directory that a start is the start of. -/
theorem parent_of_uptoLastSlash {dir path : String} (hdir : dir ≠ "") (hpath : path ≠ root)
    (h : uptoLastSlash (if endsWithSlash path.toList then path.toList.dropLast else path.toList)
      = (inside dir).toList) : parent path = dir := by
  have hchars : path.toList ≠ ['/'] := fun heq => hpath (String.toList_inj.1 heq)
  apply String.toList_inj.1
  rw [toList_parent, parentChars, if_neg hchars, h]
  by_cases hroot : dir = root
  · rw [hroot]
    rfl
  · rw [inside_of_ne hroot]
    cases hcs : dir.toList with
    | nil => exact absurd (String.toList_eq_nil_iff.1 hcs) hdir
    | cons c cs => rfl

/-! ### What lies in a directory -/

theorem ne_empty_of_isDir {dir : String} (h : isDir dir = true) : dir ≠ "" := by
  rintro rfl
  cases h

/-- The parent of a file in a directory. -/
theorem parent_file {dir name : String} (hdir : isDir dir = true) (hne : name ≠ "")
    (hname : '/' ∉ name.toList) : parent (inside dir ++ name) = dir := by
  have hfile : isDir (inside dir ++ name) = false := Children.isDir_append_file _ hne hname
  have hroot : inside dir ++ name ≠ root := by
    intro heq
    rw [heq] at hfile
    cases hfile
  refine parent_of_uptoLastSlash (ne_empty_of_isDir hdir) hroot ?_
  rw [isDir] at hfile
  rw [hfile, if_neg Bool.false_ne_true, String.toList_append]
  exact uptoLastSlash_append (isStart_inside hdir) hname

/-- The parent of a directory in a directory. -/
theorem parent_dir {dir name : String} (hdir : isDir dir = true)
    (hroot : inside dir ++ (name ++ "/") ≠ root) (hname : '/' ∉ name.toList) :
    parent (inside dir ++ (name ++ "/")) = dir := by
  have hends : endsWithSlash (inside dir ++ (name ++ "/")).toList = true := by
    rw [← String.append_assoc]
    exact Children.isDir_append_slash _
  have hdrop : (inside dir ++ (name ++ "/")).toList.dropLast
      = (inside dir).toList ++ name.toList := by
    rw [String.toList_append, String.toList_append, ← List.append_assoc]
    exact List.dropLast_concat
  refine parent_of_uptoLastSlash (ne_empty_of_isDir hdir) hroot ?_
  rw [hends, if_pos rfl, hdrop]
  exact uptoLastSlash_append (isStart_inside hdir) hname

/-! ### Where a canonical path lies -/

theorem IsCanonical.ne_root {path : String} (h : IsCanonical path.toList) : path ≠ root := by
  rintro rfl
  exact h.head rfl

/-- A canonical path of a directory is what the paths below its parent start with, followed by a
name and a slash. -/
theorem parent_dir_spec {path : String} (h : IsCanonical path.toList) (hdir : isDir path = true) :
    ∃ name, path = inside (parent path) ++ (name ++ "/") ∧ name ≠ "" ∧ '/' ∉ name.toList := by
  have hlast : path.toList.getLast? = some '/' := by simpa [isDir, endsWithSlash] using hdir
  obtain ⟨pre, hpre⟩ : ∃ pre, path.toList = pre ++ ['/'] :=
    ⟨_, (List.dropLast_append_getLast? '/' hlast).symm⟩
  have hne : pre ≠ [] := by
    rintro rfl
    exact h.head (by rw [hpre]; rfl)
  have hplain : endsWithSlash pre = false := by
    rw [endsWithSlash, beq_eq_false_iff_ne]
    intro heq
    have hapart := h.apart
    rw [hpre, List.isChain_append] at hapart
    exact hapart.2.2 '/' heq '/' rfl rfl rfl
  have hends : endsWithSlash path.toList = true := hdir
  have hbase : (if endsWithSlash path.toList then path.toList.dropLast else path.toList) = pre := by
    rw [hends, if_pos rfl, hpre, List.dropLast_concat]
  exact exists_name_of_base h.head hpre hbase hne hplain

/-- **A canonical path lies in its parent**: it is what the paths below its parent start with,
followed by a name, with a slash if it is a directory. -/
theorem exists_name_of_isCanonical {path : String} (h : IsCanonical path.toList) :
    ∃ name, name ≠ "" ∧ '/' ∉ name.toList
      ∧ path = inside (parent path) ++ (name ++ if isDir path then "/" else "") := by
  cases hdir : isDir path with
  | true =>
    obtain ⟨name, hpath, hne, hslash⟩ := parent_dir_spec h hdir
    exact ⟨name, hne, hslash, hpath⟩
  | false =>
    obtain ⟨name, hpath, hne, hslash⟩ := parent_spec h hdir
    refine ⟨name, hne, hslash, hpath.trans ?_⟩
    rw [if_neg Bool.false_ne_true, String.append_empty]

/-- The parent of a canonical path is the root or begins the path, and is shorter. -/
theorem parent_cases {path : String} (h : IsCanonical path.toList) :
    parent path = root
      ∨ parent path ≠ root ∧ (parent path).toList <+: path.toList
        ∧ (parent path).length < path.length := by
  by_cases hroot : parent path = root
  · exact .inl hroot
  · obtain ⟨name, hne, -, hpath⟩ := exists_name_of_isCanonical h
    rw [inside_of_ne hroot] at hpath
    have hchars := congrArg String.toList hpath
    rw [String.toList_append, String.toList_append] at hchars
    refine .inr ⟨hroot, ⟨_, hchars.symm⟩, ?_⟩
    have hname : 0 < name.toList.length :=
      List.length_pos_iff.2 (mt String.toList_eq_nil_iff.1 hne)
    rw [← String.length_toList, ← String.length_toList, hchars]
    simp only [List.length_append]
    omega

/-- A text that begins a canonical path and has a slash at its end is a canonical path. -/
theorem IsCanonical.of_prefix {dir path : String} (h : IsCanonical path.toList)
    (hdir : Path.isDir dir = true) (hstarts : dir.toList <+: path.toList) :
    IsCanonical dir.toList := by
  have hlast : dir.toList.getLast? = some '/' := by
    simpa [Path.isDir, endsWithSlash] using hdir
  have hsplit := List.dropLast_append_getLast? '/' hlast
  obtain ⟨tail, htail⟩ := hstarts
  rw [← hsplit, List.append_assoc] at htail
  rw [← hsplit]
  rw [← htail] at h
  exact h.upto

/-- Every parent is the path of a directory. -/
theorem isDir_parent (path : String) : Path.isDir (parent path) = true := by
  rw [Path.isDir, toList_parent, parentChars]
  split
  · next hroot =>
    rw [hroot]
    rfl
  · split
    · rfl
    · next up hne =>
      obtain hnil | ⟨pre, hpre⟩ := isStart_uptoLastSlash
        (if endsWithSlash path.toList then path.toList.dropLast else path.toList)
      · exact absurd hnil hne
      · rw [hpre, endsWithSlash, List.getLast?_concat]
        rfl

/-- The parent of a canonical path is the root or a canonical path. -/
theorem canonical_parent {path : String} (h : IsCanonical path.toList) :
    parent path = root ∨ IsCanonical (parent path).toList :=
  (parent_cases h).imp_right fun ⟨_, hstarts, _⟩ => h.of_prefix (isDir_parent path) hstarts

/-! ### The name of a path -/

/-- The name of a canonical path is what follows its parent: a segment, and the slash of a
directory. -/
theorem exists_segment_of_isCanonical {path : String} (h : IsCanonical path.toList) :
    ∃ seg, seg ≠ "" ∧ '/' ∉ seg.toList ∧ path = inside (parent path) ++ name path
      ∧ name path = seg ++ if isDir path then "/" else "" := by
  obtain ⟨seg, hne, hslash, hpath⟩ := exists_name_of_isCanonical h
  have hstart := isStart_inside (isDir_parent path)
  have hname : name path = seg ++ if isDir path then "/" else "" := by
    have hchars := congrArg String.toList hpath
    rw [String.toList_append, String.toList_append] at hchars
    apply String.toList_inj.1
    rw [toList_name, nameChars, if_neg h.ne_slash, String.toList_append]
    -- the slash of a directory is left out while the last slash is looked for
    cases hdir : isDir path with
    | true =>
      have hbase : path.toList.dropLast = (inside (parent path)).toList ++ seg.toList := by
        rw [hdir, if_pos rfl, ← List.append_assoc] at hchars
        rw [hchars]
        exact List.dropLast_concat
      rw [show endsWithSlash path.toList = true from hdir, if_pos rfl, if_pos rfl, hbase,
        afterLastSlash_append hstart hslash]
      rfl
    | false =>
      rw [hdir, if_neg Bool.false_ne_true, String.toList_empty, List.append_nil] at hchars
      rw [show endsWithSlash path.toList = false from hdir, if_neg Bool.false_ne_true,
        if_neg Bool.false_ne_true, hchars, afterLastSlash_append hstart hslash,
        String.toList_empty, List.append_nil]
  exact ⟨seg, hne, hslash, hpath.trans (by rw [hname]), hname⟩

end ObjectStorage.Path
