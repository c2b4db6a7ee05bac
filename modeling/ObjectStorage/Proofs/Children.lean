import ObjectStorage.Children

/-!
# What paths show as in a directory

A path below a directory is the directory followed by a remainder.  A remainder without a slash
shows as a file, one with a slash as the directory that it begins with; the directory itself does
not show, nor does any path elsewhere.  So a child is a directory just if its path has a slash at
its end, no two children have the same path, and the children depend on nothing but the set of
paths below the directory.

* `Children.child?_eq_some_iff` — what one path shows as;
* `Children.mem_ofPaths_iff` — what many paths show as;
* `Children.ofPaths_congr` — it depends only on the set of paths below the directory.
-/

namespace ObjectStorage.Children

/-! ### The first segment -/

theorem firstSegment?_eq_none {cs : List Char} (h : '/' ∉ cs) : firstSegment? cs = none := by
  induction cs with
  | nil => rfl
  | cons c cs ih =>
    rw [List.mem_cons, not_or] at h
    rw [firstSegment?, if_neg (Ne.symm h.1), ih h.2]
    rfl

theorem firstSegment?_append {seg : List Char} (h : '/' ∉ seg) (tail : List Char) :
    firstSegment? (seg ++ '/' :: tail) = some (seg ++ ['/']) := by
  induction seg with
  | nil => rfl
  | cons c seg ih =>
    rw [List.mem_cons, not_or] at h
    rw [List.cons_append, firstSegment?, if_neg (Ne.symm h.1), ih h.2]
    rfl

/-- A text has no slash, or it begins with a segment and its slash. -/
theorem slash_cases (cs : List Char) :
    '/' ∉ cs ∨ ∃ seg tail, '/' ∉ seg ∧ cs = seg ++ '/' :: tail := by
  induction cs with
  | nil => exact .inl List.not_mem_nil
  | cons c cs ih =>
    by_cases hc : c = '/'
    · exact .inr ⟨[], cs, List.not_mem_nil, by rw [hc]; rfl⟩
    · rcases ih with hcs | ⟨seg, tail, hseg, hcs⟩
      · left
        rw [List.mem_cons, not_or]
        exact ⟨Ne.symm hc, hcs⟩
      · refine .inr ⟨c :: seg, tail, ?_, by rw [hcs]; rfl⟩
        rw [List.mem_cons, not_or]
        exact ⟨Ne.symm hc, hseg⟩

/-! ### One path -/

theorem child?_append {dir path : String} {rest : List Char}
    (hpath : path.toList = dir.toList ++ rest) (hne : rest ≠ []) :
    child? dir path = match firstSegment? rest with
      | some segment => some (dir ++ String.ofList segment, .dir)
      | none => some (path, .file) := by
  rw [child?, hpath, Path.stripPrefix?_append]
  cases rest with
  | nil => exact absurd rfl hne
  | cons c rest => rfl

theorem below_of_child? {dir path : String} {x : String × ObjectMode}
    (h : child? dir path = some x) : ∃ rest, rest ≠ [] ∧ path.toList = dir.toList ++ rest := by
  rw [child?] at h
  split at h
  · exact absurd h (by simp)
  · exact absurd h (by simp)
  · next rest hne heq => exact ⟨rest, hne, Path.stripPrefix?_eq_some_iff.1 heq⟩

theorem child?_file (dir : String) {rest : String} (hne : rest ≠ "") (h : '/' ∉ rest.toList) :
    child? dir (dir ++ rest) = some (dir ++ rest, .file) := by
  rw [child?_append String.toList_append (mt String.toList_eq_nil_iff.1 hne),
    firstSegment?_eq_none h]

theorem child?_dir (dir : String) {seg : String} (h : '/' ∉ seg.toList) (tail : String) :
    child? dir (dir ++ (seg ++ "/" ++ tail)) = some (dir ++ (seg ++ "/"), .dir) := by
  have hpath : (dir ++ (seg ++ "/" ++ tail)).toList
      = dir.toList ++ (seg.toList ++ '/' :: tail.toList) := by
    simp only [String.toList_append, List.append_assoc]
    rfl
  have hsegment : String.ofList (seg.toList ++ ['/']) = seg ++ "/" :=
    String.toList_inj.1 (by rw [String.toList_ofList, String.toList_append]; rfl)
  rw [child?_append hpath (by simp), firstSegment?_append h]
  simp only [hsegment]

/-- What a path shows as: the file that it is, or the directory that its remainder begins with. -/
theorem child?_eq_some_iff {dir path : String} {x : String × ObjectMode} :
    child? dir path = some x
      ↔ (∃ rest, path = dir ++ rest ∧ rest ≠ "" ∧ '/' ∉ rest.toList ∧ x = (dir ++ rest, .file))
        ∨ ∃ seg tail, path = dir ++ (seg ++ "/" ++ tail) ∧ '/' ∉ seg.toList
            ∧ x = (dir ++ (seg ++ "/"), .dir) := by
  constructor
  · intro h
    obtain ⟨rest, hne, hpath⟩ := below_of_child? h
    rcases slash_cases rest with hrest | ⟨seg, tail, hseg, hrest⟩
    · left
      have hfile : path = dir ++ String.ofList rest :=
        String.toList_inj.1 (by rw [hpath, String.toList_append, String.toList_ofList])
      have hslash : '/' ∉ (String.ofList rest).toList := by rwa [String.toList_ofList]
      have hempty : String.ofList rest ≠ "" := fun heq =>
        hne (by rw [← String.toList_ofList (l := rest), heq]; rfl)
      rw [hfile, child?_file dir hempty hslash] at h
      exact ⟨_, hfile, hempty, hslash, (Option.some.inj h).symm⟩
    · right
      have hdir : path = dir ++ (String.ofList seg ++ "/" ++ String.ofList tail) := by
        apply String.toList_inj.1
        simp only [hpath, hrest, String.toList_append, String.toList_ofList, List.append_assoc]
        rfl
      have hslash : '/' ∉ (String.ofList seg).toList := by rwa [String.toList_ofList]
      rw [hdir, child?_dir dir hslash] at h
      exact ⟨_, _, hdir, hslash, (Option.some.inj h).symm⟩
  · rintro (⟨rest, rfl, hne, hslash, rfl⟩ | ⟨seg, tail, rfl, hslash, rfl⟩)
    · exact child?_file dir hne hslash
    · exact child?_dir dir hslash tail

/-! ### Modes -/

theorem isDir_append_slash (s : String) : Path.isDir (s ++ "/") = true := by
  rw [Path.isDir, Path.endsWithSlash, String.toList_append, List.getLast?_append]
  rfl

theorem isDir_append_file (s : String) {rest : String} (hne : rest ≠ "")
    (h : '/' ∉ rest.toList) : Path.isDir (s ++ rest) = false := by
  have hcons : rest.toList ≠ [] := mt String.toList_eq_nil_iff.1 hne
  have hlast : rest.toList.getLast hcons ≠ '/' := fun heq => h (heq ▸ List.getLast_mem hcons)
  rw [Path.isDir, Path.endsWithSlash, String.toList_append, List.getLast?_append,
    List.getLast?_eq_some_getLast hcons]
  simpa using hlast

/-- A child is a directory just if its path has a slash at its end. -/
theorem mode_of_child? {dir path : String} {x : String × ObjectMode}
    (h : child? dir path = some x) : x.2 = .ofPath x.1 := by
  rcases child?_eq_some_iff.1 h with ⟨rest, _, hne, hslash, rfl⟩ | ⟨seg, tail, _, _, rfl⟩
  · rw [ObjectMode.ofPath, isDir_append_file dir hne hslash]
    rfl
  · rw [ObjectMode.ofPath, ← String.append_assoc, isDir_append_slash]
    rfl

/-! ### Many paths -/

theorem mem_ofPaths_iff {dir : String} {paths : List String} {x : String × ObjectMode} :
    x ∈ (ofPaths dir paths).entries ↔ ∃ path ∈ paths, child? dir path = some x := by
  have hmode : ∀ y ∈ paths.filterMap (child? dir), y.2 = ObjectMode.ofPath y.1 := by
    intro y hy
    obtain ⟨path, _, hchild⟩ := List.mem_filterMap.1 hy
    exact mode_of_child? hchild
  rw [ofPaths, Table.mem_ofList_iff hmode, List.mem_filterMap]

/-- The children depend only on the set of paths below the directory. -/
theorem ofPaths_congr {dir : String} {paths paths' : List String}
    (h : ∀ rest, dir ++ rest ∈ paths ↔ dir ++ rest ∈ paths') :
    ofPaths dir paths = ofPaths dir paths' := by
  apply Table.ext_of_mem
  intro x
  have hsome {path : String} (hchild : child? dir path = some x) :
      path ∈ paths ↔ path ∈ paths' := by
    obtain ⟨rest, _, hpath⟩ := below_of_child? hchild
    have heq : path = dir ++ String.ofList rest :=
      String.toList_inj.1 (by rw [hpath, String.toList_append, String.toList_ofList])
    rw [heq]
    exact h _
  rw [mem_ofPaths_iff, mem_ofPaths_iff]
  constructor
  · rintro ⟨path, hmem, hchild⟩
    exact ⟨path, (hsome hchild).1 hmem, hchild⟩
  · rintro ⟨path, hmem, hchild⟩
    exact ⟨path, (hsome hchild).2 hmem, hchild⟩

end ObjectStorage.Children
