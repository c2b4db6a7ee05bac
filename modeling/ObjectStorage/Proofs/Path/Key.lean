import ObjectStorage.Path

/-!
# Keys of paths

The key of a path is the root without its leading slash, followed by the path, where the path `/`
counts as nothing.  Different paths have different keys, whatever the root is; the path that a key
has relative to a canonical root is what follows the root.

* `Path.inside` — what the paths below a directory start with;
* `Path.normalize_ne_empty` — a canonical path is not empty;
* `Path.key_injective` — different paths have different keys;
* `Path.relative_key_append` — what is below the key of a directory, relative to the root.
-/

namespace ObjectStorage.Path

/-! ### Pieces between slashes -/

theorem slash_not_mem_pieces {cs p : List Char} (h : p ∈ pieces cs) : '/' ∉ p := by
  induction cs generalizing p with
  | nil =>
    simp only [pieces, List.mem_singleton] at h
    simp [h]
  | cons c cs ih =>
    rw [pieces] at h
    split at h
    · rcases List.mem_cons.1 h with rfl | h
      · exact List.not_mem_nil
      · exact ih h
    · next hc =>
      split at h
      · rw [List.mem_singleton.1 h, List.mem_singleton]
        exact fun heq => hc heq.symm
      · next q qs hpieces =>
        rcases List.mem_cons.1 h with rfl | h
        · have hq : '/' ∉ q := ih (by rw [hpieces]; exact List.mem_cons_self)
          rw [List.mem_cons]
          rintro (heq | hmem)
          · exact hc heq.symm
          · exact hq hmem
        · exact ih (by rw [hpieces]; exact List.mem_cons_of_mem q h)

/-- A segment is not empty and has no slash. -/
theorem segment_spec {cs seg : List Char} (h : seg ∈ segments cs) : seg ≠ [] ∧ '/' ∉ seg := by
  obtain ⟨hmem, hne⟩ := List.mem_filter.1 h
  exact ⟨by simpa using hne, slash_not_mem_pieces hmem⟩

/-! ### Canonical paths -/

theorem join_ne_nil {seg : List Char} {segs : List (List Char)} (h : seg ≠ []) :
    join (seg :: segs) ≠ [] := by
  cases segs with
  | nil => simpa [join, List.intercalate] using h
  | cons next rest => simp [join, List.intercalate, h]

theorem normalizeChars_ne_nil (cs : List Char) : normalizeChars cs ≠ [] := by
  unfold normalizeChars
  dsimp only
  split
  · exact List.cons_ne_nil _ _
  · next segs hne =>
    cases hsegs : segments (Text.trim cs) with
    | nil => exact absurd hsegs hne
    | cons seg rest =>
      have hseg := (segment_spec (by rw [hsegs]; exact List.mem_cons_self)).1
      split
      · simp
      · exact join_ne_nil hseg

/-- A canonical path is not empty. -/
theorem normalize_ne_empty (path : String) : normalize path ≠ "" := by
  intro h
  have hnil : (normalize path).toList = [] := String.toList_eq_nil_iff.2 h
  rw [toList_normalize] at hnil
  exact normalizeChars_ne_nil path.toList hnil

/-! ### Canonical roots -/

theorem head?_append_ne {cs ds : List Char} (hcs : cs.head? ≠ some '/')
    (hds : ds.head? ≠ some '/') : (cs ++ ds).head? ≠ some '/' := by
  cases cs with
  | nil => exact hds
  | cons c cs => exact hcs

/-- No slash follows the one that a canonical root begins with. -/
theorem head?_drop_normalizeRootChars (cs : List Char) :
    ((normalizeRootChars cs).drop 1).head? ≠ some '/' := by
  rw [normalizeRootChars, List.drop_one, List.tail_cons]
  cases hsegs : segments (Text.trim cs) with
  | nil => exact nofun
  | cons seg rest =>
    obtain ⟨hne, hslash⟩ := segment_spec (by rw [hsegs]; exact List.mem_cons_self)
    obtain ⟨c, seg, rfl⟩ := List.exists_cons_of_ne_nil hne
    rw [List.flatMap_cons, List.append_assoc, List.cons_append, List.head?_cons]
    exact fun heq => hslash (Option.some.inj heq ▸ List.mem_cons_self)

/-- A canonical root begins with one slash. -/
theorem dropWhile_normalizeRootChars (cs : List Char) :
    (normalizeRootChars cs).dropWhile (· = '/') = (normalizeRootChars cs).drop 1 := by
  have hhead := head?_drop_normalizeRootChars cs
  rw [normalizeRootChars, List.drop_one, List.tail_cons] at hhead ⊢
  rw [List.dropWhile_cons_of_pos (by simp)]
  generalize (segments (Text.trim cs)).flatMap (· ++ ['/']) = rest at hhead ⊢
  cases rest with
  | nil => rfl
  | cons c rest => exact List.dropWhile_cons_of_neg (by simpa using hhead)

/-! ### Keys -/

/-- What the paths below a directory start with; nothing for the root. -/
def insideChars (dir : List Char) : List Char := if dir = ['/'] then [] else dir

/-- What the paths below a directory start with; nothing for the root. -/
def inside (dir : String) : String := String.ofList (insideChars dir.toList)

@[simp] theorem toList_inside (dir : String) : (inside dir).toList = insideChars dir.toList :=
  String.toList_ofList

theorem underRootChars_eq (root path : List Char) :
    underRootChars root path = root ++ insideChars path := by
  unfold underRootChars insideChars
  split
  · exact (List.append_nil _).symm
  · rfl

theorem keyChars_eq (root path : List Char) :
    keyChars root path = root.drop 1 ++ insideChars path := underRootChars_eq _ _

/-- What does not tell the root from nothing does not tell a directory from what the paths below it
start with. -/
theorem apply_insideChars {β : Type} {f : List Char → β} (h : f ['/'] = f []) (dir : List Char) :
    f (insideChars dir) = f dir := by
  rw [insideChars]
  split
  · next hroot => rw [hroot, h]
  · rfl

theorem insideChars_injective {p q : List Char} (hp : p ≠ []) (hq : q ≠ [])
    (h : insideChars p = insideChars q) : p = q := by
  unfold insideChars at h
  split at h
  · next hroot =>
    split at h
    · next hroot' => rw [hroot, hroot']
    · exact absurd h.symm hq
  · split at h
    · exact absurd h hp
    · exact h

theorem inside_injective {p q : String} (hp : p ≠ "") (hq : q ≠ "") (h : inside p = inside q) :
    p = q := by
  have hchars := congrArg String.toList h
  rw [toList_inside, toList_inside] at hchars
  exact String.toList_inj.1 (insideChars_injective (mt String.toList_eq_nil_iff.1 hp)
    (mt String.toList_eq_nil_iff.1 hq) hchars)

/-- Different paths have different keys, below any root. -/
theorem key_injective {root p q : String} (hp : p ≠ "") (hq : q ≠ "")
    (h : key root p = key root q) : p = q := by
  have hchars : keyChars root.toList p.toList = keyChars root.toList q.toList := by
    rw [← toList_key, ← toList_key, h]
  rw [keyChars_eq, keyChars_eq] at hchars
  exact String.toList_inj.1 (insideChars_injective (mt String.toList_eq_nil_iff.1 hp)
    (mt String.toList_eq_nil_iff.1 hq) (List.append_cancel_left hchars))

/-- What follows a canonical root in an absolute path without the leading slash is the path
relative to the root. -/
theorem relativeChars_of_key (root : List Char) {rel : List Char}
    (hslash : ((normalizeRootChars root).drop 1 ++ rel).head? ≠ some '/') :
    relativeChars (normalizeRootChars root) ((normalizeRootChars root).drop 1 ++ rel)
      = if rel = [] then ['/'] else rel := by
  have hwhole : stripPrefix? (normalizeRootChars root)
      ((normalizeRootChars root).drop 1 ++ rel) = none := by
    cases hcs : (normalizeRootChars root).drop 1 ++ rel with
    | nil => rfl
    | cons c cs =>
      have hc : '/' ≠ c := fun heq => hslash (by rw [hcs, heq]; rfl)
      rw [normalizeRootChars, stripPrefix?, if_neg hc]
  rw [relativeChars, hwhole, dropWhile_normalizeRootChars, stripPrefix?_append]
  rfl

/-- What is below the key of a directory is, relative to the root, below the directory. -/
theorem relative_key_append (root dir : String) {rest : String} (hne : rest ≠ "")
    (hslash : (key (normalizeRoot root) dir ++ rest).toList.head? ≠ some '/') :
    relative (normalizeRoot root) (key (normalizeRoot root) dir ++ rest) = inside dir ++ rest := by
  have hkey : (key (normalizeRoot root) dir ++ rest).toList
      = (normalizeRootChars root.toList).drop 1 ++ (inside dir ++ rest).toList := by
    rw [String.toList_append, toList_key, toList_normalizeRoot, keyChars_eq, String.toList_append,
      toList_inside, List.append_assoc]
  have hrel : (inside dir ++ rest).toList ≠ [] := by
    rw [String.toList_append]
    exact List.append_ne_nil_of_right_ne_nil _ (mt String.toList_eq_nil_iff.1 hne)
  apply String.toList_inj.1
  rw [hkey] at hslash
  rw [toList_relative, hkey, toList_normalizeRoot, relativeChars_of_key _ hslash, if_neg hrel]

end ObjectStorage.Path
