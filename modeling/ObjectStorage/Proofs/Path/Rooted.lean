import ObjectStorage.Proofs.Path.Spelling

/-!
# Paths below a root and back

Services name objects by absolute paths, with or without the slash at their start.  Either one is a
root followed by a path, where the path `/` counts as nothing, and to take the root off again gives
the path back.  With the slash this is so below any text.  Without it the root is looked for with
its slash first; it is not found, since no slash follows the first one of a canonical root and none
begins a canonical path.

* `Path.relative_underRoot`, `Path.relative_key` — what is put below a root comes back;
* `Path.normalizeRoot_normalizeRoot`, `Path.isChain_normalizeRootChars` — what a canonical root is;
* `Path.rooted_inverse` — both ways below a root, and their inverse.
-/

namespace ObjectStorage.Path

/-! ### The root taken off again -/

/-- What is put after a root comes back, nothing as `/`. -/
theorem relativeChars_append (root rel : List Char) :
    relativeChars root (root ++ rel) = if rel = [] then ['/'] else rel := by
  rw [relativeChars, stripPrefix?_append]
  rfl

/-- A path is told by what the paths below it start with. -/
theorem ite_insideChars {path : List Char} (h : path ≠ []) :
    (if insideChars path = [] then ['/'] else insideChars path) = path := by
  by_cases hroot : path = ['/']
  · rw [hroot]
    rfl
  · rw [insideChars, if_neg hroot, if_neg h]

theorem relative_underRoot (root : String) {path : String} (h : path ≠ "") :
    relative root (underRoot root path) = path := by
  apply String.toList_inj.1
  rw [toList_relative, toList_underRoot, underRootChars_eq, relativeChars_append,
    ite_insideChars (mt String.toList_eq_nil_iff.1 h)]

theorem relative_key (root : String) {path : String} (h : path ≠ "")
    (hhead : (inside path).toList.head? ≠ some '/') :
    relative (normalizeRoot root) (key (normalizeRoot root) path) = path := by
  have hslash := head?_append_ne (head?_drop_normalizeRootChars root.toList) hhead
  rw [toList_inside] at hslash
  apply String.toList_inj.1
  rw [toList_relative, toList_key, toList_normalizeRoot, keyChars_eq, relativeChars_of_key _ hslash,
    ite_insideChars (mt String.toList_eq_nil_iff.1 h)]

/-- No slash begins what the paths below a canonical path start with. -/
theorem head?_inside_normalize (path : String) :
    (inside (normalize path)).toList.head? ≠ some '/' := by
  obtain hroot | hcanonical := normalize_cases path
  · rw [hroot]
    exact nofun
  · rw [inside_of_ne hcanonical.ne_root]
    exact hcanonical.head

/-! ### Canonical roots -/

/-- Segments with a slash after each of them. -/
theorem flatMap_slash {segs : List (List Char)} (hne : segs ≠ []) :
    segs.flatMap (· ++ ['/']) = join segs ++ ['/'] := by
  induction segs with
  | nil => exact absurd rfl hne
  | cons seg segs ih =>
    cases segs with
    | nil => rw [join_singleton, List.flatMap_singleton]
    | cons next rest =>
      rw [List.flatMap_cons, ih (List.cons_ne_nil _ _), join_cons_cons, List.append_assoc,
        List.append_assoc]
      rfl

/-- Behind its first slash a canonical root is nothing, or the canonical path of a directory. -/
theorem drop_normalizeRootChars (cs : List Char) :
    (normalizeRootChars cs).drop 1 = [] ∨ IsCanonical ((normalizeRootChars cs).drop 1) := by
  rw [normalizeRootChars, List.drop_one, List.tail_cons]
  by_cases hsegs : segments (Text.trim cs) = []
  · rw [hsegs]
    exact .inl rfl
  · obtain ⟨hhead, hlast, hchain⟩ := join_spec hsegs fun _ hseg => segment_spec hseg
    rw [flatMap_slash hsegs]
    exact .inr (isCanonical_append_slash (join_segments_ne_nil hsegs) hhead hlast hchain)

/-- No two slashes stand in a row in a canonical root. -/
theorem isChain_normalizeRootChars (cs : List Char) :
    (normalizeRootChars cs).IsChain fun a b => a = '/' → b ≠ '/' := by
  have hrest : ((normalizeRootChars cs).drop 1).IsChain fun a b => a = '/' → b ≠ '/' := by
    obtain hnil | hcanonical := drop_normalizeRootChars cs
    · rw [hnil]
      exact .nil
    · exact hcanonical.apart
  refine List.isChain_cons.2 ⟨fun c hc _ heq => ?_, hrest⟩
  exact head?_drop_normalizeRootChars cs (heq ▸ hc)

/-- A canonical root is its own canonical form: slashes at both ends protect its blanks. -/
theorem normalizeRoot_normalizeRoot (root : String) :
    normalizeRoot (normalizeRoot root) = normalizeRoot root := by
  have htrim : Text.trim (normalizeRootChars root.toList) = normalizeRootChars root.toList := by
    refine Text.trim_eq_self (fun c hc => ?_) fun c hc => ?_
    · cases hc
      exact Text.isBlank_slash
    · rw [getLast?_normalizeRootChars] at hc
      cases hc
      exact Text.isBlank_slash
  have hsegs : segments (Text.trim (normalizeRootChars root.toList))
      = segments (Text.trim root.toList) := by
    rw [htrim, segments_normalizeRootChars]
  apply String.toList_inj.1
  rw [toList_normalizeRoot, toList_normalizeRoot, normalizeRootChars, hsegs, normalizeRootChars]

/-! ### Below a root and back -/

/-- **Relative and absolute paths are inverse** below a canonical root, with and without the slash
at the start, so that different canonical paths are different below the root; and a canonical root
is its own canonical form, with a slash at each end and no double slash. -/
theorem rooted_inverse (rootText pathText otherText : String) :
    let root := normalizeRoot rootText
    let path := normalize pathText
    let other := normalize otherText
    relative root (underRoot root path) = path
      ∧ relative root (key root path) = path
      ∧ (underRoot root path = underRoot root other ↔ path = other)
      ∧ (key root path = key root other ↔ path = other)
      ∧ normalizeRoot root = root
      ∧ root.toList.head? = some '/' ∧ root.toList.getLast? = some '/'
      ∧ ¬ ['/', '/'] <:+: root.toList := by
  intro root path other
  have hunder (text : String) : relative root (underRoot root (normalize text)) = normalize text :=
    relative_underRoot root (normalize_ne_empty text)
  have hkey (text : String) : relative root (key root (normalize text)) = normalize text :=
    relative_key rootText (normalize_ne_empty text) (head?_inside_normalize text)
  refine ⟨hunder pathText, hkey pathText, ⟨fun h => ?_, congrArg _⟩, ⟨fun h => ?_, congrArg _⟩,
    normalizeRoot_normalizeRoot rootText, ?_, ?_, ?_⟩
  · calc path = relative root (underRoot root path) := (hunder pathText).symm
      _ = relative root (underRoot root other) := congrArg _ h
      _ = other := hunder otherText
  · calc path = relative root (key root path) := (hkey pathText).symm
      _ = relative root (key root other) := congrArg _ h
      _ = other := hkey otherText
  · rw [toList_normalizeRoot]
    rfl
  · rw [toList_normalizeRoot]
    exact getLast?_normalizeRootChars rootText.toList
  · rw [toList_normalizeRoot]
    exact not_infix_of_isChain (isChain_normalizeRootChars rootText.toList)

end ObjectStorage.Path
