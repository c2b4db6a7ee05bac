import Mathlib.Logic.Function.Iterate
import ObjectStorage.Proofs.Path.Segments

/-!
# From a path up to the root

The parent of a canonical path and its name are cut at the same slash, whether the path is a file or
a directory: one after the other they are the path.  The name is one segment, with the slash of a
directory; the parent has the segments before it.  So from parent to parent a path loses one segment
at a time, and comes to the root when it has none left.

* `Path.normalize_parent_iff` — which parents are their own canonical forms;
* `Path.segments_parent` — the segments of the parent;
* `Path.iterate_parent_eq_root_iff` — how far it is to the root;
* `Path.parent_name_exact` — all of this for what users supply.
-/

namespace ObjectStorage.Path

/-! ### Parents in canonical form -/

/-- A parent stays as it is when it is brought into canonical form just if it is the root, or its
path does: both begin with the same character. -/
theorem normalize_parent_iff {path : String} (h : IsCanonical path.toList) :
    normalize (parent path) = parent path ↔ parent path = root ∨ normalize path = path := by
  obtain htop | ⟨hne, hstarts, -⟩ := parent_cases h
  · rw [htop]
    exact iff_of_true (by decide) (.inl rfl)
  · have hup : IsCanonical (parent path).toList := h.of_prefix (isDir_parent path) hstarts
    have hfirst : startsBlank (parent path) = startsBlank path := by
      obtain ⟨rest, hrest⟩ := hstarts
      rw [startsBlank, startsBlank, ← hrest, List.head?_append_of_ne_nil _ hup.ne_nil]
    rw [normalize_eq_self_iff hup, normalize_eq_self_iff h, hfirst, or_iff_right hne]

/-! ### Segments of the parent -/

theorem segments_start_append {start : List Char} (h : IsStart start) (tail : List Char) :
    segments (start ++ tail) = segments start ++ segments tail := by
  obtain rfl | ⟨pre, rfl⟩ := h
  · rfl
  · rw [List.append_assoc, List.singleton_append, segments_append_slash, segments_concat_slash]

theorem segments_insideChars (path : List Char) : segments (insideChars path) = segments path :=
  apply_insideChars rfl path

/-- The parent of a canonical path has all segments but the last one. -/
theorem segments_parent {path : String} (h : IsCanonical path.toList) :
    ∃ seg, segments path.toList = segments (parent path).toList ++ [seg] := by
  obtain ⟨seg, hne, hslash, hpath, hname⟩ := exists_segment_of_isCanonical h
  have hseg : segments (name path).toList = [seg.toList] := by
    have hone := segments_of_not_mem (mt String.toList_eq_nil_iff.1 hne) hslash
    rw [hname, String.toList_append]
    split
    · exact (segments_concat_slash _).trans hone
    · rw [String.toList_empty, List.append_nil, hone]
  refine ⟨seg.toList, ?_⟩
  conv_lhs => rw [hpath]
  rw [String.toList_append, segments_start_append (isStart_inside (isDir_parent path)), hseg,
    toList_inside, segments_insideChars, toList_parent]

/-! ### From parent to parent -/

/-- **The way to the root** has as many steps as the path has segments.  By induction on the steps,
since the first of them takes one segment away. -/
theorem iterate_parent_eq_root_iff {path : String} (h : path = root ∨ IsCanonical path.toList)
    (steps : Nat) : parent^[steps] path = root ↔ (segments path.toList).length ≤ steps := by
  induction steps generalizing path with
  | zero =>
    rw [Function.iterate_zero_apply, Nat.le_zero, List.length_eq_zero_iff]
    obtain rfl | hcanonical := h
    · exact iff_of_true rfl rfl
    · exact iff_of_false hcanonical.ne_root hcanonical.segments_ne_nil
  | succ steps ih =>
    rw [Function.iterate_succ_apply]
    obtain rfl | hcanonical := h
    · exact iff_of_true ((ih (.inl rfl)).2 (Nat.zero_le _)) (Nat.zero_le _)
    · obtain ⟨seg, hsegs⟩ := segments_parent hcanonical
      rw [ih (canonical_parent hcanonical), hsegs, List.length_append, List.length_singleton,
        Nat.add_le_add_iff_right]

/-- **Parent and name make up every canonical path** but the root.  The name is one segment, with a
slash just if the path has one at its end; the parent is the root, or the canonical path of a
directory that begins the path and is shorter, and stays as it is when it is brought into canonical
form if the path does; and the root is reached after as many parents as the path has segments. -/
theorem parent_name_exact (text : String) (h : normalize text ≠ root) :
    let path := normalize text
    let up := parent path
    path = inside up ++ name path
      ∧ (∃ seg, seg ≠ "" ∧ '/' ∉ seg.toList ∧ name path = seg ++ if isDir path then "/" else "")
      ∧ (up = root ∨ up ≠ root ∧ (∃ text, normalize text = up) ∧ isDir up = true
          ∧ up.toList <+: path.toList ∧ up.length < path.length)
      ∧ (normalize up = up ↔ up = root ∨ normalize path = path)
      ∧ ∃ segs, Spells segs path.toList
          ∧ ∀ steps, parent^[steps] path = root ↔ segs.length ≤ steps := by
  intro path up
  have hcanonical : IsCanonical path.toList := (exists_normalize_iff.1 ⟨text, rfl⟩).resolve_left h
  obtain ⟨seg, hne, hslash, hpath, hname⟩ := exists_segment_of_isCanonical hcanonical
  refine ⟨hpath, ⟨seg, hne, hslash, hname⟩, ?_, normalize_parent_iff hcanonical,
    segments path.toList, spells_segments _, iterate_parent_eq_root_iff (.inr hcanonical)⟩
  refine (parent_cases hcanonical).imp_right fun ⟨htop, hstarts, hlt⟩ => ?_
  exact ⟨htop, exists_normalize_iff.2 (canonical_parent hcanonical), isDir_parent path, hstarts, hlt⟩

/-- A directory with a blank name on the way. -/
theorem parent_name_exact_nested :
    let path := normalize "//x/ /y z/ "
    path ≠ root ∧ path = inside (parent path) ++ name path
      ∧ parent path = "x/ /" ∧ name path = "y z/"
      ∧ ∀ steps, parent^[steps] path = root ↔ 3 ≤ steps := by
  intro path
  have hpath : path ≠ root := by decide
  obtain ⟨happend, -, -, -, segs, hspells, hsteps⟩ := parent_name_exact "//x/ /y z/ " hpath
  have hsegs : segs.length = 3 := by
    rw [← hspells.segments_eq]
    decide
  rw [hsegs] at hsteps
  exact ⟨hpath, happend, by decide, by decide, hsteps⟩

end ObjectStorage.Path
