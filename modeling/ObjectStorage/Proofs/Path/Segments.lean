import ObjectStorage.Proofs.Path.Spelling

/-!
# Segments that a text spells

What a path says is in its segments and in the slash at its end.  A text spells segments if they
stand in it one after the other, with slashes between them and nothing but slashes around them;
every text spells just one list of segments.  The canonical form of a text spells what is left of
the text without its outer blanks, with as few slashes as can be.  It need not stay as it is when it
is brought into canonical form once more: a blank at the start of the first segment is not an outer
one as long as a slash stands before it.

* `Path.Spells` — the segments that a text spells;
* `Path.spells_iff` — they are the ones that are found;
* `Path.segments_normalizeChars` — the canonical form keeps the segments;
* `Path.exists_normalize_iff` — which paths are canonical forms;
* `Path.canonical_form_exact` — what the canonical form is, and when it stays as it is.
-/

namespace ObjectStorage.Path

/-! ### Which segments a text spells -/

/-- Segments that stand in a text one after the other, with nothing but slashes between them and
around them. -/
inductive Spells : List (List Char) → List Char → Prop where
  | nothing : Spells [] []
  | slash {segs cs} : Spells segs cs → Spells segs ('/' :: cs)
  | last {seg} : seg ≠ [] → '/' ∉ seg → Spells [seg] seg
  | next {seg segs cs} : seg ≠ [] → '/' ∉ seg → Spells segs cs →
      Spells (seg :: segs) (seg ++ '/' :: cs)

variable {cs : List Char} {segs : List (List Char)}

theorem segments_cons_slash (cs : List Char) : segments ('/' :: cs) = segments cs :=
  segments_append_slash [] cs

theorem spells_segments (cs : List Char) : Spells (segments cs) cs := by
  rcases Children.slash_cases cs with hslash | ⟨seg, tail, hslash, rfl⟩
  · cases cs with
    | nil => exact .nothing
    | cons c cs =>
      rw [segments_of_not_mem (List.cons_ne_nil c cs) hslash]
      exact .last (List.cons_ne_nil c cs) hslash
  · cases seg with
    | nil =>
      rw [List.nil_append, segments_cons_slash]
      exact .slash (spells_segments tail)
    | cons c seg =>
      rw [segments_append (List.cons_ne_nil c seg) hslash]
      exact .next (List.cons_ne_nil c seg) hslash (spells_segments tail)
termination_by cs.length

theorem Spells.segments_eq (h : Spells segs cs) : segments cs = segs := by
  induction h with
  | nothing => rfl
  | slash _ ih => rw [segments_cons_slash, ih]
  | last hne hslash => exact segments_of_not_mem hne hslash
  | next hne hslash _ ih => rw [segments_append hne hslash, ih]

/-- **A text spells the segments that are found in it**, and no others. -/
theorem spells_iff : Spells segs cs ↔ segments cs = segs := by
  constructor
  · exact Spells.segments_eq
  · rintro rfl
    exact spells_segments cs

/-! ### The segments of the canonical form -/

theorem segments_join (h : ∀ seg ∈ segs, seg ≠ [] ∧ '/' ∉ seg) : segments (join segs) = segs := by
  induction segs with
  | nil => rfl
  | cons seg segs ih =>
    obtain ⟨⟨hne, hslash⟩, hrest⟩ := List.forall_mem_cons.1 h
    cases segs with
    | nil => rw [join_singleton, segments_of_not_mem hne hslash]
    | cons next rest => rw [join_cons_cons, segments_append hne hslash, ih hrest]

/-- The canonical form keeps the segments. -/
theorem segments_normalizeChars (cs : List Char) :
    segments (normalizeChars cs) = segments (Text.trim cs) := by
  obtain ⟨hsegs, hform⟩ | ⟨-, hform⟩ := normalizeChars_cases cs
  · rw [hform, hsegs]
    rfl
  · have hjoin : segments (join (segments (Text.trim cs))) = segments (Text.trim cs) :=
      segments_join fun _ hseg => segment_spec hseg
    rw [hform]
    split
    · rw [segments_concat_slash, hjoin]
    · rw [List.append_nil, hjoin]

/-! ### Which paths are canonical forms -/

/-- A slash before a canonical path protects the blank that it may begin with. -/
theorem normalizeChars_cons_slash (h : IsCanonical cs) : normalizeChars ('/' :: cs) = cs := by
  have hends : endsWithSlash ('/' :: cs) = endsWithSlash cs := by
    rw [endsWithSlash, List.getLast?_cons_of_ne_nil h.ne_nil]
    rfl
  have htrim : Text.trim ('/' :: cs) = '/' :: cs := by
    refine Text.trim_eq_self (fun c hc => ?_) fun c hc => ?_
    · cases hc
      exact Text.isBlank_slash
    · rw [List.getLast?_cons_of_ne_nil h.ne_nil] at hc
      exact h.last c hc
  have hform := normalizeChars_of_segments ('/' :: cs) (by
    rw [htrim, segments_cons_slash]
    exact h.segments_ne_nil)
  rw [hform, htrim, segments_cons_slash, hends, join_segments h.head h.apart]

/-- **The canonical forms are the root and the canonical paths.** -/
theorem exists_normalize_iff {path : String} :
    (∃ text, normalize text = path) ↔ path = root ∨ IsCanonical path.toList := by
  constructor
  · rintro ⟨text, rfl⟩
    exact normalize_cases text
  · rintro (rfl | h)
    · exact ⟨root, by decide⟩
    · refine ⟨String.ofList ('/' :: path.toList), String.toList_inj.1 ?_⟩
      rw [toList_normalize, String.toList_ofList, normalizeChars_cons_slash h]

/-! ### What the canonical form is -/

/-- Does a blank begin the first segment? -/
def blankFirst (segs : List (List Char)) : Bool :=
  segs.head?.any fun seg => seg.head?.any Text.isBlank

theorem head?_join_cons {seg : List Char} (hne : seg ≠ []) (rest : List (List Char)) :
    (join (seg :: rest)).head? = seg.head? := by
  cases rest with
  | nil => rw [join_singleton]
  | cons next rest => rw [join_cons_cons, List.head?_append_of_ne_nil _ hne]

/-- The canonical form begins with a blank just if its first segment does. -/
theorem startsBlank_normalize (path : String) :
    startsBlank (normalize path) = blankFirst (segments (Text.trim path.toList)) := by
  rw [startsBlank, toList_normalize]
  obtain ⟨hsegs, hform⟩ | ⟨hsegs, hform⟩ := normalizeChars_cases path.toList
  · rw [hform, hsegs]
    rfl
  · rw [hform, List.head?_append_of_ne_nil _ (join_segments_ne_nil hsegs), blankFirst]
    cases hcases : segments (Text.trim path.toList) with
    | nil => exact absurd hcases hsegs
    | cons seg rest =>
      have hne := (segment_spec (by rw [hcases]; exact List.mem_cons_self)).1
      rw [head?_join_cons hne, List.head?_cons, Option.any_some]

/-- **The canonical form** is the root, or the segments of the trimmed text joined, with a slash at
the end just if the trimmed text has one there.  It spells the same segments, and it is its own
canonical form just if no blank begins the first of them. -/
theorem canonical_form_exact (path : String) :
    ∃ segs, Spells segs (Text.trim path.toList)
      ∧ Spells segs (normalize path).toList
      ∧ (segs = [] ∧ normalize path = root
        ∨ segs ≠ [] ∧ (normalize path).toList
            = join segs ++ if endsWithSlash (Text.trim path.toList) then ['/'] else [])
      ∧ (normalize (normalize path) = normalize path ↔ blankFirst segs = false) := by
  refine ⟨segments (Text.trim path.toList), spells_segments _, ?_, ?_, ?_⟩
  · rw [spells_iff, toList_normalize, segments_normalizeChars]
  · rw [← String.toList_inj, toList_normalize]
    exact normalizeChars_cases path.toList
  · rw [normalize_normalize_iff, startsBlank_normalize]

/-- A blank behind a slash at the start is an outer one once the slash is gone. -/
theorem shieldedBlank_not_kept : normalize (normalize "/ a") ≠ normalize "/ a" := by
  decide

end ObjectStorage.Path
