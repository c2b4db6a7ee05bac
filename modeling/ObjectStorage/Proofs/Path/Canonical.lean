import Mathlib.Data.List.Chain
import Mathlib.Data.List.TakeWhile
import ObjectStorage.Proofs.Children
import ObjectStorage.Proofs.Path.Key

/-!
# Canonical paths

A canonical path other than the root does not begin with a slash, has no two slashes in a row and
does not end with a blank.  It may begin with a blank: blanks are taken from the ends of what a user
supplies before the slashes at its start are.  So to bring a canonical path into canonical form once
more changes it just if it begins with a blank.

* `Path.IsCanonical` — what canonical paths have in common;
* `Path.normalize_cases` — the canonical form is canonical, or the root;
* `Path.filter_normalizeChars` — it has the same characters but for slashes and outer blanks;
* `Path.normalize_eq_self_iff` — which canonical paths are their own canonical form.
-/

namespace ObjectStorage.Path

/-- A canonical path other than the root. -/
structure IsCanonical (cs : List Char) : Prop where
  ne_nil : cs ≠ []
  head : cs.head? ≠ some '/'
  /-- No two slashes stand in a row. -/
  apart : cs.IsChain fun a b => a = '/' → b ≠ '/'
  last (c : Char) : cs.getLast? = some c → Text.isBlank c = false

theorem IsCanonical.ne_slash {cs : List Char} (h : IsCanonical cs) : cs ≠ ['/'] := by
  rintro rfl
  exact h.head rfl

/-- Where no two slashes stand in a row, there is no double slash. -/
theorem not_infix_of_isChain {cs : List Char} (h : cs.IsChain fun a b => a = '/' → b ≠ '/') :
    ¬ ['/', '/'] <:+: cs := by
  rintro ⟨start, rest, hcs⟩
  rw [← hcs, List.append_assoc] at h
  obtain ⟨-, hmiddle, -⟩ := List.isChain_append.1 h
  obtain ⟨hnext, -⟩ := List.isChain_cons.1 hmiddle
  exact hnext '/' rfl rfl rfl

/-! ### Pieces and segments -/

theorem pieces_of_not_mem {cs : List Char} (h : '/' ∉ cs) : pieces cs = [cs] := by
  induction cs with
  | nil => rfl
  | cons c cs ih =>
    rw [List.mem_cons, not_or] at h
    rw [pieces, if_neg (Ne.symm h.1), ih h.2]

theorem pieces_append {seg : List Char} (h : '/' ∉ seg) (tail : List Char) :
    pieces (seg ++ '/' :: tail) = seg :: pieces tail := by
  induction seg with
  | nil => rfl
  | cons c seg ih =>
    rw [List.mem_cons, not_or] at h
    rw [List.cons_append, pieces, if_neg (Ne.symm h.1), ih h.2]

theorem segments_append {seg : List Char} (hne : seg ≠ []) (h : '/' ∉ seg) (tail : List Char) :
    segments (seg ++ '/' :: tail) = seg :: segments tail := by
  rw [segments, pieces_append h, List.filter_cons_of_pos (by simpa using hne)]
  rfl

/-- The pieces have all characters but the slashes. -/
theorem flatten_pieces (cs : List Char) : (pieces cs).flatten = cs.filter (· ≠ '/') := by
  induction cs with
  | nil => rfl
  | cons c cs ih =>
    rw [pieces]
    by_cases hc : c = '/'
    · rw [if_pos hc, List.flatten_cons, ih, List.filter_cons_of_neg (by simpa using hc)]
      rfl
    · rw [if_neg hc, List.filter_cons_of_pos (by simpa using hc), ← ih]
      cases pieces cs with
      | nil => rfl
      | cons p ps => rfl

theorem flatten_segments (cs : List Char) : (segments cs).flatten = cs.filter (· ≠ '/') := by
  rw [← flatten_pieces, segments, List.flatten_filter_ne_nil]

/-! ### Joined segments -/

section

variable {seg : List Char} {segs : List (List Char)}

theorem join_cons_cons (seg next : List Char) (rest : List (List Char)) :
    join (seg :: next :: rest) = seg ++ '/' :: join (next :: rest) := by
  simp [join, List.intercalate]

theorem join_singleton (seg : List Char) : join [seg] = seg := by
  simp [join, List.intercalate]

/-- To join segments adds nothing but slashes. -/
theorem filter_join (h : ∀ seg ∈ segs, '/' ∉ seg) :
    (join segs).filter (· ≠ '/') = segs.flatten := by
  induction segs with
  | nil => rfl
  | cons seg segs ih =>
    have hseg : seg.filter (· ≠ '/') = seg := by
      rw [List.filter_eq_self]
      intro c hc
      simpa using fun heq : c = '/' => h seg List.mem_cons_self (heq ▸ hc)
    have hrest := ih fun seg hmem => h seg (List.mem_cons_of_mem _ hmem)
    cases segs with
    | nil => rw [join_singleton, hseg, List.flatten_singleton]
    | cons next rest =>
      rw [join_cons_cons, List.filter_append, hseg, List.filter_cons_of_neg (by simp), hrest,
        List.flatten_cons (l := seg)]

theorem isChain_of_not_mem (h : '/' ∉ seg) : seg.IsChain fun a b => a = '/' → b ≠ '/' := by
  refine List.Pairwise.isChain (List.pairwise_of_forall_mem_list ?_)
  intro a ha b _ heq
  exact absurd (heq ▸ ha) h

/-- What segments that are joined look like from outside. -/
theorem join_spec (hne : segs ≠ []) (h : ∀ seg ∈ segs, seg ≠ [] ∧ '/' ∉ seg) :
    (join segs).head? ≠ some '/' ∧ (join segs).getLast? ≠ some '/'
      ∧ (join segs).IsChain fun a b => a = '/' → b ≠ '/' := by
  induction segs with
  | nil => exact absurd rfl hne
  | cons seg segs ih =>
    obtain ⟨hseg, hslash⟩ := h seg List.mem_cons_self
    have hhead : seg.head? ≠ some '/' := fun heq => hslash (List.mem_of_mem_head? heq)
    have hlast : seg.getLast? ≠ some '/' := fun heq => hslash (List.mem_of_getLast? heq)
    cases segs with
    | nil =>
      rw [join_singleton]
      exact ⟨hhead, hlast, isChain_of_not_mem hslash⟩
    | cons next rest =>
      obtain ⟨hhead', hlast', hchain'⟩ :=
        ih (List.cons_ne_nil _ _) fun seg hmem => h seg (List.mem_cons_of_mem _ hmem)
      have hjoin : join (next :: rest) ≠ [] :=
        join_ne_nil (h next (List.mem_cons_of_mem _ List.mem_cons_self)).1
      rw [join_cons_cons]
      refine ⟨?_, ?_, ?_⟩
      · rw [List.head?_append_of_ne_nil _ hseg]
        exact hhead
      · rw [List.getLast?_append_of_ne_nil _ (List.cons_ne_nil _ _),
          List.getLast?_cons_of_ne_nil hjoin]
        exact hlast'
      · rw [List.isChain_append]
        refine ⟨isChain_of_not_mem hslash, ?_, ?_⟩
        · rw [List.isChain_cons]
          exact ⟨fun c hc _ heq => hhead' (heq ▸ hc), hchain'⟩
        · intro a ha _ _ heq
          exact absurd (heq ▸ ha) hlast

end

theorem join_segments_ne_nil {cs : List Char} (h : segments cs ≠ []) : join (segments cs) ≠ [] := by
  cases hsegs : segments cs with
  | nil => exact absurd hsegs h
  | cons seg segs => exact join_ne_nil (segment_spec (by rw [hsegs]; exact List.mem_cons_self)).1

/-! ### The canonical form -/

/-- The canonical form in its two parts: the segments, and the slash of a directory. -/
theorem normalizeChars_cases (cs : List Char) :
    (segments (Text.trim cs) = [] ∧ normalizeChars cs = ['/'])
      ∨ (segments (Text.trim cs) ≠ [] ∧ normalizeChars cs = join (segments (Text.trim cs))
          ++ if endsWithSlash (Text.trim cs) then ['/'] else []) := by
  unfold normalizeChars
  dsimp only
  split
  · next hsegs => exact .inl ⟨hsegs, rfl⟩
  · next hsegs =>
    refine .inr ⟨hsegs, ?_⟩
    split
    · rfl
    · rw [List.append_nil]

/-- The canonical form of a text that has segments. -/
theorem normalizeChars_of_segments (cs : List Char) (h : segments (Text.trim cs) ≠ []) :
    normalizeChars cs = join (segments (Text.trim cs))
      ++ if endsWithSlash (Text.trim cs) then ['/'] else [] :=
  ((normalizeChars_cases cs).resolve_left fun hroot => h hroot.1).2

/-- **The canonical form has the characters that were supplied**, in their order, but for slashes
and for the blanks at both ends. -/
theorem filter_normalizeChars (cs : List Char) :
    (normalizeChars cs).filter (· ≠ '/') = (Text.trim cs).filter (· ≠ '/') := by
  obtain ⟨hsegs, hform⟩ | ⟨-, hform⟩ := normalizeChars_cases cs
  · rw [hform, ← flatten_segments (Text.trim cs), hsegs]
    rfl
  · have hslash : (if endsWithSlash (Text.trim cs) then ['/'] else []).filter (· ≠ '/') = [] := by
      split <;> rfl
    have hsegments : ∀ seg ∈ segments (Text.trim cs), '/' ∉ seg :=
      fun seg hseg => (segment_spec hseg).2
    rw [hform, List.filter_append, hslash, List.append_nil, filter_join hsegments,
      flatten_segments]

theorem isBlank_of_getLast?_trim {cs : List Char} {c : Char}
    (h : (Text.trim cs).getLast? = some c) : Text.isBlank c = false := by
  rw [Text.trim, Text.trimEnd, List.getLast?_reverse] at h
  have hfirst := List.head?_dropWhile_not Text.isBlank (Text.trimStart cs).reverse
  rw [h] at hfirst
  exact hfirst

/-- A text that does not end with a slash ends as it does without its slashes. -/
theorem getLast?_filter {cs : List Char} (h : cs.getLast? ≠ some '/') :
    (cs.filter (· ≠ '/')).getLast? = cs.getLast? := by
  induction cs using List.reverseRecOn with
  | nil => rfl
  | append_singleton cs c _ =>
    have hc : c ≠ '/' := by simpa using h
    rw [List.filter_append, List.filter_cons_of_pos (by simpa using hc), List.filter_nil,
      List.getLast?_append, List.getLast?_append]
    rfl

/-- A slash after segments that are joined makes a canonical path, that of a directory. -/
theorem isCanonical_append_slash {cs : List Char} (hne : cs ≠ []) (hhead : cs.head? ≠ some '/')
    (hlast : cs.getLast? ≠ some '/') (hchain : cs.IsChain fun a b => a = '/' → b ≠ '/') :
    IsCanonical (cs ++ ['/']) := by
  refine ⟨List.concat_ne_nil _ _, ?_, ?_, ?_⟩
  · rw [List.head?_append_of_ne_nil _ hne]
    exact hhead
  · rw [List.isChain_append]
    refine ⟨hchain, List.isChain_singleton _, ?_⟩
    intro a ha _ _ heq
    exact absurd (heq ▸ ha) hlast
  · intro c hc
    rw [List.getLast?_append] at hc
    obtain rfl : '/' = c := by simpa using hc
    exact Text.isBlank_slash

/-- **What users supply becomes the root or a canonical path.** -/
theorem isCanonical_normalizeChars (cs : List Char) :
    normalizeChars cs = ['/'] ∨ IsCanonical (normalizeChars cs) := by
  obtain ⟨-, hform⟩ | ⟨hsegs, hform⟩ := normalizeChars_cases cs
  · exact .inl hform
  · right
    obtain ⟨hhead, hlast, hchain⟩ := join_spec hsegs fun seg hseg => segment_spec hseg
    have hne := join_segments_ne_nil hsegs
    have hfilter := filter_normalizeChars cs
    rw [hform] at hfilter ⊢
    by_cases hdir : endsWithSlash (Text.trim cs) = true
    · rw [if_pos hdir]
      exact isCanonical_append_slash hne hhead hlast hchain
    · rw [if_neg hdir, List.append_nil] at hfilter ⊢
      refine ⟨hne, hhead, hchain, ?_⟩
      intro c hc
      have htrim : (Text.trim cs).getLast? ≠ some '/' := by
        simpa [endsWithSlash] using hdir
      rw [← getLast?_filter hlast, hfilter, getLast?_filter htrim] at hc
      exact isBlank_of_getLast?_trim hc

theorem normalize_cases (path : String) :
    normalize path = root ∨ IsCanonical (normalize path).toList := by
  rw [toList_normalize]
  refine (isCanonical_normalizeChars path.toList).imp_left fun hroot => ?_
  exact String.toList_inj.1 ((toList_normalize path).trans hroot)

/-- A file is at a canonical path. -/
theorem isCanonical_of_file {path : String} (h : isDir (normalize path) = false) :
    IsCanonical (normalize path).toList := by
  refine (normalize_cases path).resolve_left fun hroot => ?_
  rw [hroot] at h
  cases h

/-! ### The canonical form of a canonical path -/

/-- A text without a slash at its start and without slashes in a row is its segments joined.  By
induction on the length: a segment and its slash are taken off the start. -/
theorem join_segments {cs : List Char} (hhead : cs.head? ≠ some '/')
    (hchain : cs.IsChain fun a b => a = '/' → b ≠ '/') :
    join (segments cs) ++ (if endsWithSlash cs then ['/'] else []) = cs := by
  rcases Children.slash_cases cs with hslash | ⟨seg, tail, hslash, rfl⟩
  · have hplain : endsWithSlash cs = false := by
      rw [endsWithSlash, beq_eq_false_iff_ne]
      exact fun heq => hslash (List.mem_of_getLast? heq)
    rw [segments, pieces_of_not_mem hslash, hplain]
    cases cs with
    | nil => rfl
    | cons c cs =>
      rw [List.filter_cons_of_pos (by simp), List.filter_nil, join_singleton]
      exact List.append_nil _
  · have hne : seg ≠ [] := by
      rintro rfl
      exact hhead rfl
    obtain ⟨-, hrest, -⟩ := List.isChain_append.1 hchain
    obtain ⟨hnext, htail⟩ := List.isChain_cons.1 hrest
    have hhead' : tail.head? ≠ some '/' := fun heq => hnext '/' heq rfl rfl
    have ih := join_segments hhead' htail
    rw [segments_append hne hslash]
    cases htails : tail with
    | nil =>
      have hdir : endsWithSlash (seg ++ '/' :: []) = true := by
        rw [endsWithSlash, List.getLast?_append]
        rfl
      rw [hdir]
      show join [seg] ++ ['/'] = _
      rw [join_singleton]
    | cons c rest =>
      have hends : endsWithSlash (seg ++ '/' :: tail) = endsWithSlash tail := by
        have hcons : tail ≠ [] := by rw [htails]; exact List.cons_ne_nil _ _
        rw [endsWithSlash, List.getLast?_append_of_ne_nil _ (List.cons_ne_nil _ _),
          List.getLast?_cons_of_ne_nil hcons]
        rfl
      rw [← htails, hends]
      cases hsegs : segments tail with
      | nil =>
        -- without segments the tail would be at most a slash, with which it does not begin
        rw [hsegs] at ih
        exfalso
        split at ih
        · exact hhead' (by rw [← ih]; rfl)
        · rw [htails] at ih
          cases ih
      | cons next others =>
        rw [hsegs] at ih
        rw [join_cons_cons, List.append_assoc, List.cons_append, ih]
termination_by cs.length

/-- A canonical path has a segment: otherwise it would be at most a slash. -/
theorem IsCanonical.segments_ne_nil {cs : List Char} (h : IsCanonical cs) : segments cs ≠ [] := by
  intro hnil
  have hjoin := join_segments h.head h.apart
  rw [hnil] at hjoin
  split at hjoin
  · exact h.head (by rw [← hjoin]; rfl)
  · exact h.ne_nil hjoin.symm

/-- The start of a canonical path up to a slash is canonical. -/
theorem IsCanonical.upto {pre tail : List Char} (h : IsCanonical (pre ++ '/' :: tail)) :
    IsCanonical (pre ++ ['/']) := by
  have hne : pre ≠ [] := by
    rintro rfl
    exact h.head rfl
  have hhead : pre.head? ≠ some '/' := by
    rw [← List.head?_append_of_ne_nil _ hne]
    exact h.head
  obtain ⟨hchain, -, hjunction⟩ := List.isChain_append.1 h.apart
  have hlast : pre.getLast? ≠ some '/' := fun heq => hjunction '/' heq '/' rfl rfl rfl
  exact isCanonical_append_slash hne hhead hlast hchain

/-- A text that begins with a blank loses more than that blank at most. -/
theorem trim_sublist {c : Char} (cs : List Char) (h : Text.isBlank c = true) :
    (Text.trim (c :: cs)).Sublist cs := by
  have hstart : (Text.trimStart (c :: cs)).Sublist cs := by
    rw [Text.trimStart, List.dropWhile_cons_of_pos h]
    exact List.dropWhile_sublist _
  have hend : (Text.trimEnd (Text.trimStart (c :: cs))).Sublist (Text.trimStart (c :: cs)) := by
    have hrev := (List.dropWhile_sublist (l := (Text.trimStart (c :: cs)).reverse)
      Text.isBlank).reverse
    rwa [List.reverse_reverse] at hrev
  exact hend.trans hstart

/-- **A canonical path is its own canonical form just if it does not begin with a blank.** -/
theorem normalizeChars_eq_self_iff {cs : List Char} (h : IsCanonical cs) :
    normalizeChars cs = cs ↔ ∀ c, cs.head? = some c → Text.isBlank c = false := by
  constructor
  · intro hself c hc
    rw [Bool.eq_false_iff]
    intro hblank
    cases cs with
    | nil => cases hc
    | cons first rest =>
      cases hc
      have hslash : c ≠ '/' := by
        rintro rfl
        cases hblank
      have hfilter := filter_normalizeChars (c :: rest)
      rw [hself, List.filter_cons_of_pos (by simpa using hslash)] at hfilter
      have hlength := ((trim_sublist rest hblank).filter fun a => decide (a ≠ '/')).length_le
      rw [← hfilter, List.length_cons] at hlength
      omega
  · intro hfirst
    have htrim : Text.trim cs = cs := Text.trim_eq_self hfirst h.last
    have hform := normalizeChars_of_segments cs (by rw [htrim]; exact h.segments_ne_nil)
    rw [hform, htrim, join_segments h.head h.apart]

/-- Does the path begin with a blank? -/
def startsBlank (path : String) : Bool := path.toList.head?.any Text.isBlank

/-- **A canonical path is its own canonical form just if it does not begin with a blank.** -/
theorem normalize_eq_self_iff {path : String} (h : IsCanonical path.toList) :
    normalize path = path ↔ startsBlank path = false := by
  rw [← String.toList_inj, toList_normalize, normalizeChars_eq_self_iff h, startsBlank]
  cases path.toList.head? with
  | none => simp
  | some c => simp

/-! ### Canonical roots, and keys of canonical paths -/

theorem getLast?_normalizeRootChars (cs : List Char) :
    (normalizeRootChars cs).getLast? = some '/' := by
  rw [normalizeRootChars]
  generalize segments (Text.trim cs) = segs
  induction segs with
  | nil => rfl
  | cons seg segs ih =>
    rw [List.flatMap_cons, List.append_assoc, List.singleton_append, ← List.cons_append,
      List.getLast?_append_of_ne_nil _ (List.cons_ne_nil _ _)]
    exact ih

/-- The key of a canonical path is the root without its leading slash, followed by the path. -/
theorem toList_key_canonical (root : String) {path : String} (h : IsCanonical path.toList) :
    (key root path).toList = root.toList.drop 1 ++ path.toList := by
  rw [toList_key, keyChars_eq, insideChars, if_neg h.ne_slash]

/-- Below a canonical root no key begins with a slash. -/
theorem head?_key_canonical (root : String) {path : String} (h : IsCanonical path.toList) :
    (key (normalizeRoot root) path).toList.head? ≠ some '/' := by
  rw [toList_key_canonical _ h, toList_normalizeRoot]
  exact head?_append_ne (head?_drop_normalizeRootChars _) h.head

/-! ### The directory of a file -/

theorem afterLastSlash_spec {cs : List Char} (hne : cs ≠ []) (hfile : endsWithSlash cs = false) :
    afterLastSlash cs ≠ [] ∧ '/' ∉ afterLastSlash cs := by
  constructor
  · obtain ⟨init, c, rfl⟩ := (List.eq_nil_or_concat' cs).resolve_left hne
    have hc : c ≠ '/' := by simpa [endsWithSlash] using hfile
    rw [afterLastSlash, List.reverse_append, List.reverse_singleton, List.singleton_append,
      List.takeWhile_cons_of_pos (by simpa using hc), List.reverse_cons]
    exact List.concat_ne_nil _ _
  · intro hmem
    rw [afterLastSlash, List.mem_reverse] at hmem
    have htaken := List.mem_takeWhile_imp hmem
    simp at htaken

/-- A path that does not begin with a slash is what the paths below its parent start with, followed
by a name and by the slash at its end, if it has one. -/
theorem exists_name_of_base {path : String} {base tail : List Char}
    (hhead : path.toList.head? ≠ some '/') (hpath : path.toList = base ++ tail)
    (hbase : (if endsWithSlash path.toList then path.toList.dropLast else path.toList) = base)
    (hne : base ≠ []) (hplain : endsWithSlash base = false) :
    ∃ name, path = inside (parent path) ++ (name ++ String.ofList tail) ∧ name ≠ ""
      ∧ '/' ∉ name.toList := by
  obtain ⟨hname, hslash⟩ := afterLastSlash_spec hne hplain
  have happend := uptoLastSlash_append_afterLastSlash base
  have hroot : path.toList ≠ ['/'] := by
    intro heq
    exact hhead (by rw [heq]; rfl)
  have hinside : insideChars (parentChars path.toList) = uptoLastSlash base := by
    rw [parentChars, if_neg hroot, hbase]
    cases hup : uptoLastSlash base with
    | nil => rfl
    | cons c up =>
      refine if_neg ?_
      intro heq
      have hfirst : c :: up = ['/'] := heq
      rw [hup, hfirst] at happend
      exact hhead (by rw [hpath, ← happend]; rfl)
  refine ⟨String.ofList (afterLastSlash base), ?_, ?_, ?_⟩
  · apply String.toList_inj.1
    rw [String.toList_append, String.toList_append, toList_inside, toList_parent, hinside,
      String.toList_ofList, String.toList_ofList, ← List.append_assoc, happend, hpath]
  · intro heq
    rw [← String.toList_eq_nil_iff, String.toList_ofList] at heq
    exact hname heq
  · rwa [String.toList_ofList]

/-- A canonical path of a file is what the paths below its parent start with, followed by a name. -/
theorem parent_spec {path : String} (h : IsCanonical path.toList) (hfile : isDir path = false) :
    ∃ rest, path = inside (parent path) ++ rest ∧ rest ≠ "" ∧ '/' ∉ rest.toList := by
  have hplain : endsWithSlash path.toList = false := hfile
  have hbase : (if endsWithSlash path.toList then path.toList.dropLast else path.toList)
      = path.toList := by rw [hplain, if_neg Bool.false_ne_true]
  obtain ⟨name, hpath, hname⟩ :=
    exists_name_of_base h.head (List.append_nil _).symm hbase h.ne_nil hplain
  exact ⟨name, hpath.trans (by rw [String.ofList_nil, String.append_empty]), hname⟩

end ObjectStorage.Path
