import ObjectStorage.Proofs.Path.Parent

/-!
# Spellings of a path

Users may spell a path in many ways that have one canonical form.  To add something to the end of a
spelling is not the same as to add it to the canonical form: a blank at the end of the spelling then
stands in the middle, where it stays.

* `Path.segments_append_slash` — the segments of two texts with a slash between them;
* `Path.segments_normalizeRoot_iff` — when a canonical root has the segments that were supplied;
* `Path.normalize_asDir` — the directory that a spelling names, from its canonical form;
* `Path.weight_asDir_lt` — when it is another one;
* `Path.name_spec`, `Path.normalize_append_name` — a name in the directory that a spelling names.
-/

namespace ObjectStorage.Path

/-! ### Segments -/

theorem pieces_append_slash (cs tail : List Char) :
    pieces (cs ++ '/' :: tail) = pieces cs ++ pieces tail := by
  induction cs with
  | nil => rfl
  | cons c cs ih =>
    rw [List.cons_append, pieces, pieces, ih]
    split
    · rfl
    · cases hpieces : pieces cs with
      | nil => exact absurd hpieces (pieces_ne_nil cs)
      | cons p ps => rfl

/-- **A slash separates segments**, whatever stands around it. -/
theorem segments_append_slash (cs tail : List Char) :
    segments (cs ++ '/' :: tail) = segments cs ++ segments tail := by
  rw [segments, pieces_append_slash, List.filter_append]
  rfl

theorem segments_concat_slash (cs : List Char) : segments (cs ++ ['/']) = segments cs := by
  rw [segments_append_slash]
  exact List.append_nil _

theorem segments_of_not_mem {seg : List Char} (hne : seg ≠ []) (h : '/' ∉ seg) :
    segments seg = [seg] := by
  rw [segments, pieces_of_not_mem h, List.filter_cons_of_pos (by simpa using hne)]
  rfl

/-- Segments with a slash after each of them are the segments of what they make. -/
theorem segments_flatMap_slash {segs : List (List Char)}
    (h : ∀ seg ∈ segs, seg ≠ [] ∧ '/' ∉ seg) : segments (segs.flatMap (· ++ ['/'])) = segs := by
  induction segs with
  | nil => rfl
  | cons seg segs ih =>
    obtain ⟨⟨hne, hslash⟩, hrest⟩ := List.forall_mem_cons.1 h
    rw [List.flatMap_cons, List.append_assoc, List.singleton_append, segments_append_slash,
      segments_of_not_mem hne hslash, ih hrest]
    rfl

/-! ### Blanks at the ends -/

/-- Does the path end with a blank? -/
def endsBlank (path : String) : Bool := path.toList.getLast?.any Text.isBlank

/-- Has the path nothing but blanks? -/
def onlyBlanks (path : String) : Bool := path.toList.all Text.isBlank

theorem trimEnd_sublist (cs : List Char) : (Text.trimEnd cs).Sublist cs := by
  have h := (List.dropWhile_sublist (l := cs.reverse) Text.isBlank).reverse
  rwa [List.reverse_reverse] at h

theorem trim_sublist_self (cs : List Char) : (Text.trim cs).Sublist cs :=
  (trimEnd_sublist _).trans (List.dropWhile_sublist _)

/-- How many characters a text has besides slashes. -/
def weight (cs : List Char) : Nat := cs.countP (· ≠ '/')

theorem weight_append (cs ds : List Char) : weight (cs ++ ds) = weight cs + weight ds :=
  List.countP_append

theorem weight_le_of_sublist {cs ds : List Char} (h : cs.Sublist ds) : weight cs ≤ weight ds :=
  h.countP_le

theorem weight_eq_length_flatten (cs : List Char) :
    weight cs = (segments cs).flatten.length := by
  rw [flatten_segments, weight, List.countP_eq_length_filter]

theorem weight_normalizeChars (cs : List Char) :
    weight (normalizeChars cs) = weight (Text.trim cs) := by
  rw [weight, weight, List.countP_eq_length_filter, List.countP_eq_length_filter,
    filter_normalizeChars]

theorem weight_normalize_le (path : String) :
    weight (normalize path).toList ≤ weight path.toList := by
  rw [toList_normalize, weight_normalizeChars]
  exact weight_le_of_sublist (trim_sublist_self _)

theorem weight_cons_of_blank {c : Char} (h : Text.isBlank c = true) (cs : List Char) :
    weight (c :: cs) = weight cs + 1 := by
  have hslash : c ≠ '/' := by
    rintro rfl
    cases h
  exact List.countP_cons_of_pos (by simpa using hslash)

/-- A blank at the end is lost. -/
theorem weight_trimEnd_lt {cs : List Char} (h : cs.getLast?.any Text.isBlank = true) :
    weight (Text.trimEnd cs) < weight cs := by
  obtain ⟨c, hlast, hblank⟩ := (Option.any_eq_true _ _).1 h
  obtain ⟨init, rfl⟩ := List.getLast?_eq_some_iff.1 hlast
  have hsub : (Text.trimEnd (init ++ [c])).Sublist init := by
    rw [Text.trimEnd, List.reverse_append, List.reverse_singleton, List.singleton_append,
      List.dropWhile_cons_of_pos hblank]
    exact trimEnd_sublist init
  have hone : weight [c] = 1 := weight_cons_of_blank hblank []
  rw [weight_append, hone]
  exact Nat.lt_succ_of_le (weight_le_of_sublist hsub)

/-- A blank at the start is lost. -/
theorem weight_trim_lt {cs : List Char} (h : cs.head?.any Text.isBlank = true) :
    weight (Text.trim cs) < weight cs := by
  cases cs with
  | nil => cases h
  | cons c cs =>
    rw [weight_cons_of_blank h]
    exact Nat.lt_succ_of_le (weight_le_of_sublist (trim_sublist cs h))

theorem getLast?_any_eq_false_iff {cs : List Char} :
    cs.getLast?.any Text.isBlank = false
      ↔ ∀ c, cs.getLast? = some c → Text.isBlank c = false := by
  cases cs.getLast? with
  | none => simp
  | some c => simp

theorem trimEnd_of_not_blank {cs : List Char} (h : cs.getLast?.any Text.isBlank = false) :
    Text.trimEnd cs = cs := Text.trimEnd_eq_self (getLast?_any_eq_false_iff.1 h)

/-- What is left of blanks alone. -/
theorem trimStart_of_all {cs : List Char} (h : cs.all Text.isBlank = true) (ds : List Char) :
    Text.trimStart (cs ++ ds) = Text.trimStart ds := by
  rw [List.all_eq_true] at h
  rw [Text.trimStart, List.dropWhile_append_of_pos h]
  rfl

/-- Where not all is blank, what follows does not matter to the start. -/
theorem trimStart_append {cs : List Char} (h : cs.all Text.isBlank = false) (ds : List Char) :
    Text.trimStart (cs ++ ds) = Text.trimStart cs ++ ds ∧ Text.trimStart cs ≠ [] := by
  have hne : cs.dropWhile Text.isBlank ≠ [] := by
    intro hnil
    rw [List.dropWhile_eq_nil_iff] at hnil
    rw [List.all_eq_true.2 hnil] at h
    cases h
  refine ⟨?_, hne⟩
  rw [Text.trimStart, List.dropWhile_append, if_neg (by simpa using hne)]
  rfl

/-- The start has no say in how a text ends. -/
theorem getLast?_trimStart {cs : List Char} (h : cs.all Text.isBlank = false) :
    (Text.trimStart cs).getLast? = cs.getLast? := by
  have hsplit : cs.takeWhile Text.isBlank ++ Text.trimStart cs = cs :=
    List.takeWhile_append_dropWhile
  rw [← List.getLast?_append_of_ne_nil _ (trimStart_append h []).2, hsplit]

/-- A text that ends with a slash keeps its end. -/
theorem trim_of_endsWithSlash {cs : List Char} (h : endsWithSlash cs = true) :
    cs.all Text.isBlank = false ∧ Text.trim cs = Text.trimStart cs
      ∧ endsWithSlash (Text.trimStart cs) = true := by
  have hlast : cs.getLast? = some '/' := by simpa [endsWithSlash] using h
  have hall : cs.all Text.isBlank = false := by
    rw [Bool.eq_false_iff]
    intro hblank
    cases List.all_eq_true.1 hblank '/' (List.mem_of_getLast? hlast)
  have hstart := (getLast?_trimStart hall).trans hlast
  refine ⟨hall, trimEnd_of_not_blank ?_, ?_⟩
  · rw [hstart]
    rfl
  · rw [endsWithSlash, hstart]
    rfl

/-! ### Roots -/

theorem segments_normalizeRootChars (cs : List Char) :
    segments (normalizeRootChars cs) = segments (Text.trim cs) :=
  (segments_append_slash [] _).trans (segments_flatMap_slash fun _ hseg => segment_spec hseg)

/-- **A canonical root has the segments that were supplied** just if no blank ends them. -/
theorem segments_normalizeRoot_iff {path : String} (h : path.toList.head? = some '/') :
    segments (normalizeRoot path).toList = segments path.toList ↔ endsBlank path = false := by
  have hstart : Text.trimStart path.toList = path.toList := by
    refine Text.trimStart_eq_self fun c hc => ?_
    rw [h] at hc
    cases hc
    rfl
  rw [toList_normalizeRoot, segments_normalizeRootChars, Text.trim, hstart]
  constructor
  · intro hsame
    rw [Bool.eq_false_iff]
    intro hblank
    have hlost := weight_trimEnd_lt hblank
    rw [weight_eq_length_flatten, hsame, ← weight_eq_length_flatten] at hlost
    exact Nat.lt_irrefl _ hlost
  · intro hblank
    rw [trimEnd_of_not_blank hblank]

/-- A canonical root has no character that was not supplied, but for slashes. -/
theorem mem_of_mem_normalizeRootChars {cs : List Char} {c : Char}
    (h : c ∈ normalizeRootChars cs) : c = '/' ∨ c ∈ cs := by
  rw [normalizeRootChars, List.mem_cons, List.mem_flatMap] at h
  obtain rfl | ⟨seg, hseg, hc⟩ := h
  · exact .inl rfl
  · rw [List.mem_append, List.mem_singleton] at hc
    refine hc.symm.imp_right fun hmem => ?_
    have hflat : c ∈ (segments (Text.trim cs)).flatten := List.mem_flatten.2 ⟨seg, hseg, hmem⟩
    rw [flatten_segments] at hflat
    exact (trim_sublist_self cs).subset (List.mem_of_mem_filter hflat)

/-! ### Directories -/

theorem isDir_normalize {path : String} (h : isDir path = true) :
    isDir (normalize path) = true := by
  obtain ⟨-, htrim, hends⟩ := trim_of_endsWithSlash h
  rw [isDir, toList_normalize]
  obtain ⟨-, hform⟩ | ⟨-, hform⟩ := normalizeChars_cases path.toList
  · rw [hform]
    rfl
  · rw [hform, htrim, if_pos hends, endsWithSlash, List.getLast?_concat]
    rfl

theorem asDir_of_isDir {path : String} (h : isDir path = true) : asDir path = path := if_pos h

theorem toList_asDir_of_file {path : String} (h : isDir path = false) :
    (asDir path).toList = path.toList ++ ['/'] := by
  rw [asDir, h, if_neg Bool.false_ne_true, String.toList_append]
  rfl

theorem isDir_asDir (path : String) : isDir (asDir path) = true := by
  rw [asDir]
  split
  · assumption
  · exact Children.isDir_append_slash path

theorem weight_asDir (path : String) : weight (asDir path).toList = weight path.toList := by
  cases hdir : isDir path with
  | true => rw [asDir_of_isDir hdir]
  | false =>
    rw [toList_asDir_of_file hdir, weight_append]
    rfl

/-- What the path of a directory is trimmed to, unless all of it is blank. -/
theorem trim_concat_slash {cs : List Char} (h : cs.all Text.isBlank = false) :
    Text.trim (cs ++ ['/']) = Text.trimStart cs ++ ['/'] := by
  rw [Text.trim, (trimStart_append h ['/']).1]
  refine trimEnd_of_not_blank ?_
  rw [List.getLast?_concat]
  rfl

theorem normalize_of_onlyBlanks {path : String} (h : onlyBlanks path = true) :
    normalize path = root ∧ normalize (asDir path) = root := by
  have hfile : isDir path = false := by
    rw [Bool.eq_false_iff]
    intro hdir
    rw [onlyBlanks, (trim_of_endsWithSlash hdir).1] at h
    cases h
  have hnothing : Text.trim path.toList = [] := by
    rw [← List.append_nil path.toList, Text.trim, trimStart_of_all h]
    rfl
  have hslash : Text.trim (path.toList ++ ['/']) = ['/'] := by
    rw [Text.trim, trimStart_of_all h]
    rfl
  constructor
  · rw [normalize, normalizeChars, hnothing]
    rfl
  · rw [normalize, toList_asDir_of_file hfile, normalizeChars, hslash]
    rfl

/-- What is left of a text that ends neither with a blank nor with a slash. -/
theorem trim_of_file {cs : List Char} (hall : cs.all Text.isBlank = false)
    (hends : cs.getLast?.any Text.isBlank = false) (hfile : endsWithSlash cs = false) :
    Text.trim cs = Text.trimStart cs ∧ endsWithSlash (Text.trimStart cs) = false
      ∧ segments (Text.trimStart cs) ≠ [] := by
  have hlast := getLast?_trimStart hall
  have hplain : endsWithSlash (Text.trimStart cs) = false := by
    rw [endsWithSlash, hlast]
    exact hfile
  refine ⟨trimEnd_of_not_blank (by rwa [hlast]), hplain, ?_⟩
  intro hnil
  have hsame := getLast?_filter (by simpa [endsWithSlash] using hplain)
  rw [← flatten_segments, hnil] at hsame
  exact (trimStart_append hall []).2 (List.getLast?_eq_none_iff.1 hsame.symm)

/-- A slash at the end of such a text is one at the end of its canonical form. -/
theorem normalizeChars_concat_slash {cs : List Char} (hall : cs.all Text.isBlank = false)
    (hends : cs.getLast?.any Text.isBlank = false) (hfile : endsWithSlash cs = false) :
    normalizeChars (cs ++ ['/']) = normalizeChars cs ++ ['/']
      ∧ endsWithSlash (normalizeChars cs) = false := by
  obtain ⟨htrim, hplain, hsegs⟩ := trim_of_file hall hends hfile
  have htrimDir := trim_concat_slash hall
  have hsegsDir : segments (Text.trim (cs ++ ['/'])) = segments (Text.trimStart cs) := by
    rw [htrimDir, segments_concat_slash]
  have hslash : endsWithSlash (Text.trim (cs ++ ['/'])) = true := by
    rw [htrimDir, endsWithSlash, List.getLast?_concat]
    rfl
  have hform := normalizeChars_of_segments cs (by rwa [htrim])
  have hformDir := normalizeChars_of_segments (cs ++ ['/']) (by rwa [hsegsDir])
  rw [htrim, hplain, if_neg Bool.false_ne_true, List.append_nil] at hform
  rw [hsegsDir, hslash, if_pos rfl] at hformDir
  obtain ⟨-, hlast, -⟩ := join_spec hsegs fun _ hseg => segment_spec hseg
  rw [hformDir, hform]
  exact ⟨rfl, by simpa [endsWithSlash] using hlast⟩

/-- **The directory that a spelling names is the one that its canonical form names**, if no blank
ends the spelling, or if it has nothing but blanks. -/
theorem normalize_asDir {path : String} (h : endsBlank path = true → onlyBlanks path = true) :
    normalize (asDir path) = asDir (normalize path) := by
  cases hdir : isDir path with
  | true => rw [asDir_of_isDir hdir, asDir_of_isDir (isDir_normalize hdir)]
  | false =>
    cases hall : onlyBlanks path with
    | true =>
      obtain ⟨hpath, hasDir⟩ := normalize_of_onlyBlanks hall
      rw [hpath, hasDir]
      rfl
    | false =>
      have hends : endsBlank path = false := by
        rw [Bool.eq_false_iff]
        intro hblank
        rw [h hblank] at hall
        cases hall
      obtain ⟨hform, hfile⟩ := normalizeChars_concat_slash hall hends hdir
      have hnormal : isDir (normalize path) = false := by rwa [isDir, toList_normalize]
      apply String.toList_inj.1
      rw [toList_asDir_of_file hnormal, toList_normalize, toList_normalize,
        toList_asDir_of_file hdir, hform]

/-- The canonical form of a directory that a spelling names has all characters of the canonical form
of the spelling. -/
theorem weight_le_normalize_asDir (path : String) :
    weight (normalize path).toList ≤ weight (normalize (asDir path)).toList
      ∧ (endsBlank path = true → onlyBlanks path = false →
          weight (normalize path).toList < weight (normalize (asDir path)).toList) := by
  cases hdir : isDir path with
  | true =>
    rw [asDir_of_isDir hdir]
    refine ⟨Nat.le_refl _, fun hends => ?_⟩
    have hlast : path.toList.getLast? = some '/' := by simpa [isDir, endsWithSlash] using hdir
    rw [endsBlank, hlast] at hends
    cases hends
  | false =>
    cases hall : onlyBlanks path with
    | true =>
      obtain ⟨hpath, hasDir⟩ := normalize_of_onlyBlanks hall
      rw [hpath, hasDir]
      exact ⟨Nat.le_refl _, fun _ h => absurd h (by decide)⟩
    | false =>
      have hafter : weight (normalize (asDir path)).toList
          = weight (Text.trimStart path.toList) := by
        rw [toList_normalize, weight_normalizeChars, toList_asDir_of_file hdir,
          trim_concat_slash hall, weight_append]
        rfl
      rw [hafter, toList_normalize, weight_normalizeChars]
      refine ⟨weight_le_of_sublist (trimEnd_sublist _), fun hends _ => weight_trimEnd_lt ?_⟩
      rwa [getLast?_trimStart hall]

/-- To name the directory of a canonical form adds no character but the slash, and a blank at its
start is lost. -/
theorem weight_asDir_le (path : String) :
    weight (normalize (asDir path)).toList ≤ weight path.toList
      ∧ (startsBlank path = true →
          weight (normalize (asDir path)).toList < weight path.toList) := by
  rw [toList_normalize, weight_normalizeChars, ← weight_asDir path]
  refine ⟨weight_le_of_sublist (trim_sublist_self _), fun hblank => weight_trim_lt ?_⟩
  rw [asDir]
  split
  · exact hblank
  · have hne : path.toList ≠ [] := by
      intro hnil
      rw [startsBlank, hnil] at hblank
      cases hblank
    rw [String.toList_append, List.head?_append_of_ne_nil _ hne]
    exact hblank

/-- **A spelling names another directory than its canonical form** if a blank ends the spelling or
begins the canonical form: the first directory then has more characters. -/
theorem weight_asDir_lt {path : String}
    (h : startsBlank (normalize path) = true ∨ endsBlank path = true ∧ onlyBlanks path = false) :
    weight (normalize (asDir (normalize path))).toList
      < weight (normalize (asDir path)).toList := by
  obtain ⟨hle, hlt⟩ := weight_asDir_le (normalize path)
  obtain ⟨hle', hlt'⟩ := weight_le_normalize_asDir path
  obtain hstarts | ⟨hends, hall⟩ := h
  · exact Nat.lt_of_lt_of_le (hlt hstarts) hle'
  · exact Nat.lt_of_le_of_lt hle (hlt' hends hall)

theorem weight_insideChars (dir : List Char) : weight (insideChars dir) = weight dir :=
  apply_insideChars rfl dir

/-- A directory with more characters than a start is not the start of that with a name. -/
theorem not_prefix_of_weight_lt {dir start name : List Char} (hdir : endsWithSlash dir = true)
    (hslash : '/' ∉ name) (h : weight start < weight dir) : ¬dir <+: start ++ name := by
  rintro ⟨more, hmore⟩
  obtain ⟨rest, rfl, -⟩ | ⟨rest, rfl, hname⟩ := List.append_eq_append_iff.1 hmore
  · rw [weight_append] at h
    exact absurd h (Nat.not_lt.2 (Nat.le_add_right _ _))
  · have hne : rest ≠ [] := by
      rintro rfl
      rw [List.append_nil] at h
      exact Nat.lt_irrefl _ h
    have hlast : rest.getLast? = some '/' := by
      rw [← List.getLast?_append_of_ne_nil start hne]
      simpa [endsWithSlash] using hdir
    rw [hname] at hslash
    exact hslash (List.mem_append_left _ (List.mem_of_getLast? hlast))

/-! ### The canonical form of a canonical form -/

theorem endsBlank_normalize (path : String) : endsBlank (normalize path) = false := by
  obtain hroot | hcanonical := normalize_cases path
  · rw [hroot]
    rfl
  · exact getLast?_any_eq_false_iff.2 hcanonical.last

/-- **The canonical form stays as it is** just if it does not begin with a blank. -/
theorem normalize_normalize_iff {path : String} :
    normalize (normalize path) = normalize path ↔ startsBlank (normalize path) = false := by
  obtain hroot | hcanonical := normalize_cases path
  · rw [hroot]
    decide
  · exact normalize_eq_self_iff hcanonical

/-! ### Names in a directory -/

theorem join_concat {segs : List (List Char)} (hne : segs ≠ []) (seg : List Char) :
    join (segs ++ [seg]) = join segs ++ '/' :: seg := by
  induction segs with
  | nil => exact absurd rfl hne
  | cons first segs ih =>
    cases segs with
    | nil => rw [List.singleton_append, join_cons_cons, join_singleton, join_singleton]
    | cons next rest =>
      have hrest := ih (List.cons_ne_nil _ _)
      rw [List.cons_append] at hrest
      rw [List.cons_append, List.cons_append, join_cons_cons, hrest, join_cons_cons,
        List.append_assoc, List.cons_append]

/-- The name of a file has no slash, and no blank at its end. -/
theorem name_spec {path : String} (h : IsCanonical path.toList) (hfile : isDir path = false) :
    name path ≠ "" ∧ '/' ∉ (name path).toList ∧ endsBlank (name path) = false := by
  obtain ⟨seg, hne, hslash, hpath, hname⟩ := exists_segment_of_isCanonical h
  rw [hfile, if_neg Bool.false_ne_true, String.append_empty] at hname
  rw [← hname] at hne hslash
  have hlast : (name path).toList.getLast? = path.toList.getLast? := by
    have hchars := congrArg String.toList hpath
    rw [String.toList_append] at hchars
    rw [hchars, List.getLast?_append_of_ne_nil _ (mt String.toList_eq_nil_iff.1 hne)]
  refine ⟨hne, hslash, ?_⟩
  rw [endsBlank, hlast]
  exact getLast?_any_eq_false_iff.2 h.last

/-- **A name after a directory** is a name in the directory, however that is spelled. -/
theorem normalize_append_name {dir name : String} (hdir : isDir dir = true) (hne : name ≠ "")
    (hslash : '/' ∉ name.toList) (hends : endsBlank name = false) :
    normalize (dir ++ name) = inside (normalize dir) ++ name := by
  obtain ⟨hall, htrim, hdirSlash⟩ := trim_of_endsWithSlash hdir
  have hname : name.toList ≠ [] := mt String.toList_eq_nil_iff.1 hne
  have hlast : (Text.trimStart dir.toList ++ name.toList).getLast? = name.toList.getLast? :=
    List.getLast?_append_of_ne_nil _ hname
  have hwhole : Text.trim (dir ++ name).toList = Text.trimStart dir.toList ++ name.toList := by
    rw [String.toList_append, Text.trim, (trimStart_append hall _).1]
    exact trimEnd_of_not_blank (by rw [hlast]; exact hends)
  obtain ⟨init, hinit⟩ : ∃ init, Text.trimStart dir.toList = init ++ ['/'] :=
    List.getLast?_eq_some_iff.1 (by simpa [endsWithSlash] using hdirSlash)
  have hsegs : segments (Text.trim (dir ++ name).toList) = segments init ++ [name.toList] := by
    rw [hwhole, hinit, List.append_assoc, List.singleton_append, segments_append_slash,
      segments_of_not_mem hname hslash]
  have hfile : endsWithSlash (Text.trim (dir ++ name).toList) = false := by
    have hne : name.toList.getLast? ≠ some '/' := fun heq => hslash (List.mem_of_getLast? heq)
    rw [hwhole, endsWithSlash, hlast]
    simpa using hne
  have hform := normalizeChars_of_segments (dir ++ name).toList
    (by rw [hsegs]; exact List.concat_ne_nil _ _)
  rw [hsegs, hfile, if_neg Bool.false_ne_true, List.append_nil] at hform
  have hsegsDir : segments (Text.trim dir.toList) = segments init := by
    rw [htrim, hinit, segments_concat_slash]
  apply String.toList_inj.1
  rw [toList_normalize, hform, String.toList_append, toList_inside, toList_normalize]
  obtain ⟨hnil, hroot⟩ | ⟨hsome, hdirForm⟩ := normalizeChars_cases dir.toList
  · rw [hsegsDir] at hnil
    rw [hroot, hnil, List.nil_append, join_singleton]
    rfl
  · rw [hsegsDir] at hsome
    rw [htrim, hdirSlash, if_pos rfl, ← htrim, hsegsDir] at hdirForm
    have hjoin : insideChars (join (segments init) ++ ['/']) = join (segments init) ++ ['/'] := by
      refine if_neg fun heq => join_segments_ne_nil hsome ?_
      exact List.append_cancel_right (heq.trans (List.nil_append _).symm)
    rw [hdirForm, hjoin, join_concat hsome, List.append_assoc, List.singleton_append]

end ObjectStorage.Path
