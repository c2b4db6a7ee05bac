import ObjectStorage.Proofs.Command.Copy
import ObjectStorage.Proofs.Command.Walk

/-!
# Commands and the spelling of their target

A command looks at the target as it is spelled before an object brings the path into canonical form:
it adds a slash to name a directory, or the name of a file to a directory.  With the canonical form
in place of the spelling a user mostly sees the same.  Where blanks end the spelling or begin the
canonical form a listing shows another directory, and to copy to a spelling that is no directory,
while its canonical form is one, fails.

* `Command.seen` — what a user sees of a command;
* `Command.mkdir_apply`, `Command.ls_apply`, `Command.ls_direct` — directories of a memory service;
* `Command.seen_cp_congr` — copies that land at the same place;
* `Command.ls_alike_iff`, `Command.cp_alike_iff` — which spellings are seen alike;
* `Command.spelling_exact` — all commands.
-/

namespace ObjectStorage.Command

section

variable {σ ρ π α : Type}

/-- What a user sees of a command: how it ends, what it leaves in the store, and what was printed in
the end. -/
def seen (x : Command σ α) (w : World σ) : Except Failure α × σ × Bytes :=
  ((x w).1, (x w).2.service, (x w).2.output)

/-- **Copies to the same path are seen alike**; only the log tells how the path was spelled. -/
theorem seen_cp_congr {srcOp dstOp : Operator σ ρ π} {src dst dst' : String} (w : World σ)
    (h : (srcOp.object src).isDir = false →
      Path.normalize (destination (srcOp.object src).name dst)
        = Path.normalize (destination (srcOp.object src).name dst')) :
    seen (cp srcOp src dstOp dst) w = seen (cp srcOp src dstOp dst') w := by
  cases hdir : (srcOp.object src).isDir with
  | true => rw [seen, seen, cp_of_dir hdir, cp_of_dir hdir]
  | false =>
    have hobject : dstOp.object (destination (srcOp.object src).name dst)
        = dstOp.object (destination (srcOp.object src).name dst') :=
      congrArg (Object.mk dstOp) (h hdir)
    rw [seen, seen, cp_of_file hdir, cp_of_file hdir, hobject, bind_apply, bind_apply]
    rcases ofRun ((srcOp.object src).read .async) w with ⟨e | data, w'⟩
    · rfl
    · dsimp only
      rw [bind_apply, bind_apply]
      rcases ofRun ((dstOp.object (destination (srcOp.object src).name dst')).write .async data) w'
        with ⟨e | done, w''⟩
      · rfl
      · rfl

variable {o : Object σ ρ π} {w w' : World σ}

theorem isFile_of_metadata {m : Metadata} (h : o.metadata .async w = (.ok m, w')) :
    isFile o w = (.ok (m.mode = .file), w') := by
  rw [isFile, bind_of_ok (ofRun_of_ok (Run.attempt_of_ok h))]
  rfl

theorem isFile_of_missing {e : Error} (h : o.metadata .async w = (.error (.failed e), w'))
    (hkind : e.kind = .objectNotFound) : isFile o w = (.ok false, w') := by
  rw [isFile, bind_of_ok (ofRun_of_ok (Run.attempt_of_failed h))]
  dsimp only
  rw [if_pos hkind]
  rfl

end

/-! ### Commands on directories of a memory service -/

section

variable (name root : String)

/-- To create a directory succeeds and changes nothing. -/
theorem mkdir_apply (path : String) (w : World (Table Bytes)) :
    mkdir (Memory.operator name root) path w = (.ok (), w) := by
  have hdir := Path.isDir_normalize (Path.isDir_asDir path)
  exact ofRun_of_ok (Memory.create_dir name (Path.normalizeRoot root) .async _ w hdir)

/-- Is a path that of a file which is there? -/
def isThere (root path : String) (t : Table Bytes) : Bool :=
  !Path.isDir (Path.normalize path) && (Memory.value (Path.normalizeRoot root) path t).isSome

theorem isFile_apply (path : String) (w : World (Table Bytes)) :
    isFile ((Memory.operator name root).object path) w
      = (.ok (isThere root path w.service), w) := by
  cases hdir : Path.isDir (Path.normalize path) with
  | true =>
    have hthere : isThere root path w.service = false := by rw [isThere, hdir]; rfl
    rw [hthere]
    exact isFile_of_metadata (Memory.metadata_dir name (Path.normalizeRoot root) .async path w hdir)
  | false =>
    cases hvalue : Memory.value (Path.normalizeRoot root) path w.service with
    | none =>
      have hthere : isThere root path w.service = false := by rw [isThere, hvalue, hdir]; rfl
      obtain ⟨e, hkind, hmissing⟩ :=
        Memory.metadata_missing name (Path.normalizeRoot root) .async path w hdir hvalue
      rw [hthere]
      exact isFile_of_missing hmissing hkind
    | some data =>
      have hthere : isThere root path w.service = true := by rw [isThere, hvalue, hdir]; rfl
      rw [hthere]
      exact isFile_of_metadata
        (Memory.metadata_file name (Path.normalizeRoot root) .async path w hdir hvalue)

/-- **A listing prints a file that is there, or lists the directory**; it makes no difference
whether the spelling is that of a directory already. -/
theorem ls_apply (path : String) (recursive : Bool) (w : World (Table Bytes)) :
    ls (Memory.operator name root) path recursive w
      = if isThere root path w.service then (.ok (), w.printing [Path.normalize path])
        else walk (Memory.operator name root) recursive
          ((Memory.operator name root).dirsAtMost w.service)
          [(Memory.operator name root).object (Path.asDir path)] w := by
  have hstate : ofRun Run.getService w = (.ok w.service, w) := rfl
  rw [ls]
  dsimp only
  split
  · next hgiven =>
    have hdir : Path.isDir (Path.normalize path) = true := by
      rw [Bool.or_eq_true, decide_eq_true_eq] at hgiven
      obtain hdir | rfl := hgiven
      · exact Path.isDir_normalize hdir
      · decide
    have hthere : isThere root path w.service = false := by rw [isThere, hdir]; rfl
    rw [pure_bind, hthere, if_neg Bool.false_ne_true, if_neg Bool.false_ne_true, bind_of_ok hstate]
  · rw [bind_of_ok (isFile_apply name root path w)]
    cases isThere root path w.service with
    | true => rfl
    | false => rw [if_neg Bool.false_ne_true, if_neg Bool.false_ne_true, bind_of_ok hstate]

/-- What a listing prints for a directory. -/
def lines (root dir : String) (t : Table Bytes) : List String :=
  (Memory.page (Path.normalizeRoot root) dir t).map fun e => Path.normalize e.path

/-- A listing that is not recursive, of what is no file. -/
theorem ls_direct {path : String} {w : World (Table Bytes)}
    (h : isThere root path w.service = false) :
    ls (Memory.operator name root) path false w
      = (.ok (), w.printing (lines root (Path.normalize (Path.asDir path)) w.service)) := by
  have hdir := Path.isDir_normalize (Path.isDir_asDir path)
  have hmost : (Memory.operator name root).dirsAtMost w.service
      = Kv.dirsAbove w.service.keys + 1 := rfl
  rw [ls_apply, h, if_neg Bool.false_ne_true, hmost]
  exact walk_of_walked (.list (listed_apply name root hdir w) (.done _)) (Nat.le_add_left 1 _)

/-- Listings with one canonical form and one directory are the same. -/
theorem ls_congr {path path' : String} (hpath : Path.normalize path = Path.normalize path')
    (hdir : Path.normalize (Path.asDir path) = Path.normalize (Path.asDir path')) (recursive : Bool)
    (w : World (Table Bytes)) :
    ls (Memory.operator name root) path recursive w
      = ls (Memory.operator name root) path' recursive w := by
  have hthere : isThere root path w.service = isThere root path' w.service := by
    rw [isThere, isThere, Memory.value, Memory.value, hpath]
  have hobject : (Memory.operator name root).object (Path.asDir path)
      = (Memory.operator name root).object (Path.asDir path') := congrArg (Object.mk _) hdir
  rw [ls_apply, ls_apply, hthere, hpath, hobject]

end

/-! ### Listings -/

section

variable {root dir dir' : String}

/-- A file in a directory, with a name of so many characters. -/
def longFile (dir : String) (length : Nat) : String :=
  Path.inside dir ++ String.ofList (List.replicate length 'x')

/-- A table with nothing but that file. -/
def oneFile (root dir : String) (length : Nat) : Table Bytes :=
  Table.empty.insert (Path.key (Path.normalizeRoot root) (longFile dir length)) []

theorem longName_spec (length : Nat) :
    '/' ∉ (String.ofList (List.replicate (length + 1) 'x')).toList
      ∧ String.ofList (List.replicate (length + 1) 'x') ≠ "" := by
  rw [String.toList_ofList]
  constructor
  · intro hmem
    cases List.eq_of_mem_replicate hmem
  · intro hempty
    rw [← String.toList_eq_nil_iff, String.toList_ofList] at hempty
    cases hempty

theorem weight_longFile (dir : String) (length : Nat) :
    length ≤ Path.weight (longFile dir length).toList := by
  have hname : Path.weight (List.replicate length 'x') = length := by
    rw [Path.weight, List.countP_replicate, if_pos (by decide)]
  rw [longFile, String.toList_append, String.toList_ofList, Path.weight_append, hname]
  exact Nat.le_add_left _ _

/-- The key of the file begins with that of the directory. -/
theorem key_longFile (root dir : String) (length : Nat) :
    Path.key (Path.normalizeRoot root) (longFile dir (length + 1))
      = Path.key (Path.normalizeRoot root) dir
        ++ String.ofList (List.replicate (length + 1) 'x') := by
  have hroot : (longFile dir (length + 1)).toList ≠ ['/'] := by
    intro heq
    have hweight := weight_longFile dir (length + 1)
    rw [heq] at hweight
    cases hweight
  apply String.toList_inj.1
  rw [Path.toList_key, Path.keyChars_eq, Path.insideChars, if_neg hroot, String.toList_append,
    Path.toList_key, Path.keyChars_eq, longFile, String.toList_append, Path.toList_inside,
    List.append_assoc]

/-- The file is the only one. -/
theorem get?_oneFile {path : String} {length : Nat}
    (h : Path.weight (Path.normalize path).toList < length) :
    (oneFile root dir length).get? (Path.key (Path.normalizeRoot root) (Path.normalize path))
      = none := by
  have hweight := weight_longFile dir length
  have hne : longFile dir length ≠ "" := by
    intro hempty
    rw [hempty] at hweight
    exact absurd (Nat.lt_of_lt_of_le h hweight) (Nat.not_lt_zero _)
  rw [oneFile, Table.get?_insert, if_neg]
  · rfl
  · intro hkey
    rw [← Path.key_injective (Path.normalize_ne_empty path) hne hkey] at hweight
    exact absurd h (Nat.not_lt.2 hweight)

theorem isThere_oneFile {path : String} {length : Nat}
    (h : Path.weight (Path.normalize path).toList < length) :
    isThere root path (oneFile root dir length) = false := by
  rw [isThere, Memory.value, get?_oneFile h]
  exact Bool.and_false _

/-- The directory shows the file. -/
theorem lines_oneFile (root dir : String) (length : Nat) :
    lines root dir (oneFile root dir (length + 1)) ≠ [] := by
  obtain ⟨hslash, hne⟩ := longName_spec length
  have hkey := key_longFile root dir length
  have hscan : Path.key (Path.normalizeRoot root) (longFile dir (length + 1))
      ∈ (oneFile root dir (length + 1)).scan (Path.key (Path.normalizeRoot root) dir) := by
    refine Table.mem_scan_iff.2 ⟨Table.mem_keys_iff.2 ⟨[], ?_⟩, ?_⟩
    · rw [oneFile, Table.get?_insert, if_pos rfl]
    · rw [Table.startsWith_iff, hkey, String.toList_append]
      exact List.prefix_append _ _
  have hchild : Children.child? (Path.key (Path.normalizeRoot root) dir)
      (Path.key (Path.normalizeRoot root) (longFile dir (length + 1)))
        = some (Path.key (Path.normalizeRoot root) (longFile dir (length + 1)), .file) := by
    rw [hkey]
    exact Children.child?_file _ hne hslash
  exact List.ne_nil_of_mem (List.mem_map_of_mem
    (List.mem_map_of_mem (Children.mem_ofPaths_iff.2 ⟨_, hscan, hchild⟩)))

/-- A directory whose path has more characters does not. -/
theorem lines_oneFile_of_lt (hdir : Path.isDir dir' = true)
    (h : Path.weight dir.toList < Path.weight dir'.toList) (length : Nat) :
    lines root dir' (oneFile root dir (length + 1)) = [] := by
  obtain ⟨hslash, -⟩ := longName_spec length
  have hnone : (oneFile root dir (length + 1)).scan (Path.key (Path.normalizeRoot root) dir')
      = [] := by
    rw [List.eq_nil_iff_forall_not_mem]
    intro key hkey
    obtain ⟨hmem, hstarts⟩ := Table.mem_scan_iff.1 hkey
    obtain ⟨value, hvalue⟩ := Table.mem_keys_iff.1 hmem
    rw [oneFile, Table.get?_insert] at hvalue
    split at hvalue
    · next hfile =>
      have hinside : Path.insideChars dir'.toList = dir'.toList := by
        refine if_neg fun hroot => ?_
        rw [hroot] at h
        exact absurd h (Nat.not_lt_zero _)
      rw [Table.startsWith_iff, hfile, key_longFile, String.toList_append, Path.toList_key,
        Path.toList_key, Path.keyChars_eq, Path.keyChars_eq, List.append_assoc,
        List.prefix_append_right_inj, hinside] at hstarts
      refine Path.not_prefix_of_weight_lt hdir hslash ?_ hstarts
      rwa [Path.weight_insideChars]
    · cases hvalue
  rw [lines, Memory.page, hnone]
  rfl

theorem output_printing {σ : Type} (w : World σ) (printed : List String) :
    (w.printing printed).output
      = w.output ++ printed.flatMap fun line => Text.utf8 (line ++ "\n") := by
  rw [World.printing, World.output, World.output]
  dsimp only
  rw [List.reverse_append, List.reverse_reverse, List.flatten_append, List.flatMap_def]

theorem utf8_line_ne_nil (line : String) : Text.utf8 (line ++ "\n") ≠ [] := by
  rw [Text.utf8, String.toList_append, List.flatMap_append]
  exact List.append_ne_nil_of_right_ne_nil _ (by decide)

/-- Some lines are more than none. -/
theorem output_printing_ne {σ : Type} (w : World σ) {printed : List String} (h : printed ≠ []) :
    (w.printing printed).output ≠ w.output := by
  intro hsame
  rw [output_printing, List.append_right_eq_self] at hsame
  cases printed with
  | nil => exact h rfl
  | cons line more =>
    rw [List.flatMap_cons, List.append_eq_nil_iff] at hsame
    exact utf8_line_ne_nil line hsame.1

/-- Where a blank begins the canonical form, or ends a spelling that has more than blanks, a listing
shows another directory. -/
theorem exists_ls_ne (name root : String) {path : String}
    (h : Path.startsBlank (Path.normalize path) = true
      ∨ Path.endsBlank path = true ∧ Path.onlyBlanks path = false) :
    ∃ w, seen (ls (Memory.operator name root) path false) w
      ≠ seen (ls (Memory.operator name root) (Path.normalize path) false) w := by
  -- the only file is in the directory of the canonical form and has neither of the two paths
  obtain ⟨w, hw⟩ : ∃ w : World (Table Bytes), w.service
      = oneFile root (Path.normalize (Path.asDir (Path.normalize path)))
          (Path.weight (Path.normalize path).toList + 1) := ⟨{ service := _ }, rfl⟩
  have hspelled : isThere root path w.service = false := by
    rw [hw]
    exact isThere_oneFile (Nat.lt_succ_self _)
  have hcanonical : isThere root (Path.normalize path) w.service = false := by
    rw [hw]
    exact isThere_oneFile (Nat.lt_succ_of_le (Path.weight_normalize_le _))
  have hnone : lines root (Path.normalize (Path.asDir path)) w.service = [] := by
    rw [hw]
    exact lines_oneFile_of_lt (Path.isDir_normalize (Path.isDir_asDir path))
      (Path.weight_asDir_lt h) _
  have hsome : lines root (Path.normalize (Path.asDir (Path.normalize path))) w.service ≠ [] := by
    rw [hw]
    exact lines_oneFile root _ _
  refine ⟨w, fun halike => ?_⟩
  have hprinted := congrArg (fun seen => seen.2.2) halike
  rw [seen, seen, ls_direct name root hspelled, ls_direct name root hcanonical, hnone] at hprinted
  exact output_printing_ne w hsome hprinted.symm

/-- **A listing of a spelling is seen as one of its canonical form** just if the canonical form does
not begin with a blank, and no blank ends the spelling unless it has nothing but blanks. -/
theorem ls_alike_iff (name root path : String) :
    (∀ recursive w, seen (ls (Memory.operator name root) path recursive) w
        = seen (ls (Memory.operator name root) (Path.normalize path) recursive) w)
      ↔ Path.startsBlank (Path.normalize path) = false
        ∧ (Path.endsBlank path = true → Path.onlyBlanks path = true) := by
  constructor
  · intro halike
    have hgood : ¬(Path.startsBlank (Path.normalize path) = true
        ∨ Path.endsBlank path = true ∧ Path.onlyBlanks path = false) := by
      intro hbad
      obtain ⟨w, hne⟩ := exists_ls_ne name root hbad
      exact hne (halike false w)
    refine ⟨Bool.eq_false_iff.2 fun hstarts => hgood (.inl hstarts), fun hends => ?_⟩
    cases hall : Path.onlyBlanks path with
    | true => rfl
    | false => exact absurd (.inr ⟨hends, hall⟩) hgood
  · rintro ⟨hstarts, hends⟩ recursive w
    have hself := Path.normalize_normalize_iff.2 hstarts
    have hdir : Path.normalize (Path.asDir (Path.normalize path))
        = Path.asDir (Path.normalize path) := by
      rw [Path.normalize_asDir, hself]
      intro hblank
      rw [Path.endsBlank_normalize] at hblank
      cases hblank
    rw [seen, seen, ls_congr name root hself.symm]
    rw [hdir, Path.normalize_asDir hends]

end

/-! ### Copies -/

section

variable {root src : String} {w : World (Table Bytes)} {data : Bytes}

theorem cp_memory (name dst : String) (hfile : Path.isDir (Path.normalize src) = false)
    (hvalue : Memory.value (Path.normalizeRoot root) src w.service = some data)
    (hsize : data.length < UInt64.size) :
    (Path.isDir (landing src dst) = true → ∃ f,
        cp (Memory.operator name root) src (Memory.operator name root) dst w = (.error f, w))
      ∧ (Path.isDir (landing src dst) = false → ∃ events,
          cp (Memory.operator name root) src (Memory.operator name root) dst w
            = (.ok (), { w with
                service := w.service.insert
                  (Path.key (Path.normalizeRoot root) (landing src dst)) data
                events })) := by
  have hread := Memory.read_file name (Path.normalizeRoot root) .async src w hfile hvalue .full
  rw [ByteRange.cut_full hsize] at hread
  have hpath := normalize_destination hfile dst
  constructor
  · intro hdir
    rw [← hpath] at hdir
    obtain ⟨e, -, hwrite⟩ :=
      Memory.write_dir name (Path.normalizeRoot root) .async _ w hdir data
    exact ⟨_, cp_of_unwritten hfile hread hwrite⟩
  · intro hland
    rw [← hpath] at hland ⊢
    have hwrite := Memory.write_file name (Path.normalizeRoot root) .async _ w hland data
    exact ⟨_, cp_of_written hfile hread hwrite⟩

end

/-- Where there is one value, to put it under two keys gives the same only if these are one. -/
theorem key_of_insert_eq {α : Type} {k a b : String} {v : α}
    (h : (Table.empty.insert k v).insert a v = (Table.empty.insert k v).insert b v) : a = b := by
  have hat (key : String) : (if key = a then some v else if key = k then some v else none)
      = if key = b then some v else if key = k then some v else none := by
    have hget := congrArg (Table.get? · key) h
    simp only [Table.get?_insert] at hget
    exact hget
  have ha := hat a
  have hb := hat b
  rw [if_pos rfl] at ha hb
  by_cases hab : a = b
  · exact hab
  · rw [if_neg hab] at ha
    rw [if_neg (Ne.symm hab)] at hb
    have hak : a = k := by
      by_cases hak : a = k
      · exact hak
      · rw [if_neg hak] at ha
        cases ha
    have hbk : b = k := by
      by_cases hbk : b = k
      · exact hbk
      · rw [if_neg hbk] at hb
        cases hb
    exact hak.trans hbk.symm

/-- **Copies of one file that are seen alike land at the same place**, or both on directories. -/
theorem landing_of_seen {name root dst dst' : String}
    (h : ∀ src w, seen (cp (Memory.operator name root) src (Memory.operator name root) dst) w
      = seen (cp (Memory.operator name root) src (Memory.operator name root) dst') w) :
    (Path.isDir (landing "s" dst) = true ∧ Path.isDir (landing "s" dst') = true)
      ∨ landing "s" dst = landing "s" dst' := by
  have hfile : Path.isDir (Path.normalize "s") = false := by decide
  have hnormal : Path.normalize "s" = "s" := by decide
  obtain ⟨w, hw⟩ : ∃ w : World (Table Bytes), w.service
      = Table.empty.insert (Path.key (Path.normalizeRoot root) "s") [] := ⟨{ service := _ }, rfl⟩
  have hvalue : Memory.value (Path.normalizeRoot root) "s" w.service = some [] := by
    rw [Memory.value, hnormal, hw, Table.get?_insert, if_pos rfl]
  have hne (dst : String) : landing "s" dst ≠ "" := by
    rw [← normalize_destination hfile]
    exact Path.normalize_ne_empty _
  obtain ⟨hfails, hwrites⟩ := cp_memory name dst hfile hvalue (by decide)
  obtain ⟨hfails', hwrites'⟩ := cp_memory name dst' hfile hvalue (by decide)
  have hends := congrArg (fun seen => seen.1) (h "s" w)
  have hleaves := congrArg (fun seen => seen.2.1) (h "s" w)
  dsimp only [seen] at hends hleaves
  cases hland : Path.isDir (landing "s" dst) with
  | true =>
    cases hland' : Path.isDir (landing "s" dst') with
    | true => exact .inl ⟨rfl, rfl⟩
    | false =>
      obtain ⟨f, hcp⟩ := hfails hland
      obtain ⟨events, hcp'⟩ := hwrites' hland'
      rw [hcp, hcp'] at hends
      cases hends
  | false =>
    obtain ⟨events, hcp⟩ := hwrites hland
    cases hland' : Path.isDir (landing "s" dst') with
    | true =>
      obtain ⟨f, hcp'⟩ := hfails' hland'
      rw [hcp, hcp'] at hends
      cases hends
    | false =>
      obtain ⟨events', hcp'⟩ := hwrites' hland'
      rw [hcp, hcp', hw] at hleaves
      exact .inr (Path.key_injective (hne dst) (hne dst') (key_of_insert_eq hleaves))

/-- Where a file lands alike, the canonical form is that of itself, and is that of a directory only
if the spelling is. -/
theorem canonical_of_landing {path : String}
    (h : (Path.isDir (landing "s" path) = true
        ∧ Path.isDir (landing "s" (Path.normalize path)) = true)
      ∨ landing "s" path = landing "s" (Path.normalize path)) :
    Path.normalize (Path.normalize path) = Path.normalize path
      ∧ (Path.isDir (Path.normalize path) = true → Path.isDir path = true) := by
  have hname : Path.name (Path.normalize "s") = "s" := by decide
  have hfile (dir : String) : Path.isDir (Path.inside dir ++ "s") = false :=
    Children.isDir_append_file _ (by decide) (by decide)
  rw [landing, landing, hname] at h
  cases hdir : Path.isDir path with
  | true =>
    have hnormal := Path.isDir_normalize hdir
    rw [hdir, hnormal, if_pos rfl, if_pos rfl, hfile] at h
    obtain ⟨h, -⟩ | hsame := h
    · cases h
    · have hinside := (String.append_left_inj _).1 hsame
      exact ⟨Path.inside_injective (Path.normalize_ne_empty _) (Path.normalize_ne_empty _)
        hinside.symm, fun _ => rfl⟩
  | false =>
    rw [hdir, if_neg Bool.false_ne_true] at h
    cases hnormal : Path.isDir (Path.normalize path) with
    | true =>
      rw [hnormal, if_pos rfl, hfile] at h
      obtain ⟨-, h⟩ | hsame := h
      · cases h
      · rw [hsame, hfile] at hnormal
        cases hnormal
    | false =>
      rw [hnormal, if_neg Bool.false_ne_true] at h
      obtain ⟨h, -⟩ | hsame := h
      · cases h
      · exact ⟨hsame.symm, fun h => h⟩

/-- **A copy to a spelling is seen as one to its canonical form** just if the canonical form does
not begin with a blank, and is that of a directory only if the spelling is. -/
theorem cp_alike_iff (name root path : String) :
    (∀ (srcOp : Operator (Table Bytes) Cursor Page) src w,
        seen (cp srcOp src (Memory.operator name root) path) w
          = seen (cp srcOp src (Memory.operator name root) (Path.normalize path)) w)
      ↔ Path.startsBlank (Path.normalize path) = false
        ∧ (Path.isDir (Path.normalize path) = true → Path.isDir path = true) := by
  rw [← Path.normalize_normalize_iff]
  constructor
  · intro halike
    exact canonical_of_landing (landing_of_seen (halike (Memory.operator name root)))
  · rintro ⟨hself, hdir⟩ srcOp src w
    refine seen_cp_congr w fun hfile => ?_
    have hsame : Path.isDir (Path.normalize path) = Path.isDir path := by
      cases hpath : Path.isDir path with
      | true => exact Path.isDir_normalize hpath
      | false =>
        rw [Bool.eq_false_iff]
        intro hnormal
        rw [hdir hnormal] at hpath
        cases hpath
    have hlanding := normalize_destination hfile path
    have hlanding' := normalize_destination hfile (Path.normalize path)
    refine hlanding.trans (Eq.trans ?_ hlanding'.symm)
    rw [landing, landing, hsame, hself]

/-- **What a user sees of commands on a spelling and on its canonical form.**  Of a memory service,
to create a directory is seen alike in every state.  Listings are seen alike just if the canonical
form does not begin with a blank, and no blank ends the spelling unless it has nothing but blanks.
Copies are seen alike just if the canonical form does not begin with a blank, and is that of a
directory only if the spelling is. -/
theorem spelling_exact (name root path : String) :
    let op := Memory.operator name root
    let canonical := Path.normalize path
    (∀ w, seen (mkdir op path) w = seen (mkdir op canonical) w)
      ∧ ((∀ recursive w, seen (ls op path recursive) w = seen (ls op canonical recursive) w)
          ↔ Path.startsBlank canonical = false
            ∧ (Path.endsBlank path = true → Path.onlyBlanks path = true))
      ∧ ((∀ (srcOp : Operator (Table Bytes) Cursor Page) src w,
            seen (cp srcOp src op path) w = seen (cp srcOp src op canonical) w)
          ↔ Path.startsBlank canonical = false
            ∧ (Path.isDir canonical = true → Path.isDir path = true)) := by
  intro op canonical
  refine ⟨fun w => ?_, ls_alike_iff name root path, cp_alike_iff name root path⟩
  rw [seen, seen, mkdir_apply, mkdir_apply]

/-- A table with a file in a directory. -/
def oneNested : World (Table Bytes) := { service := Table.empty.insert "a/x" [120] }

/-- With a blank at its end the spelling of a directory shows nothing, and the root cannot be
spelled as nothing in a copy. -/
theorem blankEnd_not_alike :
    let op := Memory.operator "" "/"
    (seen (ls op "a " false) oneNested).2.2 = []
      ∧ (seen (ls op (Path.normalize "a ") false) oneNested).2.2 = Text.utf8 "a/x\n"
      ∧ (∃ f, (seen (cp op "a/x" op "") oneNested).1 = .error f)
      ∧ (seen (cp op "a/x" op (Path.normalize "")) oneNested).1 = .ok () := by
  intro op
  have hnone : lines "/" (Path.normalize (Path.asDir "a ")) oneNested.service = [] := by
    decide +kernel
  have hfile : lines "/" (Path.normalize (Path.asDir (Path.normalize "a "))) oneNested.service
      = ["a/x"] := by decide +kernel
  have hvalue : Memory.value (Path.normalizeRoot "/") "a/x" oneNested.service = some [120] := by
    decide +kernel
  obtain ⟨hfails, -⟩ := cp_memory "" "" (by decide) hvalue (by decide)
  obtain ⟨-, hwrites⟩ := cp_memory "" (Path.normalize "") (by decide) hvalue (by decide)
  obtain ⟨f, hfailed⟩ := hfails (by decide +kernel)
  obtain ⟨events, hwritten⟩ := hwrites (by decide +kernel)
  refine ⟨?_, ?_, ⟨f, ?_⟩, ?_⟩
  · rw [seen, ls_direct "" "/" (by decide +kernel), hnone]
    rfl
  · rw [seen, ls_direct "" "/" (by decide +kernel), hfile]
    decide +kernel
  · rw [seen, hfailed]
  · rw [seen, hwritten]

end ObjectStorage.Command
