import ObjectStorage.Command
import ObjectStorage.Proofs.Memory.Tree

/-!
# Recursive listings

A listing of a directory on the command line prints what the directory shows.  If it is recursive it
goes on with the directories that it has printed, the last one first, and ends when none is left.
Of the memory service it prints everything below the directory once, a directory before what lies
below it, and it is at an end as soon as it has listed the first directory and all those that it
has printed.

* `World.printing` — the world after lines were printed;
* `Command.Walked` — the directories that wait are listed one after the other until none is left;
* `Command.walk_of_walked` — a bound on their number makes no difference;
* `Command.walked_all` — a recursive listing, from what every directory of it prints;
* `Command.prints_shownWithin` — what a directory of the memory service prints;
* `Command.ls_exact` — what a listing prints, recursive or not.
-/

namespace ObjectStorage

/-- The world after lines were printed. -/
def World.printing {σ : Type} (w : World σ) (lines : List String) : World σ :=
  { w with printed := (lines.map fun line => Text.utf8 (line ++ "\n")).reverse ++ w.printed }

namespace Command

section

variable {σ ρ π : Type}

theorem printing_append (w : World σ) (lines more : List String) :
    w.printing (lines ++ more) = (w.printing lines).printing more := by
  simp only [World.printing, List.map_append, List.reverse_append, List.append_assoc]

/-! ### The loop of a listing -/

/-- List one directory: its children are printed and returned. -/
def listed (op : Operator σ ρ π) (dir : Object σ ρ π) : Command σ (List (Object σ ρ π)) := do
  let lister ← ofRun (dir.list .async)
  let items ← ofRun (lister.toList op.service .async)
  printChildren op items

/-- The directories that are listed after one with these children. -/
def next (recursive : Bool) (children waiting : List (Object σ ρ π)) : List (Object σ ρ π) :=
  (if recursive then children.filter (·.isDir) else []).reverse ++ waiting

theorem walk_succ (op : Operator σ ρ π) (recursive : Bool) (fuel : Nat) (dir : Object σ ρ π)
    (waiting : List (Object σ ρ π)) :
    walk op recursive (fuel + 1) (dir :: waiting)
      = listed op dir >>= fun children =>
          walk op recursive fuel (next recursive children waiting) := by
  simp only [walk, listed, next, bind_assoc]

/-- Directories are listed, one after the other, until none is left: `n` directories in all. -/
inductive Walked (op : Operator σ ρ π) (recursive : Bool) :
    Nat → List (Object σ ρ π) → World σ → World σ → Prop
  | done (w : World σ) : Walked op recursive 0 [] w w
  | list {n : Nat} {dir : Object σ ρ π} {waiting children : List (Object σ ρ π)}
      {w w' w'' : World σ} (hlisted : listed op dir w = (.ok children, w'))
      (h : Walked op recursive n (next recursive children waiting) w' w'') :
      Walked op recursive (n + 1) (dir :: waiting) w w''

/-- **A bound makes no difference** if it is at least the number of directories. -/
theorem walk_of_walked {op : Operator σ ρ π} {recursive : Bool} {n : Nat}
    {dirs : List (Object σ ρ π)} {w w' : World σ} (h : Walked op recursive n dirs w w') {fuel : Nat}
    (hfuel : n ≤ fuel) : walk op recursive fuel dirs w = (.ok (), w') := by
  induction h generalizing fuel with
  | done w => cases fuel <;> rfl
  | list hlisted h ih =>
    obtain ⟨fuel, rfl⟩ := Nat.exists_eq_add_one_of_ne_zero
      (Nat.ne_of_gt (Nat.lt_of_lt_of_le (Nat.succ_pos _) hfuel))
    rw [walk_succ, bind_of_ok hlisted]
    exact ih (Nat.le_of_succ_le_succ hfuel)

/-- A recursive listing prints these lines for a directory before it goes on with those that wait,
and lists the directory and those that are among the lines. -/
def Prints (op : Operator σ ρ π) (state : σ) (dir : String) (lines : List String) :
    Prop :=
  ∀ {w w' : World σ} {n : Nat} {waiting : List (Object σ ρ π)}, w.service = state →
    Walked op true n waiting (w.printing lines) w' →
    Walked op true (n + (lines.countP Path.isDir + 1)) (op.object dir :: waiting) w w'

/-- Directories that wait are done with one after the other, by induction on their list. -/
theorem walked_all {op : Operator σ ρ π} {state : σ} {lines : String → List String}
    {dirs : List String} (hdirs : ∀ dir ∈ dirs, Prints op state dir (lines dir)) {w w' : World σ}
    {n : Nat} {waiting : List (Object σ ρ π)} (hw : w.service = state)
    (hwaiting : Walked op true n waiting (w.printing (dirs.flatMap lines)) w') :
    Walked op true (n + ((dirs.flatMap lines).countP Path.isDir + dirs.length))
      (dirs.map op.object ++ waiting) w w' := by
  induction dirs generalizing w with
  | nil => exact hwaiting
  | cons dir dirs ih =>
    rw [List.flatMap_cons, printing_append] at hwaiting
    have hrest := ih (fun dir hmem => hdirs dir (List.mem_cons_of_mem _ hmem))
      (w := w.printing (lines dir)) hw hwaiting
    have hcount : n + ((dirs.flatMap lines).countP Path.isDir + dirs.length)
          + ((lines dir).countP Path.isDir + 1)
        = n + (((dir :: dirs).flatMap lines).countP Path.isDir + (dir :: dirs).length) := by
      rw [List.flatMap_cons, List.countP_append, List.length_cons]
      omega
    rw [← hcount]
    exact hdirs dir List.mem_cons_self hw hrest

theorem printChildren_ok (op : Operator σ ρ π) (entries : List Entry) (w : World σ) :
    printChildren op (entries.map .ok) w
      = (.ok (entries.map fun e => op.object e.path),
        w.printing (entries.map fun e => (op.object e.path).path)) := by
  induction entries generalizing w with
  | nil => rfl
  | cons e entries ih =>
    have hprint : printLine (op.object e.path).path w
        = (.ok (), w.printing [(op.object e.path).path]) := rfl
    rw [List.map_cons, printChildren, bind_of_ok hprint, bind_of_ok (ih _), ← printing_append]
    rfl

/-- What `ls` does with the path of a directory. -/
theorem ls_of_isDir (op : Operator σ ρ π) {dir : String} (hdir : Path.isDir dir = true)
    (recursive : Bool) (w : World σ) :
    ls op dir recursive w = walk op recursive (op.dirsAtMost w.service) [op.object dir] w := by
  have hgiven : (Path.isDir dir || dir = "") = true := by
    rw [hdir]
    rfl
  have hstate : ofRun Run.getService w = (.ok w.service, w) := rfl
  have hasDir : Path.asDir dir = dir := if_pos hdir
  rw [ls, if_pos hgiven, pure_bind]
  dsimp only
  rw [if_neg Bool.false_ne_true, bind_of_ok hstate, hasDir]

end

/-! ### Listings of the memory service -/

/-- To list a directory prints the paths of its page, as objects have them. -/
theorem listed_apply (name root : String) {dir : String}
    (hdir : Path.isDir (Path.normalize dir) = true) (w : World (Table Bytes)) :
    listed (Memory.operator name root) ((Memory.operator name root).object dir) w
      = (.ok ((Memory.page (Path.normalizeRoot root) (Path.normalize dir) w.service).map
            fun e => (Memory.operator name root).object e.path),
          w.printing ((Memory.page (Path.normalizeRoot root) (Path.normalize dir) w.service).map
            fun e => Path.normalize e.path)) := by
  have hlist := Memory.list_apply name (Path.normalizeRoot root) .async dir w hdir
  have hitems := Memory.toList_page name (Path.normalizeRoot root) .async (Path.normalize dir) w
    (Memory.page (Path.normalizeRoot root) (Path.normalize dir) w.service)
  rw [listed]
  exact (bind_of_ok (ofRun_of_ok hlist)).trans
    ((bind_of_ok (ofRun_of_ok hitems)).trans (printChildren_ok _ _ w))

section

variable (name : String) {root : String} {t : Table Bytes} {m : FileMap}
  (h : Memory.Mirrors (Path.normalizeRoot root) t m)
  (hfixed : ∀ path content, m path = some content → Path.normalize path = path)
include h hfixed

/-- An object has the path that a directory shows it under. -/
theorem object_path_of_mem_shown {dir path : String} (hdir : Path.isDir dir = true)
    (hpath : path ∈ Memory.shown (Path.normalizeRoot root) t dir) :
    ((Memory.operator name root).object path).path = path :=
  ((h.mem_shown_iff hdir path).1 hpath).1.normalize_eq h.files hfixed

/-- To list a directory prints what it shows. -/
theorem listed_shown {dir : String} (hdir : Path.isDir dir = true)
    (hself : Path.normalize dir = dir) {w : World (Table Bytes)} (hw : w.service = t) :
    listed (Memory.operator name root) ((Memory.operator name root).object dir) w
      = (.ok
          ((Memory.shown (Path.normalizeRoot root) t dir).map (Memory.operator name root).object),
        w.printing (Memory.shown (Path.normalizeRoot root) t dir)) := by
  have hlisted := listed_apply name root (hself.symm ▸ hdir) w
  have hpaths : (Memory.page (Path.normalizeRoot root) dir t).map (fun e => Path.normalize e.path)
      = Memory.shown (Path.normalizeRoot root) t dir := by
    refine List.map_congr_left fun e he => ?_
    exact object_path_of_mem_shown name h hfixed hdir (List.mem_map_of_mem he)
  rw [hself, hw, hpaths] at hlisted
  rw [hlisted, Memory.shown, List.map_map]
  rfl

/-- The directories among what a directory shows. -/
theorem filter_isDir_shown {dir : String} (hdir : Path.isDir dir = true) :
    ((Memory.shown (Path.normalizeRoot root) t dir).map (Memory.operator name root).object).filter
        (·.isDir)
      = ((Memory.shown (Path.normalizeRoot root) t dir).filter Path.isDir).map
        (Memory.operator name root).object := by
  have hkept : (Memory.shown (Path.normalizeRoot root) t dir).filter
      (fun path => ((Memory.operator name root).object path).isDir)
        = (Memory.shown (Path.normalizeRoot root) t dir).filter Path.isDir := by
    refine List.filter_congr fun path hpath => ?_
    rw [Object.isDir, object_path_of_mem_shown name h hfixed hdir hpath]
  rw [← hkept]
  exact List.filter_map ..

/-- **A recursive listing prints everything below a directory**, by induction on how deep it is. -/
theorem prints_shownWithin {depth : Nat} {dir : String} (hdir : Path.isDir dir = true)
    (hself : Path.normalize dir = dir) (hdeep : Memory.Deep m depth dir) :
    Prints (Memory.operator name root) t dir
      (Memory.shownWithin (Path.normalizeRoot root) t depth dir) := by
  induction depth generalizing dir with
  | zero =>
    intro w w' n waiting hw hwaiting
    have hlisted := listed_shown name h hfixed hdir hself hw
    rw [h.shown_of_deep_zero hdir hdeep] at hlisted
    exact .list hlisted hwaiting
  | succ depth ih =>
    intro w w' n waiting hw hwaiting
    rw [Memory.shownWithin, printing_append] at hwaiting
    have hsubs : ∀ sub ∈ ((Memory.shown (Path.normalizeRoot root) t dir).filter
        Path.isDir).reverse, Prints (Memory.operator name root) t sub
          (Memory.shownWithin (Path.normalizeRoot root) t depth sub) := by
      intro sub hsub
      rw [List.mem_reverse] at hsub
      obtain ⟨hmem, hisDir⟩ := List.mem_filter.1 hsub
      exact ih hisDir (object_path_of_mem_shown name h hfixed hdir hmem)
        (h.deep_of_mem_shown hdir hdeep hsub)
    have hrest := walked_all hsubs (w := w.printing (Memory.shown (Path.normalizeRoot root) t dir))
      hw hwaiting
    have hcount : (Memory.shownWithin (Path.normalizeRoot root) t (depth + 1) dir).countP Path.isDir
        = ((((Memory.shown (Path.normalizeRoot root) t dir).filter Path.isDir).reverse.flatMap
            (Memory.shownWithin (Path.normalizeRoot root) t depth)).countP Path.isDir
          + ((Memory.shown (Path.normalizeRoot root) t dir).filter Path.isDir).reverse.length) := by
      rw [Memory.shownWithin, List.countP_append, List.length_reverse,
        ← List.countP_eq_length_filter, Nat.add_comm]
    rw [hcount, ← Nat.add_assoc]
    refine .list (listed_shown name h hfixed hdir hself hw) ?_
    rw [next, if_pos rfl, filter_isDir_shown name h hfixed hdir, ← List.map_reverse]
    exact hrest

end

/-- **A recursive listing is complete, without repetitions and comes to an end.**  After requests to
a fresh memory service that leave files under paths which are their own canonical form, a recursive
listing of such a directory comes to an end without an error.  It prints just the files below the
directory and the directories on the way to them, each once and a directory before what lies below
it.  A listing that is not recursive prints just those whose parent is the directory, in the order
of their bytes. -/
theorem ls_exact (name root : String) (w : World (Table Bytes)) (requests : List Request)
    (hfixed : ∀ path content, (FileMap.empty.run requests).2 path = some content →
      Path.normalize path = path) (dir : String) (hdir : Path.isDir dir = true)
    (hself : Path.normalize dir = dir) :
    let op := Memory.operator name root
    let after := (op.performAll requests { w with service := .empty }).2
    let files := (FileMap.empty.run requests).2
    ∃ lines direct,
      (∃ n, Walked op true n [op.object dir] after (after.printing lines))
      ∧ ls op dir true after = (.ok (), after.printing lines)
      ∧ (∀ path, path ∈ lines ↔ files.Shows path ∧ Path.Below dir path)
      ∧ lines.Pairwise (fun a b => a ≠ b ∧ (Path.isDir b = true → ¬Path.Below b a))
      ∧ ls op dir false after = (.ok (), after.printing direct)
      ∧ (∀ path, path ∈ direct ↔ files.Shows path ∧ Path.parent path = dir)
      ∧ direct.Pairwise fun a b => Text.utf8 a < Text.utf8 b := by
  intro op after files
  have hmirrors : Memory.Mirrors (Path.normalizeRoot root) after.service files :=
    Memory.mirrors_performAll name (Path.normalizeRoot root) w requests
  have hdeep := hmirrors.deep_dirsAbove dir
  have hmem := hmirrors.mem_shownWithin_iff hdir hdeep
  have hordered := hmirrors.shownWithin_pairwise hdir hdeep
  have hwalked := prints_shownWithin name hmirrors hfixed hdir hself hdeep rfl (.done _)
  have hdirect : Walked op false 1 [op.object dir] after _ :=
    .list (listed_shown name hmirrors hfixed hdir hself rfl) (.done _)
  refine ⟨Memory.shownWithin (Path.normalizeRoot root) after.service
      (Kv.dirsAbove after.service.keys) dir,
    Memory.shown (Path.normalizeRoot root) after.service dir, ⟨_, hwalked⟩, ?_, hmem, hordered, ?_,
    hmirrors.mem_shown_iff hdir, hmirrors.shown_increasing dir⟩
  · rw [ls_of_isDir op hdir]
    have hmost : op.dirsAtMost after.service = Kv.dirsAbove after.service.keys + 1 := rfl
    have hbound := hmirrors.length_le_dirsAbove (hordered.imp And.left)
      fun path hpath => ((hmem path).1 hpath).1
    refine walk_of_walked hwalked ?_
    rw [hmost, Nat.zero_add]
    exact Nat.succ_le_succ (Nat.le_trans List.countP_le_length hbound)
  · rw [ls_of_isDir op hdir]
    exact walk_of_walked hdirect (Nat.le_add_left 1 _)

/-- Files in a directory, in a directory in it, and beside it. -/
def nestedRequests : List Request :=
  [⟨.async, "a/b", .write ⟨[97], by decide⟩⟩, ⟨.blocking, "a/c/d", .write ⟨[98], by decide⟩⟩,
    ⟨.async, "e", .create⟩]

theorem ls_exact_nested :
    (∀ path content, (FileMap.empty.run nestedRequests).2 path = some content →
        Path.normalize path = path)
      ∧ Path.isDir "a/" = true ∧ Path.normalize "a/" = "a/"
      ∧ ∃ lines direct : List String,
        (ls (Memory.operator "" "/") "a/" true
            ((Memory.operator "" "/").performAll nestedRequests { service := .empty }).2).1 = .ok ()
        ∧ "a/b" ∈ lines ∧ "a/c/" ∈ lines ∧ "a/c/d" ∈ lines ∧ "a/" ∉ lines ∧ "e" ∉ lines
        ∧ "a/c/" ∈ direct ∧ "a/c/d" ∉ direct := by
  have hrequests : ∀ r ∈ nestedRequests,
      Path.normalize (Path.normalize r.path) = Path.normalize r.path := by decide
  have hfixed : ∀ path content, (FileMap.empty.run nestedRequests).2 path = some content →
      Path.normalize path = path := by
    intro path content hcontent
    obtain hempty | ⟨r, hr, rfl⟩ := FileMap.exists_request_of_run hcontent
    · cases hempty
    · exact hrequests r hr
  have hdir : Path.isDir "a/" = true := by decide
  have hself : Path.normalize "a/" = "a/" := by decide
  obtain ⟨lines, direct, -, hls, hmem, -, -, hmem', -⟩ :=
    ls_exact "" "/" { service := .empty } nestedRequests hfixed "a/" hdir hself
  have hd : (FileMap.empty.run nestedRequests).2 "a/c/d" = some ⟨[98], by decide⟩ := rfl
  have hc : (FileMap.empty.run nestedRequests).2.Shows "a/c/" :=
    .inr ⟨by decide, _, _, hd, by decide⟩
  refine ⟨hfixed, hdir, hself, lines, direct, by rw [hls], ?_, ?_, ?_, ?_, ?_, ?_, ?_⟩
  · exact (hmem _).2 ⟨.inl ⟨⟨[97], by decide⟩, rfl⟩, by decide, by decide⟩
  · exact (hmem _).2 ⟨hc, by decide, by decide⟩
  · exact (hmem _).2 ⟨.inl ⟨_, hd⟩, by decide, by decide⟩
  · exact fun h => absurd ((hmem _).1 h).2.2 (by decide)
  · exact fun h => absurd ((hmem _).1 h).2.1 (by decide)
  · exact (hmem' _).2 ⟨hc, by decide⟩
  · exact fun h => absurd ((hmem' _).1 h).2 (by decide)

end Command

end ObjectStorage
