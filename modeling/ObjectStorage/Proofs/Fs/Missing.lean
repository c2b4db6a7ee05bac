import ObjectStorage.Fs.Service
import ObjectStorage.Lister
import ObjectStorage.Proofs.FileTree.Walk
import ObjectStorage.Proofs.Operator

/-!
# What is missing in a local file system

Where nothing is, there are two answers of the operating system: a name is missing, or a regular
file stands where a directory should be.  The service takes the first one as the answer that the
object is missing, and the second one as an unexpected failure.

* `Fs.SeenMissing` — an object that every operation sees as missing;
* `Fs.SeenInTheWay` — an object at which every operation fails;
* `Fs.seenMissing_of_notFound`, `Fs.seenInTheWay_of_notADirectory` — the two answers;
* `Fs.missing_unless_blocked` — which of them is given where nothing is.
-/

namespace ObjectStorage.Fs

variable {root path : String} {w : World FileTree}

/-- The object at a path of the service below a root. -/
def object (root path : String) : Object FileTree OpenFile DirStream :=
  (Operator.finished (service root)).object path

/-- Where the object at a path is in the file tree. -/
def location (root path : String) : String := Path.underRoot root (Path.normalize path)

/-- Every operation sees the object as missing, and changes nothing. -/
structure SeenMissing (o : Object FileTree OpenFile DirStream) (w : World FileTree) : Prop where
  exist (form : Form) : o.exists form w = (.ok false, w)
  delete (form : Form) : o.delete form w = (.ok (), w)
  list (form : Form) (hdir : o.isDir = true) : ∃ lister, o.list form w = (.ok lister, w)
    ∧ lister.toList o.operator.service form w = (.ok [], w)

/-- The operation fails because a component of the path is no directory, and changes nothing. -/
def FailsInTheWay {α : Type} (x : Run FileTree α) (w : World FileTree) : Prop :=
  ∃ e, x w = (.error (.failed e), w) ∧ e.kind = .unexpected ∧ e.source = .io .notADirectory

/-- Every operation fails because a component of the path is no directory. -/
structure SeenInTheWay (o : Object FileTree OpenFile DirStream) (w : World FileTree) : Prop where
  exist (form : Form) : FailsInTheWay (o.exists form) w
  delete (form : Form) : FailsInTheWay (o.delete form) w
  list (form : Form) (hdir : o.isDir = true) : FailsInTheWay (o.list form) w

section

variable {e : IoError} (hnode : w.service.node (location root path) = .error e)
include hnode

theorem call_stat (form : Form) :
    (service root).call form (Path.normalize path) .stat w.service
      = (.error (.ofIo e), w.service) := by
  dsimp only [service]
  rw [← location, hnode]
  rfl

theorem call_delete (form : Form) :
    (service root).call form (Path.normalize path) .delete w.service
      = (if e.kind = .notFound then .ok () else .error (.ofIo e), w.service) := by
  dsimp only [service]
  rw [deleteObject, ← location, hnode]
  dsimp only
  split <;> rfl

theorem call_list (form : Form) :
    (service root).call form (Path.normalize path) .list w.service
      = (if e.kind = .notFound then .ok [] else .error (.ofIo e), w.service) := by
  have hread : w.service.readDir (location root path) = .error e := by
    rw [FileTree.readDir, hnode]
    rfl
  dsimp only [service]
  rw [listObject, ← location, hread]

end

theorem pager_apply (hdir : (object root path).isDir = true) (form : Form) :
    (object root path).pager form w
      = (Operator.finished (service root)).call form (Path.normalize path) .list w := by
  rw [Object.pager_of_dir hdir]
  rfl

/-- **A name is missing**: so is the object, for every operation. -/
theorem seenMissing_of_notFound
    (hnode : w.service.node (location root path) = .error .notFound) :
    SeenMissing (object root path) w where
  exist form :=
    Object.exists_of_missing (Operator.call_of_error (call_stat hnode form))
      (Operator.kind_callError ..)
  delete form := by
    have hdelete := call_delete hnode form
    rw [if_pos (by rfl)] at hdelete
    exact Operator.call_of_ok hdelete
  list form hdir := by
    have hlist := call_list hnode form
    rw [if_pos (by rfl)] at hlist
    refine ⟨_, Run.bind_of_ok ((pager_apply hdir form).trans (Operator.call_of_ok hlist)), ?_⟩
    -- the first page that is asked for is the end already
    cases form <;> rfl

/-- **A component is no directory**: every operation fails. -/
theorem seenInTheWay_of_notADirectory
    (hnode : w.service.node (location root path) = .error .notADirectory) :
    SeenInTheWay (object root path) w where
  exist form := by
    have hstat := Operator.call_of_error (call_stat hnode form)
    refine ⟨_, Object.exists_of_failed hstat ?_, Operator.kind_callError ..,
      Operator.source_callError ..⟩
    rw [Operator.kind_callError]
    intro h
    cases h
  delete form := by
    have hdelete := call_delete hnode form
    rw [if_neg (by decide)] at hdelete
    exact ⟨_, Operator.call_of_error hdelete, Operator.kind_callError ..,
      Operator.source_callError ..⟩
  list form hdir := by
    have hlist := call_list hnode form
    rw [if_neg (by decide)] at hlist
    exact ⟨_, Run.bind_of_error ((pager_apply hdir form).trans (Operator.call_of_error hlist)),
      Operator.kind_callError .., Operator.source_callError ..⟩

/-- **Where nothing is**, in a tree of directories and regular files, an object is seen as missing
by every operation if no regular file is in the way of its path, a slash at the end included.  If
one is, every operation fails. -/
theorem missing_unless_blocked (root path : String) (w : World FileTree)
    (htree : w.service.Plain) (hpath : FileTree.Admissible (location root path))
    (hmissing : ∀ q n, w.service.node (location root path) ≠ .ok (q, n)) :
    (¬w.service.Blocked (location root path) → SeenMissing (object root path) w)
      ∧ (w.service.Blocked (location root path) → SeenInTheWay (object root path) w) := by
  constructor
  · intro hfree
    exact seenMissing_of_notFound (FileTree.node_of_free_way htree hpath hfree hmissing)
  · intro hblocked
    exact seenInTheWay_of_notADirectory (FileTree.node_of_blocked htree hpath hblocked)

/-! ### A tree with one file -/

/-- A tree with the one file `f` in the directory `r`. -/
def oneFile : FileTree :=
  { root := .dir ⟨0, 0⟩ [("r", .dir ⟨0, 0⟩ [("f", .file 0)])], files := [⟨[120], ⟨0, 0⟩⟩] }

theorem plain_oneFile : oneFile.Plain where
  nodes := by
    refine .dir _ _ fun entry hentry => ?_
    rw [List.mem_singleton.1 hentry]
    refine .dir _ _ fun entry hentry => ?_
    rw [List.mem_singleton.1 hentry]
    exact .file 0
  root := rfl

section

variable (follow : Bool) (rest : List String)

theorem walk_oneFile_file :
    oneFile.walk follow FileTree.maxLinks [] ("r" :: "f" :: rest)
      = if rest = [] then .ok (.node ["r", "f"] (.file 0)) else .error .notADirectory := by
  rw [FileTree.walk_dir ⟨by decide, by decide, by rfl⟩ _ (by rfl),
    FileTree.walk_file ⟨by decide, by decide, by rfl⟩ _ (by rfl)]
  rfl

theorem walk_oneFile_missing :
    oneFile.walk follow FileTree.maxLinks [] ("r" :: "g" :: rest)
      = if rest = [] then .ok (.free ["r"] "g") else .error .notFound := by
  rw [FileTree.walk_dir ⟨by decide, by decide, by rfl⟩ _ (by rfl),
    FileTree.walk_missing ⟨by decide, by decide, by rfl⟩ _ (by rfl)]
  rfl

end

theorem location_file : location "/r/" "f/" = "/r/f/" := by decide +kernel

theorem location_missing : location "/r/" "g/" = "/r/g/" := by decide +kernel

theorem names_file : FileTree.names "/r/f/" = ["r", "f", "."] := by decide +kernel

theorem names_missing : FileTree.names "/r/g/" = ["r", "g", "."] := by decide +kernel

theorem admissible_file : FileTree.Admissible (location "/r/" "f/") := by
  rw [location_file]
  refine ⟨by decide +kernel, by decide +kernel, by decide +kernel, ?_⟩
  rw [names_file]
  decide +kernel

theorem admissible_missing : FileTree.Admissible (location "/r/" "g/") := by
  rw [location_missing]
  refine ⟨by decide +kernel, by decide +kernel, by decide +kernel, ?_⟩
  rw [names_missing]
  decide +kernel

/-- The file `f` is in the way of the path `f/`. -/
theorem blocked_file : oneFile.Blocked (location "/r/" "f/") := by
  rw [location_file]
  refine ⟨["r", "f"], ["."], ["r", "f"], 0, names_file, List.cons_ne_nil _ _, ?_⟩
  exact walk_oneFile_file true []

theorem node_file : oneFile.node (location "/r/" "f/") = .error .notADirectory :=
  FileTree.node_of_blocked plain_oneFile admissible_file blocked_file

theorem node_missing : oneFile.node (location "/r/" "g/") = .error .notFound := by
  rw [FileTree.node, FileTree.find_eq admissible_missing, location_missing, names_missing,
    walk_oneFile_missing]
  rfl

theorem free_missing : ¬oneFile.Blocked (location "/r/" "g/") := by
  intro h
  have hnode := FileTree.node_of_blocked plain_oneFile admissible_missing h
  rw [node_missing] at hnode
  cases congrArg IoError.kind (Except.error.inj hnode)

/-- Both answers, in the tree with one file. -/
theorem missing_unless_blocked_oneFile :
    SeenMissing (object "/r/" "g/") { service := oneFile }
      ∧ SeenInTheWay (object "/r/" "f/") { service := oneFile } := by
  constructor
  · refine (missing_unless_blocked "/r/" "g/" { service := oneFile } plain_oneFile
      admissible_missing ?_).1 free_missing
    intro q n h
    cases node_missing.symm.trans h
  · refine (missing_unless_blocked "/r/" "f/" { service := oneFile } plain_oneFile
      admissible_file ?_).2 blocked_file
    intro q n h
    cases node_file.symm.trans h

/-- The file `f` as a directory: nothing is there, but no operation takes it as missing. -/
theorem fileAsDir_not_missing :
    oneFile.Plain ∧ FileTree.Admissible (location "/r/" "f/")
      ∧ (∀ q n, oneFile.node (location "/r/" "f/") ≠ .ok (q, n))
      ∧ ∀ form, (object "/r/" "f/").exists form { service := oneFile }
            ≠ (.ok false, { service := oneFile })
          ∧ (object "/r/" "f/").delete form { service := oneFile }
            ≠ (.ok (), { service := oneFile })
          ∧ ∀ lister w, (object "/r/" "f/").list form { service := oneFile } ≠ (.ok lister, w) := by
  refine ⟨plain_oneFile, admissible_file, ?_, fun form => ⟨?_, ?_, ?_⟩⟩
  · intro q n h
    cases node_file.symm.trans h
  all_goals have htold := seenInTheWay_of_notADirectory (w := { service := oneFile }) node_file
  · obtain ⟨e, hexists, -⟩ := htold.exist form
    intro h
    cases hexists.symm.trans h
  · obtain ⟨e, hdelete, -⟩ := htold.delete form
    intro h
    cases hdelete.symm.trans h
  · intro lister w h
    obtain ⟨e, hlist, -⟩ := htold.list form (by decide +kernel)
    cases hlist.symm.trans h

end ObjectStorage.Fs
