import ObjectStorage.Host
import ObjectStorage.Proofs.FileTree.Creation
import ObjectStorage.Proofs.Operator
import ObjectStorage.Proofs.Path.Spelling

/-!
# The root of a service on files

When a service on files is built, the directory that its configuration names is created, and the
service then works below the canonical form of that path.  Both paths have the same segments unless
a blank ends the configured one, which the canonical form loses.  So the service finds its root as
long as the canonical form, which may have one slash more, is not too long for a path.

* `Host.of_buildFs` — what a build does to the files, and the service that it gives;
* `Fs.Config.directory_spec` — the path that is created;
* `FileTree.isDir_iff_of_segments` — two paths with the same segments;
* `Fs.stat_root_iff` — when the service finds a directory at its root;
* `Fs.root_created_iff` — when it is the directory that was created.
-/

namespace ObjectStorage

/-! ### Paths with the same segments -/

namespace FileTree

theorem checkPath_eq_ok_iff {path : String} :
    checkPath path = .ok ()
      ↔ Char.ofNat 0 ∉ path.toList ∧ path.utf8ByteSize < maxPath ∧ path ≠ "" := by
  rw [checkPath]
  split
  · next hnul =>
    refine ⟨fun h => ?_, fun h => absurd (List.contains_iff_mem.1 hnul) h.1⟩
    cases h
  next hnul =>
  split
  · next hlong =>
    refine ⟨fun h => ?_, fun h => absurd h.2.1 (Nat.not_lt.2 hlong)⟩
    cases h
  next hshort =>
  split
  · next hempty =>
    refine ⟨fun h => ?_, fun h => absurd hempty h.2.2⟩
    cases h
  next hne =>
  exact ⟨fun _ => ⟨mt List.contains_iff_mem.2 hnul, Nat.not_le.1 hshort, hne⟩, fun _ => rfl⟩

/-- The canonical form of a root has no character that the path has not, but for slashes: it is
refused only where it has become too long. -/
theorem checkPath_normalizeRoot_iff {path : String} (h : checkPath path = .ok ()) :
    checkPath (Path.normalizeRoot path) = .ok ()
      ↔ (Path.normalizeRoot path).utf8ByteSize < maxPath := by
  obtain ⟨hnul, -, -⟩ := checkPath_eq_ok_iff.1 h
  have hnulRoot : Char.ofNat 0 ∉ (Path.normalizeRoot path).toList := by
    intro hmem
    rw [Path.toList_normalizeRoot] at hmem
    obtain hslash | hpath := Path.mem_of_mem_normalizeRootChars hmem
    · exact absurd hslash (by decide)
    · exact hnul hpath
  have hne : Path.normalizeRoot path ≠ "" := by
    intro hempty
    have hnil := String.toList_eq_nil_iff.2 hempty
    rw [Path.toList_normalizeRoot] at hnil
    exact List.cons_ne_nil _ _ hnil
  rw [checkPath_eq_ok_iff]
  exact ⟨fun h => h.2.1, fun h => ⟨hnulRoot, h, hne⟩⟩

/-- Paths with the same segments lead to the same directory, unless one is refused for its form. -/
theorem isDir_iff_of_segments {t : FileTree} {path path' : String} (hroot : t.IsDirAt [])
    (hsegs : Path.segments path'.toList = Path.segments path.toList)
    (hdir : t.isDir path = true) : t.isDir path' = true ↔ checkPath path' = .ok () := by
  obtain ⟨-, q, n, hleads, hn⟩ := (isDir_iff hroot).1 hdir
  rw [isDir_iff hroot, bareNames, hsegs]
  exact ⟨And.left, fun h => ⟨h, q, n, hleads, hn⟩⟩

end FileTree

/-! ### Building the service -/

namespace Fs

namespace Config

variable {c : Config} {current : Option String} {t t' : FileTree} {dir root given : String}

/-- What is prepared is the directory that the configuration names. -/
theorem of_prepare (h : c.prepare current t = (.ok root, t')) :
    ∃ dir, c.directory current = .ok dir ∧ t.createDirAll dir = (.ok (), t')
      ∧ root = Path.normalizeRoot dir := by
  rw [prepare] at h
  split at h
  · cases h
  · next dir hdir =>
    split at h
    · next t'' hcreated =>
      obtain ⟨hroot, rfl⟩ := Prod.mk.inj h
      exact ⟨dir, hdir, hcreated, (Except.ok.inj hroot).symm⟩
    · cases h

theorem head?_of_isAbsolute (h : FileTree.isAbsolute dir = true) :
    dir.toList.head? = some '/' := by simpa [FileTree.isAbsolute] using h

theorem directory_of_isAbsolute {up : String} (h : FileTree.isAbsolute given = true) :
    directory { root := some given } (some up) = .ok given := congrArg Except.ok (if_pos h)

theorem joined_spec {up : String} (h : FileTree.isAbsolute up = true) (given : String) :
    (joined up given).toList.head? = some '/'
      ∧ Path.endsBlank (joined up given) = Path.endsBlank given := by
  rw [joined]
  split
  · next hgiven => exact ⟨head?_of_isAbsolute hgiven, rfl⟩
  · have hup : (Path.asDir up).toList.head? = some '/' := by
      have hhead := head?_of_isAbsolute h
      rw [Path.asDir]
      split
      · exact hhead
      · rw [String.toList_append, List.head?_append, hhead]
        rfl
    have hlast : (Path.asDir up).toList.getLast? = some '/' := by
      simpa [Path.isDir, Path.endsWithSlash] using Path.isDir_asDir up
    constructor
    · rw [String.toList_append, List.head?_append, hup]
      rfl
    · rw [Path.endsBlank, String.toList_append, List.getLast?_append, hlast, Path.endsBlank]
      cases given.toList.getLast? with
      | none => rfl
      | some c => rfl

/-- **The path of the directory that a configuration names** is absolute, if the current directory
is, and ends with a blank just if the configured root does. -/
theorem directory_spec (hcurrent : ∀ up, current = some up → FileTree.isAbsolute up = true)
    (h : directory { root := some given } current = .ok dir) :
    dir.toList.head? = some '/' ∧ Path.endsBlank dir = Path.endsBlank given := by
  cases current with
  | some up =>
    cases h
    exact joined_spec (hcurrent up rfl) given
  | none =>
    dsimp only [directory] at h
    split at h
    · next hgiven =>
      cases h
      exact ⟨head?_of_isAbsolute hgiven, rfl⟩
    · cases h

end Config

end Fs

namespace Host

theorem tell_apply (target message : String) (fields : List (String × Field)) (w : World Host) :
    tell target message fields w
      = (.ok (), { w with events := w.events
          ++ [.remark .debug ("opendal_services::" ++ target) message fields] }) := rfl

variable {c : Fs.Config} {w w' : World Host} {root : String} {files : FileTree} {e : Error}
  {service : Host.Service}

/-- A build ends as the preparation of the root does. -/
theorem buildFs_of_prepare {result : Except Error String}
    (h : c.prepare w.service.current w.service.files = (result, files)) :
    ∃ events, buildFs c w
      = (result.mapError .failed |>.map fun root => (Fs.service root).within tree fsHandles,
          { w with service := { w.service with files }, events }) := by
  have hrun : tree.run (c.prepare w.service.current) w.service
      = (result, { w.service with files }) := by
    rw [Part.run, show tree.get w.service = w.service.files from rfl, h]
    rfl
  rw [buildFs, Run.bind_of_ok (tell_apply ..), Run.bind_apply, Run.onService_apply]
  dsimp only
  rw [hrun]
  cases result with
  | error e => exact ⟨_, rfl⟩
  | ok root => exact ⟨_, rfl⟩

/-- What a build does to the files, and the service that it gives. -/
theorem of_buildFs (h : buildFs c w = (.ok service, w')) :
    ∃ root, c.prepare w.service.current w.service.files = (.ok root, w'.service.files)
      ∧ service = (Fs.service root).within tree fsHandles := by
  obtain ⟨result, files, hprepare⟩ : ∃ result files,
    c.prepare w.service.current w.service.files = (result, files) := ⟨_, _, rfl⟩
  obtain ⟨events, hbuild⟩ := buildFs_of_prepare hprepare
  rw [hbuild] at h
  cases result with
  | error e => cases h
  | ok root =>
    cases h
    exact ⟨root, hprepare, rfl⟩

end Host

namespace Fs

/-! ### The root of the service -/

/-- The service below a root, on a host. -/
def hosted (root : String) : Host.Service := (service root).within Host.tree Host.fsHandles

/-- The object of the root, of the finished operator on that service. -/
def rootObject (root : String) : Object Host Host.Reader Host.Pager :=
  (Operator.finished (hosted root)).object Path.root

variable {root given : String} {w w' : World Host} {form : Form}

theorem call_stat_root (root : String) (form : Form) (h : Host) :
    (hosted root).call form Path.root .stat h
      = ((lift (h.files.node root)).map fun x => metadataOf h.files x.2, h) := by
  have hpath : Path.underRoot root Path.root = root := String.ofList_toList
  show (((lift (h.files.node (Path.underRoot root Path.root))).map _).map _, _) = _
  rw [hpath]
  cases h.files.node root <;> rfl

theorem metadata_root_of_ok (form : Form) {q : List String} {n : Node}
    (h : w.service.files.node root = .ok (q, n)) :
    (rootObject root).metadata form w = (.ok (metadataOf w.service.files n), w) := by
  have hcall := call_stat_root root form w.service
  rw [h] at hcall
  exact Operator.call_of_ok hcall

theorem metadata_root_of_error (form : Form) {e : IoError}
    (h : w.service.files.node root = .error e) :
    ∃ failure, (rootObject root).metadata form w = (.error (.failed failure), w)
      ∧ failure.kind = (Error.ofIo e).kind := by
  have hcall := call_stat_root root form w.service
  rw [h] at hcall
  exact ⟨_, Operator.call_of_error hcall, Operator.kind_callError ..⟩

theorem mode_metadataOf_eq_dir_iff (t : FileTree) (n : Node) :
    (metadataOf t n).mode = .dir ↔ n.isDir = true := by
  cases n <;> simp [metadataOf, Node.isDir]

/-- **The service finds a directory at its root** just if there is one. -/
theorem stat_root_iff (form : Form) :
    (∃ m, (rootObject root).metadata form w = (.ok m, w) ∧ m.mode = .dir)
      ↔ w.service.files.isDir root = true := by
  rw [FileTree.isDir_eq_true_iff]
  constructor
  · rintro ⟨m, hm, hdir⟩
    cases hnode : w.service.files.node root with
    | error e =>
      obtain ⟨failure, hfailed, -⟩ := metadata_root_of_error form hnode
      cases hfailed.symm.trans hm
    | ok found =>
      cases (metadata_root_of_ok form hnode).symm.trans hm
      exact ⟨_, _, rfl, (mode_metadataOf_eq_dir_iff _ _).1 hdir⟩
  · rintro ⟨q, n, hnode, hn⟩
    exact ⟨_, metadata_root_of_ok form hnode, (mode_metadataOf_eq_dir_iff _ _).2 hn⟩

/-- **Right after a build the service works in the directory that was created**, if no blank ends
the configured root: only then has its root the segments of the path that was created.  The service
then finds a directory at its root, as long as the root is not too long for a path. -/
theorem root_created_iff {service : Host.Service}
    (hcurrent : ∀ up, w.service.current = some up → FileTree.isAbsolute up = true)
    (hdir : w.service.files.IsDirAt [])
    (hbuild : Host.buildFs { root := some given } w = (.ok service, w')) :
    ∃ created, Config.directory { root := some given } w.service.current = .ok created
      ∧ w.service.files.createDirAll created = (.ok (), w'.service.files)
      ∧ (Path.segments service.info.root.toList = Path.segments created.toList
          ↔ Path.endsBlank given = false)
      ∧ (Path.endsBlank given = false → ∀ form,
          (∃ m, ((Operator.finished service).object Path.root).metadata form w' = (.ok m, w')
              ∧ m.mode = .dir)
            ↔ service.info.root.utf8ByteSize < FileTree.maxPath) := by
  obtain ⟨root, hprepare, rfl⟩ := Host.of_buildFs hbuild
  obtain ⟨created, hdirectory, hcreated, rfl⟩ := Config.of_prepare hprepare
  obtain ⟨habsolute, hblank⟩ := Config.directory_spec hcurrent hdirectory
  have hsegments := Path.segments_normalizeRoot_iff habsolute
  rw [hblank] at hsegments
  refine ⟨created, hdirectory, hcreated, hsegments, fun hends form => ?_⟩
  obtain ⟨hmore, hthere⟩ := FileTree.of_createDirAll hdir hcreated
  have hne : created ≠ "" := by
    rintro rfl
    cases habsolute
  have hcheck := ((FileTree.isDir_iff (hmore.isDirAt hdir)).1 (hthere hne)).1
  exact (stat_root_iff form).trans
    ((FileTree.isDir_iff_of_segments (hmore.isDirAt hdir) (hsegments.2 hends) (hthere hne)).trans
      (FileTree.checkPath_normalizeRoot_iff hcheck))

/-! ### A root with a blank at its end -/

/-- A host without files. -/
def bare : World Host := { service := {} }

/-- The files of that host after a directory was created in their root. -/
def withDir (name : String) : FileTree := FileTree.empty.add [] name (.dir ⟨0, 0⟩ [])

/-- A build on that host, with an absolute root of one name. -/
theorem build_bare (given name : String) (habsolute : FileTree.isAbsolute given = true)
    (hcheck : FileTree.checkPath given = .ok ()) (hnames : FileTree.bareNames given = [name])
    (hname : FileTree.IsEntryName name) :
    ∃ w, Host.buildFs { root := some given } bare = (.ok (hosted (Path.normalizeRoot given)), w)
      ∧ w.service.files = withDir name := by
  have hmkdir : FileTree.empty.mkdir given = .ok (withDir name) :=
    FileTree.mkdir_in_root rfl hcheck hnames hname rfl
  have hprepare : Config.prepare { root := some given } (some "/") .empty
      = (.ok (Path.normalizeRoot given), withDir name) := by
    rw [Config.prepare, Config.directory_of_isAbsolute habsolute]
    dsimp only
    rw [FileTree.createDirAll_of_mkdir hmkdir]
  obtain ⟨events, hbuild⟩ := Host.buildFs_of_prepare (w := bare) hprepare
  exact ⟨_, hbuild, rfl⟩

theorem root_created_iff_plain :
    ∃ service w, Host.buildFs { root := some "/a" } bare = (.ok service, w)
      ∧ Path.segments service.info.root.toList = Path.segments "/a".toList
      ∧ ∀ form, ∃ m, ((Operator.finished service).object Path.root).metadata form w = (.ok m, w)
          ∧ m.mode = .dir := by
  obtain ⟨w, hbuild, -⟩ := build_bare "/a" "a" (by decide) (by decide +kernel)
    (by decide +kernel) ⟨by decide, by decide, by rfl⟩
  obtain ⟨created, hdirectory, -, hsegments, hstat⟩ := root_created_iff
    (fun up hup => by cases hup; decide) ⟨_, _, rfl⟩ hbuild
  cases (Config.directory_of_isAbsolute (by decide)).symm.trans hdirectory
  refine ⟨_, w, hbuild, hsegments.2 (by decide), fun form => ?_⟩
  exact (hstat (by decide) form).2 (by decide +kernel)

/-- The directory `a ` is created, but the service looks for the directory `a`, which is missing. -/
theorem blankRoot_not_served :
    ∃ service w, Host.buildFs { root := some "/a " } bare = (.ok service, w)
      ∧ Path.segments service.info.root.toList ≠ Path.segments "/a ".toList
      ∧ ∀ form, ∃ e, e.kind = .objectNotFound
          ∧ ((Operator.finished service).object Path.root).metadata form w
            = (.error (.failed e), w) := by
  obtain ⟨w, hbuild, hfiles⟩ := build_bare "/a " "a " (by decide)
    (by decide +kernel) (by decide +kernel) ⟨by decide, by decide, by rfl⟩
  refine ⟨_, w, hbuild, ?_, fun form => ?_⟩
  · exact mt (Path.segments_normalizeRoot_iff rfl).1 (by decide)
  · have hroot : Path.normalizeRoot "/a " = "/a/" := by decide +kernel
    have hnames : FileTree.names "/a/" = ["a", "."] := by decide +kernel
    have hnode : w.service.files.node (Path.normalizeRoot "/a ") = .error .notFound := by
      have hcheck : FileTree.checkPath "/a/" = .ok () := by decide +kernel
      have hwalk : (withDir "a ").walk true FileTree.maxLinks [] ["a", "."] = .error .notFound :=
        FileTree.walk_missing ⟨by decide, by decide, by rfl⟩ _ (by rfl)
      rw [hfiles, hroot, FileTree.node, FileTree.find, hcheck, hnames]
      show ((withDir "a ").walk true FileTree.maxLinks [] ["a", "."] >>= _) = _
      rw [hwalk]
      rfl
    obtain ⟨e, hfailed, hkind⟩ := metadata_root_of_error form hnode
    exact ⟨e, hkind, hfailed⟩

end Fs

end ObjectStorage
