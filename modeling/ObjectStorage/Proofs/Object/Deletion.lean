import ObjectStorage.Command
import ObjectStorage.Proofs.FileTree.Removal
import ObjectStorage.Proofs.Fs.Missing
import ObjectStorage.Proofs.Ipmfs.Node
import ObjectStorage.Proofs.Memory

/-!
# What a deletion leaves alone

A deletion of an object in memory or in a local file system takes at most the one file that the path
of the object names: a directory has no key, and it is taken out of a file tree only if it has no
entries.  A node is told to remove a place with all below it, so that of a directory with files
nothing is left.

* `Operator.service_delete` — what a deletion makes of the service;
* `Fs.keepsFiles_deleteObject` — files of a tree stay, but for the one that is named;
* `Ipmfs.service_delete`, `Ipmfs.Served.of_delete` — the one request, and what it does to a node;
* `Deletion.touches_named` — what stays, for all services and for the command that deletes;
* `Deletion.directory_lost` — a file that goes with the directory that it is in.
-/

namespace ObjectStorage

/-- A deletion makes of the service what the service makes of it. -/
theorem Operator.service_delete {σ ρ π : Type} (service : Service σ ρ π) (path : String)
    (form : Form) (w : World σ) :
    (((finished service).object path).delete form w).2.service
      = (service.call form (Path.normalize path) .delete w.service).2 := by
  show ((finished service).call form (Path.normalize path) .delete w).2.service = _
  rw [call_finished, Stack.base_eq]

/-- The command that deletes does what the object does, and no more. -/
theorem Command.service_rm {σ ρ π : Type} (op : Operator σ ρ π) (path : String) (w : World σ) :
    (Command.rm op path w).2.service = ((op.object path).delete .async w).2.service := by
  rcases hdelete : (op.object path).delete .async w with ⟨(e | _) | ⟨⟩, w'⟩
  all_goals
    simp only [Command.rm, Command.ofRun, hdelete, bind, ExceptT.bind, ExceptT.mk, StateT.bind,
      ExceptT.bindCont]
    rfl

namespace Fs

/-- **Files of a tree stay** when an object is deleted, but for the one that its path names. -/
theorem keepsFiles_deleteObject (t : FileTree) (path : String) :
    t.KeepsFiles (deleteObject t path).2 (t.Names path) := by
  rw [deleteObject]
  split
  · split <;> exact t.keepsFiles_refl _
  · split
    · cases h : t.rmdir path with
      | ok t' => exact FileTree.keepsFiles_rmdir h _
      | error e => exact t.keepsFiles_refl _
    · cases h : t.unlink path with
      | ok t' => exact FileTree.keepsFiles_unlink h
      | error e => exact t.keepsFiles_refl _

theorem service_delete (root path : String) (form : Form) (w : World FileTree) :
    ((object root path).delete form w).2.service
      = (deleteObject w.service (location root path)).2 := by
  rw [object, Operator.service_delete]
  dsimp only [service, location]

end Fs

namespace Ipmfs

/-- The object at a path of the service that a configuration describes. -/
def object (c : Config) (path : String) : Object Http.Server Cursor Listing :=
  (Operator.finished (service c)).object path

/-- Where the object at a path is on the node. -/
def location (c : Config) (path : String) : String :=
  Path.underRoot c.rootPath (Path.normalize path)

/-- The request that a deletion makes. -/
def removal (base : String) (c : Config) (path : String) : Http.Request :=
  request base "rm" (location c path) [("recursive", "true")] none

/-- The server after a removal is the one after its request. -/
theorem server_remove (endpoint path : String) (server : Http.Server) :
    (remove endpoint path server).2
      = (command endpoint "rm" path [("recursive", "true")] none server).2 := by
  have htell : (tell endpoint "rm" path [("recursive", "true")] none server).2
      = (command endpoint "rm" path [("recursive", "true")] none server).2 := rfl
  rw [remove, ← htell]
  rcases tell endpoint "rm" path [("recursive", "true")] none server with ⟨e | ⟨⟩, server'⟩
  · rfl
  · rfl

section

variable {c : Config} {base : String} (haddress : IsAddress c.endpointText base) (path : String)
include haddress

/-- **A deletion is one request**, and none in the blocking form. -/
theorem service_delete (form : Form) (w : World Http.Server) :
    ((object c path).delete form w).2.service
      = match form with
        | .async => (w.service.send Http.exhausted (removal base c path)).2
        | .blocking => w.service := by
  rw [object, Operator.service_delete]
  cases form with
  | blocking => rfl
  | async =>
    obtain ⟨url, hcommand⟩ := command_eq haddress (by simp : "rm" ∈ _) (location c path)
      [("recursive", "true")] none w.service
    show (remove c.endpointText (location c path) w.service).2 = _
    rw [server_remove, hcommand]
    rfl

variable {place : String → List String} {files files' : Files} {form : Form}
  {w : World Http.Server}
  (hserved : Served base place files w.service files' ((object c path).delete form w).2.service)
include hserved

/-- **A deletion takes nothing, or everything** at the place of the object and below it. -/
theorem Served.of_delete :
    files' = files ∨ files' = files.without true (place (location c path)) := by
  rw [service_delete haddress] at hserved
  cases form with
  | blocking => exact .inl (hserved.last rfl)
  | async =>
    obtain ⟨-, hsame⟩ | ⟨-, answer, rest, -, hhandles⟩ := hserved.of_send
    · exact .inl hsame
    · obtain hgone | ⟨hsame, -⟩ := hhandles.remove rfl rfl
      · exact .inr hgone
      · exact .inl hsame

/-- A node that tells of a success has taken everything. -/
theorem Served.of_deleted (hform : form = .async) (hlistens : w.service.listens = true)
    {r : Http.Response} {rest : List (Option Http.Response)}
    (hanswers : w.service.answers = some r :: rest) (hstatus : r.status = 200) :
    files' = files.without true (place (location c path)) := by
  subst hform
  rw [service_delete haddress] at hserved
  obtain ⟨hsilent, -⟩ | ⟨-, answer, rest', hanswers', hhandles⟩ := hserved.of_send
  · rw [hlistens] at hsilent
    cases hsilent
  · rw [hanswers] at hanswers'
    obtain ⟨rfl, rfl⟩ := List.cons.inj hanswers'
    obtain hgone | ⟨-, hfailed⟩ := hhandles.remove rfl rfl
    · exact hgone
    · exact absurd hstatus (hfailed r rfl)

end

/-! ### What is left of a node -/

theorem Files.without_of_outside (files : Files) {target q : List String} (h : ¬target <+: q) :
    files.without true target q = files q := by
  rw [without, if_pos rfl, if_neg (by rwa [List.isPrefixOf_iff_prefix])]

theorem Files.without_of_inside (files : Files) {target q : List String} (h : target <+: q) :
    files.without true target q = none := by
  rw [without, if_pos rfl, if_pos (List.isPrefixOf_iff_prefix.2 h)]

/-- All but the file at a place stays when everything below goes, just if nothing is below. -/
theorem Files.without_keeps_iff (files : Files) (target : List String) :
    (∀ q, q ≠ target → files.without true target q = files q)
      ↔ ∀ q, target <+: q → q ≠ target → files q = none := by
  constructor
  · intro hkept q hbelow hne
    rw [← hkept q hne, files.without_of_inside hbelow]
  · intro hnone q hne
    by_cases hbelow : target <+: q
    · rw [files.without_of_inside hbelow, hnone q hbelow hne]
    · exact files.without_of_outside hbelow

end Ipmfs

namespace Deletion

/-- **What a deletion leaves alone.**  In memory every key but that of the object keeps its value.
In a file tree every file stays with its content but the one that the path names, if it names a
file.  Of a node every file stays that is not at the place of the object or below it; all files but
the one at that place stay just if nothing is taken at all or nothing is below, and a deletion with
success takes all that is below.  The command that deletes does as the object does. -/
theorem touches_named (path : String) (form : Form) :
    (∀ (name root : String) (w : World (Table Bytes)) (key : String),
      key ≠ Path.key root (Path.normalize path) →
      ((Memory.object name root path).delete form w).2.service.get? key = w.service.get? key)
    ∧ (∀ (root : String) (w : World FileTree),
      w.service.KeepsFiles ((Fs.object root path).delete form w).2.service
        (w.service.Names (Fs.location root path)))
    ∧ (∀ (c : Ipmfs.Config) (base : String) (place : String → List String)
        (w : World Http.Server) (files files' : Ipmfs.Files),
      Ipmfs.IsAddress c.endpointText base →
      Ipmfs.Served base place files w.service files'
        ((Ipmfs.object c path).delete form w).2.service →
      let target := place (Ipmfs.location c path)
      (∀ q, ¬target <+: q → files' q = files q)
        ∧ ((∀ q, q ≠ target → files' q = files q)
          ↔ files' = files ∨ ∀ q, target <+: q → q ≠ target → files q = none)
        ∧ ∀ r rest, form = .async → w.service.listens = true →
          w.service.answers = some r :: rest → r.status = 200 →
          ∀ q, target <+: q → files' q = none)
    ∧ ∀ (σ ρ π : Type) (op : Operator σ ρ π) (w : World σ),
      (Command.rm op path w).2.service = ((op.object path).delete .async w).2.service := by
  refine ⟨?_, ?_, ?_, fun _ _ _ op w => Command.service_rm op path w⟩
  · intro name root w key hkey
    rw [Memory.delete_apply]
    exact (Table.get?_erase w.service _ key).trans (if_neg hkey)
  · intro root w
    rw [Fs.service_delete]
    exact Fs.keepsFiles_deleteObject w.service (Fs.location root path)
  · intro c base place w files files' haddress hserved target
    have hcases := Ipmfs.Served.of_delete haddress path hserved
    refine ⟨?_, ?_, ?_⟩
    · intro q houtside
      obtain rfl | rfl := hcases
      · rfl
      · exact files.without_of_outside houtside
    · constructor
      · intro hkept
        obtain hsame | rfl := hcases
        · exact .inl hsame
        · exact .inr ((files.without_keeps_iff target).1 hkept)
      · rintro (rfl | hnone) q hne
        · rfl
        · obtain rfl | rfl := hcases
          · rfl
          · exact (files.without_keeps_iff target).2 hnone q hne
    · intro r rest hform hlistens hanswers hstatus q hbelow
      rw [Ipmfs.Served.of_deleted haddress path hserved hform hlistens hanswers hstatus]
      exact files.without_of_inside hbelow

/-! ### A directory with a file -/

/-- A node with the file `x` in the directory `d`, and the file `e` beside it. -/
def filled : Ipmfs.Files := fun q =>
  if q = ["r", "d", "x"] then some [120] else if q = ["r", "e"] then some [121] else none

/-- A configuration with the root `/r/`. -/
def config : Ipmfs.Config := { root := some "/r/" }

/-- A server that tells of one success. -/
def obliging : World Http.Server := { service := { answers := [some {}] } }

theorem isAddress_config : Ipmfs.IsAddress config.endpointText "/api/v0/files/" :=
  Ipmfs.isAddress_default rfl

theorem bareNames_directory : FileTree.bareNames (Ipmfs.location config "d/") = ["r", "d"] := by
  decide +kernel

/-- The node takes the directory `d` with all that it holds. -/
theorem served_directory :
    Ipmfs.Served "/api/v0/files/" FileTree.bareNames filled obliging.service
      (filled.without true ["r", "d"])
      ((Ipmfs.object config "d/").delete .async obliging).2.service := by
  have hhandles : Ipmfs.Handles "/api/v0/files/" FileTree.bareNames filled
      (Ipmfs.removal "/api/v0/files/" config "d/") (some {}) (filled.without true ["r", "d"]) := by
    refine ⟨fun h => ?_, fun h => ?_, fun _ path harg => ?_⟩
    · exact absurd h (Ipmfs.request_path_ne (by decide))
    · exact absurd h (Ipmfs.request_path_ne (by decide))
    · have hpath : Ipmfs.location config "d/" = path := Option.some.inj harg
      rw [← hpath, bareNames_directory]
      exact .inl rfl
  have hsend := Peer.send_answered (p := obliging.service) rfl rfl Http.exhausted
    (Ipmfs.removal "/api/v0/files/" config "d/")
  rw [Ipmfs.service_delete isAddress_config]
  dsimp only
  rw [hsend]
  exact .step rfl hhandles (.refl _ _)

theorem touches_named_filled :
    ((Memory.object "" "/r/" "a").delete .async
        { service := .ofList [("r/a", [120]), ("r/b", [121])] }).2.service.get? "r/b"
      = (Table.ofList [("r/a", [120]), ("r/b", [121])]).get? "r/b"
    ∧ ((Fs.object "/r/" "g/").delete .async { service := Fs.oneFile }).2.service.root.at? ["r", "f"]
      = some (.file 0)
    ∧ (filled.without true ["r", "d"]) ["r", "e"] = filled ["r", "e"]
    ∧ (filled.without true ["r", "d"]) ["r", "d", "x"] = none := by
  have hnames : ¬Fs.oneFile.Names (Fs.location "/r/" "g/") ["r", "f"] := by
    rintro ⟨n, hfind⟩
    obtain ⟨-, -, hwalk⟩ := FileTree.bind_eq_ok_iff.1 hfind
    rw [Fs.location_missing, Fs.names_missing, Fs.walk_oneFile_missing] at hwalk
    cases hwalk
  have hnode := (touches_named "d/" .async).2.2.1 config "/api/v0/files/" FileTree.bareNames
    obliging filled _ isAddress_config served_directory
  rw [bareNames_directory] at hnode
  have htree := (touches_named "g/" .async).2.1 "/r/" { service := Fs.oneFile } ["r", "f"] 0 rfl
  refine ⟨(touches_named "a" .async).1 "" "/r/" _ "r/b" (by decide +kernel), (htree hnames).1,
    hnode.1 _ (by decide), ?_⟩
  exact hnode.2.2 {} [] rfl rfl rfl rfl _ (by decide)

/-- The directory `d` is deleted, and the file `x` in it is gone. -/
theorem directory_lost :
    Ipmfs.Served "/api/v0/files/" FileTree.bareNames filled obliging.service
        (filled.without true ["r", "d"])
        ((Ipmfs.object config "d/").delete .async obliging).2.service
      ∧ FileTree.bareNames (Ipmfs.location config "d/") ≠ ["r", "d", "x"]
      ∧ filled ["r", "d", "x"] = some [120]
      ∧ (filled.without true ["r", "d"]) ["r", "d", "x"] = none := by
  refine ⟨served_directory, ?_, by decide, by decide⟩
  rw [bareNames_directory]
  decide

end Deletion

end ObjectStorage
