import ObjectStorage.Lister
import ObjectStorage.Proofs.Kv.Listing
import ObjectStorage.Proofs.Memory
import ObjectStorage.Proofs.Path.Canonical
import ObjectStorage.Proofs.Table

/-!
# What listings of the memory service yield

A lister makes an object of each entry of a page, and brings the path of the entry into canonical
form once more for that.  Paths of the memory service are canonical already, but this form is not
always kept: blanks are taken from the ends of a path before the slashes at its start are, so that a
canonical path may begin with a blank, and loses it the next time.  An object that is yielded has
the path of its entry just if that path does not begin with a blank.

* `Object.yields` — the objects that a listing yields;
* `Memory.Mirrors` — a table holds the files of a map, and neither holds anything else;
* `Memory.mirrors_performAll` — so it is after any requests;
* `Memory.Mirrors.mem_page_iff` — the entries of a page are the files and directories of the map;
* `Memory.yields_apply` — a listing yields an object for each entry of the page;
* `Memory.listing_usable_iff` — which of them have the path of their entry and read its file.
-/

namespace ObjectStorage

/-- The objects that a listing of a directory yields, errors in their places. -/
def Object.yields {σ ρ π : Type} (o : Object σ ρ π) (form : Form) :
    Run σ (List (Except Error (Object σ ρ π))) := do
  let lister ← o.list form
  let items ← lister.toList o.operator.service form
  pure (items.map fun item => item.map fun e => o.operator.object e.path)

/-! ### Maps hold files -/

namespace FileMap

/-- Whatever the map holds is a file, under the canonical form of some path. -/
def HoldsFiles (m : FileMap) : Prop :=
  ∀ path content, m path = some content →
    Path.isDir path = false ∧ ∃ given, path = Path.normalize given

theorem holdsFiles_empty : HoldsFiles empty := by
  intro path content h
  cases h

theorem holdsFiles_step {m : FileMap} (hm : m.HoldsFiles) (r : Request) :
    (m.step r).2.HoldsFiles := by
  cases hdir : Path.isDir (Path.normalize r.path) with
  | true =>
    rw [step_of_dir m hdir]
    exact hm
  | false =>
    rw [step_of_file m hdir]
    intro path content h
    by_cases heq : path = Path.normalize r.path
    · rw [heq]
      exact ⟨hdir, r.path, rfl⟩
    · dsimp only at h
      rw [put_ne m _ heq] at h
      exact hm path content h

theorem holdsFiles_run {m : FileMap} (hm : m.HoldsFiles) (requests : List Request) :
    (m.run requests).2.HoldsFiles := by
  induction requests generalizing m with
  | nil => exact hm
  | cons r requests ih =>
    rw [run]
    exact ih (holdsFiles_step hm r)

/-- A file that the map has after requests was there before, or lies under the canonical form of
the path of a request. -/
theorem exists_request_of_run {m : FileMap} {requests : List Request} {path : String}
    {content : Content} (h : (m.run requests).2 path = some content) :
    m path = some content ∨ ∃ r ∈ requests, path = Path.normalize r.path := by
  induction requests generalizing m with
  | nil => exact .inl h
  | cons r requests ih =>
    rw [run] at h
    obtain hstep | ⟨r', hr', hpath⟩ := ih h
    · by_cases hsame : path = Path.normalize r.path
      · exact .inr ⟨r, List.mem_cons_self, hsame⟩
      · refine .inl ?_
        cases hdir : Path.isDir (Path.normalize r.path) with
        | true =>
          rw [step_of_dir m hdir] at hstep
          exact hstep
        | false =>
          rw [step_of_file m hdir] at hstep
          dsimp only at hstep
          rw [put_ne m _ hsame] at hstep
          exact hstep
    · exact .inr ⟨r', List.mem_cons_of_mem _ hr', hpath⟩

/-- The path of a file is a canonical one, and not the root. -/
theorem HoldsFiles.isCanonical {m : FileMap} (hm : m.HoldsFiles) {path : String}
    {content : Content} (h : m path = some content) : Path.IsCanonical path.toList := by
  obtain ⟨hfile, given, rfl⟩ := hm path content h
  exact Path.isCanonical_of_file hfile

end FileMap

namespace Memory

/-! ### Tables hold files -/

/-- Below the root a table has no keys but those of files. -/
def Keyed (root : String) (t : Table Bytes) : Prop :=
  ∀ key ∈ t.keys, ∃ given, key = Path.key root (Path.normalize given)
    ∧ Path.isDir (Path.normalize given) = false

theorem keyed_empty (root : String) : Keyed root .empty := by
  intro key h
  cases h

theorem keyed_insert {root : String} {t : Table Bytes} (ht : Keyed root t) {given : String}
    (hfile : Path.isDir (Path.normalize given) = false) (data : Bytes) :
    Keyed root (t.insert (Path.key root (Path.normalize given)) data) := by
  intro key hkey
  obtain ⟨value, hvalue⟩ := Table.mem_keys_iff.1 hkey
  by_cases heq : key = Path.key root (Path.normalize given)
  · exact ⟨given, heq, hfile⟩
  · rw [Table.get?_insert, if_neg heq] at hvalue
    exact ht key (Table.mem_keys_iff.2 ⟨value, hvalue⟩)

theorem keyed_erase {root : String} {t : Table Bytes} (ht : Keyed root t) (erased : String) :
    Keyed root (t.erase erased) := by
  intro key hkey
  obtain ⟨value, hvalue⟩ := Table.mem_keys_iff.1 hkey
  rw [Table.get?_erase] at hvalue
  by_cases heq : key = erased
  · rw [if_pos heq] at hvalue
    cases hvalue
  · rw [if_neg heq] at hvalue
    exact ht key (Table.mem_keys_iff.2 ⟨value, hvalue⟩)

section

variable (name root : String) (form : Form) (path : String) (w : World (Table Bytes))

/-- To read a file leaves the table alone, whether the file is there or not. -/
theorem read_service (range : ByteRange) :
    ((object name root path).read form range w).2 = w := by
  cases hdir : Path.isDir (Path.normalize path) with
  | true =>
    obtain ⟨e, -, hread⟩ := read_dir name root form path w hdir range
    rw [hread]
  | false =>
    cases hvalue : value root path w.service with
    | none =>
      obtain ⟨e, -, hread⟩ := read_missing name root form path w hdir hvalue range
      rw [hread]
    | some data => rw [read_file name root form path w hdir hvalue range]

/-- To ask for metadata leaves the table alone. -/
theorem metadata_service : ((object name root path).metadata form w).2 = w := by
  cases hdir : Path.isDir (Path.normalize path) with
  | true => rw [metadata_dir name root form path w hdir]
  | false =>
    cases hvalue : value root path w.service with
    | none =>
      obtain ⟨e, -, htold⟩ := metadata_missing name root form path w hdir hvalue
      rw [htold]
    | some data => rw [metadata_file name root form path w hdir hvalue]

end

/-- What leaves the world alone still does if a value is made of its result. -/
theorem service_bind_pure {σ α β : Type} {x : Run σ α} {w : World σ} (h : (x w).2 = w)
    (f : α → β) : ((x >>= fun a => pure (f a)) w).2 = w := by
  rw [Run.bind_apply]
  generalize x w = ended at h ⊢
  obtain ⟨stop | a, w'⟩ := ended
  · exact h
  · exact h

/-- To ask whether there is an object leaves the table alone. -/
theorem exists_service (name root : String) (form : Form) (path : String)
    (w : World (Table Bytes)) : ((object name root path).exists form w).2 = w := by
  cases hdir : Path.isDir (Path.normalize path) with
  | true => rw [Object.exists_of_metadata (metadata_dir name root form path w hdir)]
  | false =>
    cases hvalue : value root path w.service with
    | none =>
      obtain ⟨e, hkind, htold⟩ := metadata_missing name root form path w hdir hvalue
      rw [Object.exists_of_missing htold hkind]
    | some data =>
      rw [Object.exists_of_metadata (metadata_file name root form path w hdir hvalue)]

section

variable {name root : String} {w : World (Table Bytes)} {r : Request}

theorem keyed_of {result : Except Stop Answer} {w' : World (Table Bytes)}
    (hperform : (Operator.finished (service name root)).perform r w = (result, w'))
    (hafter : Keyed root w'.service) :
    Keyed root ((Operator.finished (service name root)).perform r w).2.service := by
  rw [hperform]
  exact hafter

/-- A request that puts a value together from what it was told leaves the table as it is. -/
theorem keyed_of_look {α : Type} {x : Run (Table Bytes) α} {f : α → Answer}
    (hperform : (Operator.finished (service name root)).perform r = x >>= fun a => pure (f a))
    (hx : (x w).2 = w) (hw : Keyed root w.service) :
    Keyed root ((Operator.finished (service name root)).perform r w).2.service := by
  rw [hperform, service_bind_pure hx]
  exact hw

/-- **A request puts files into the table, removes keys from it, or leaves it alone.** -/
theorem keyed_perform (hw : Keyed root w.service) (r : Request) :
    Keyed root ((Operator.finished (service name root)).perform r w).2.service := by
  obtain ⟨form, path, ask⟩ := r
  cases ask with
  | create =>
    cases hdir : Path.isDir (Path.normalize path) with
    | true => exact keyed_of (Run.bind_of_ok (create_dir name root form path w hdir)) hw
    | false =>
      exact keyed_of (Run.bind_of_ok (create_file name root form path w hdir))
        (keyed_insert hw hdir [])
  | write content =>
    cases hdir : Path.isDir (Path.normalize path) with
    | true =>
      obtain ⟨e, -, hwrite⟩ := write_dir name root form path w hdir content.val
      exact keyed_of (Run.bind_of_error hwrite) hw
    | false =>
      exact keyed_of (Run.bind_of_ok (write_file name root form path w hdir content.val))
        (keyed_insert hw hdir content.val)
  | read => exact keyed_of_look rfl (read_service name root form path w .full) hw
  | rangeRead lower upper =>
    exact keyed_of_look rfl (read_service name root form path w (.ofBounds lower upper)) hw
  | metadata => exact keyed_of_look rfl (metadata_service name root form path w) hw
  | exist => exact keyed_of_look rfl (exists_service name root form path w) hw
  | delete =>
    exact keyed_of (Run.bind_of_ok (delete_apply name root form path w)) (keyed_erase hw _)

theorem keyed_performAll (hw : Keyed root w.service) (requests : List Request) :
    Keyed root
      ((Operator.finished (service name root)).performAll requests w).2.service := by
  induction requests generalizing w with
  | nil => exact hw
  | cons r requests ih =>
    rw [Operator.performAll]
    exact ih (keyed_perform hw r)

end

/-- Below the root a table holds the files of a map, and neither holds anything else. -/
structure Mirrors (root : String) (t : Table Bytes) (m : FileMap) : Prop where
  represents : Represents root t m
  keyed : Keyed root t
  files : m.HoldsFiles

/-- **After any requests to a fresh service the table mirrors the map.** -/
theorem mirrors_performAll (name root : String) (w : World (Table Bytes))
    (requests : List Request) :
    Mirrors root ((Operator.finished (service name root)).performAll requests
      { w with service := .empty }).2.service (FileMap.empty.run requests).2 where
  represents := (performAll_refines name (represents_empty root) requests).2
  keyed := keyed_performAll (keyed_empty root) requests
  files := FileMap.holdsFiles_run FileMap.holdsFiles_empty requests

/-- **The keys of the table are those of the files in the map.** -/
theorem Mirrors.mem_keys_iff {root : String} {t : Table Bytes} {m : FileMap}
    (h : Mirrors root t m) {key : String} :
    key ∈ t.keys ↔ ∃ path content, m path = some content ∧ key = Path.key root path := by
  constructor
  · intro hkey
    obtain ⟨value, hvalue⟩ := Table.mem_keys_iff.1 hkey
    obtain ⟨given, rfl, hfile⟩ := h.keyed key hkey
    rw [h.represents _ (Path.normalize_ne_empty given) hfile] at hvalue
    obtain ⟨content, hcontent, -⟩ := Option.map_eq_some_iff.1 hvalue
    exact ⟨Path.normalize given, content, hcontent, rfl⟩
  · rintro ⟨path, content, hcontent, rfl⟩
    obtain ⟨hfile, given, rfl⟩ := h.files path content hcontent
    have hvalue := h.represents _ (Path.normalize_ne_empty given) hfile
    rw [hcontent] at hvalue
    exact Table.mem_keys_iff.2 ⟨content.val, hvalue⟩

/-! ### Listings -/

/-- The page of a directory, as a table has it below a root. -/
def page (root dir : String) (t : Table Bytes) : List Entry :=
  Kv.children root dir (t.scan (Path.key root dir))

section

variable (name root : String) (form : Form) (dir : String) (w : World (Table Bytes))

/-- A pager with the page of a directory. -/
def pageAt (source : Page) (listed : Nat) : Pager Page :=
  { source := .service source, path := dir, listed, marks := [.context] }

theorem call_page :
    (Operator.finished (service name root)).call form dir .list w
      = (.ok (pageAt dir (some (page root dir w.service)) 0), w) := by
  have hservice : (service name root).call form dir .list w.service
      = (.ok (some (page root dir w.service)), w.service) := Kv.call_list (adapter name) root rfl
  exact Operator.call_of_ok hservice

theorem pull_page (listed : Nat) (source : Page) :
    (pageAt dir source listed).pull (service name root) form w
      = (.ok source, pageAt dir none (listed + (source.getD []).length), w) := by
  cases source with
  | none => rfl
  | some entries => rfl

/-- A lister that has its page still before it. -/
def listerAt (entries : List Entry) : Lister Page := { pager := pageAt dir (some entries) 0 }

theorem toList_page (entries : List Entry) :
    (listerAt dir entries).toList (service name root) form w = (.ok (entries.map .ok), w) := by
  -- nothing is left of a page before this one, and nothing was yielded so far
  have hitems : (listerAt dir entries).toList (service name root) form w
      = (.ok ([] ++ (([] ++ entries).map .ok ++ [])), w) := by
    cases form <;> rfl
  rw [hitems, List.nil_append, List.nil_append, List.append_nil]

/-- A listing of a directory has the page of the directory before it. -/
theorem list_apply (hdir : Path.isDir (Path.normalize dir) = true) :
    (object name root dir).list form w
      = (.ok (listerAt (Path.normalize dir) (page root (Path.normalize dir) w.service)), w) := by
  have hisDir : (object name root dir).isDir = true := hdir
  have hpager : (object name root dir).pager form w
      = (.ok (pageAt (Path.normalize dir) (some (page root (Path.normalize dir) w.service)) 0),
        w) := by
    rw [Object.pager_of_dir hisDir]
    exact call_page name root form (Path.normalize dir) w
  rw [Object.list, Run.bind_of_ok hpager]
  rfl

/-- **A listing of a directory yields an object for each entry of its page**, in either form. -/
theorem yields_apply (hdir : Path.isDir (Path.normalize dir) = true) :
    (object name root dir).yields form w
      = (.ok ((page root (Path.normalize dir) w.service).map fun e =>
          .ok ((Operator.finished (service name root)).object e.path)), w) := by
  have hitems := toList_page name root form (Path.normalize dir) w
    (page root (Path.normalize dir) w.service)
  rw [Object.yields, Run.bind_of_ok (list_apply name root form dir w hdir)]
  show ((listerAt _ _).toList (service name root) form >>= _) w = _
  rw [Run.bind_of_ok hitems, Run.pure_apply, List.map_map]
  rfl

end

/-! ### Entries -/

namespace Mirrors

variable {root : String} {t : Table Bytes} {m : FileMap}
  (h : Mirrors (Path.normalizeRoot root) t m)
include h

/-- What a scan finds below a directory are the files whose paths lie below it. -/
theorem mem_scan_iff (dir rest : String) :
    Path.key (Path.normalizeRoot root) dir ++ rest
        ∈ t.scan (Path.key (Path.normalizeRoot root) dir)
      ↔ ∃ content, m (Path.inside dir ++ rest) = some content := by
  have hkey : (Path.key (Path.normalizeRoot root) dir ++ rest).toList
      = (Path.normalizeRoot root).toList.drop 1 ++ (Path.inside dir ++ rest).toList := by
    rw [String.toList_append, Path.toList_key, Path.keyChars_eq, List.append_assoc,
      String.toList_append, Path.toList_inside]
  rw [Table.mem_scan_iff, h.mem_keys_iff]
  constructor
  · rintro ⟨⟨path, content, hcontent, heq⟩, -⟩
    rw [heq, Path.toList_key_canonical _ (h.files.isCanonical hcontent)] at hkey
    have hpath : path = Path.inside dir ++ rest :=
      String.toList_inj.1 (List.append_cancel_left hkey)
    exact ⟨content, hpath ▸ hcontent⟩
  · rintro ⟨content, hcontent⟩
    have hpath := Path.toList_key_canonical (Path.normalizeRoot root) (h.files.isCanonical hcontent)
    refine ⟨⟨_, content, hcontent, String.toList_inj.1 (hkey.trans hpath.symm)⟩, ?_⟩
    rw [Table.startsWith_iff, String.toList_append]
    exact List.prefix_append _ _

/-- No key of the table begins with a slash. -/
theorem unrooted_scan (start : String) : Kv.Unrooted (t.scan start) := by
  intro key hkey
  obtain ⟨path, content, hcontent, rfl⟩ :=
    h.mem_keys_iff.1 (Table.mem_scan_iff.1 hkey).1
  exact Path.head?_key_canonical root (h.files.isCanonical hcontent)

/-- **The entries of a page**: the files in the directory, and the directories in it that files lie
below of. -/
theorem mem_page_iff (dir : String) (e : Entry) :
    e ∈ page (Path.normalizeRoot root) dir t
      ↔ (∃ rest content, m (Path.inside dir ++ rest) = some content ∧ rest ≠ ""
          ∧ '/' ∉ rest.toList ∧ e = ⟨Path.inside dir ++ rest, { mode := .file }⟩)
        ∨ ∃ seg tail content, m (Path.inside dir ++ (seg ++ "/" ++ tail)) = some content
            ∧ '/' ∉ seg.toList ∧ e = ⟨Path.inside dir ++ (seg ++ "/"), { mode := .dir }⟩ := by
  rw [page, Kv.mem_children_iff root dir (h.unrooted_scan _) e]
  simp only [h.mem_scan_iff]
  constructor
  · rintro (⟨rest, ⟨content, hcontent⟩, hne, hslash, rfl⟩
      | ⟨seg, tail, ⟨content, hcontent⟩, hslash, rfl⟩)
    · exact .inl ⟨rest, content, hcontent, hne, hslash, rfl⟩
    · exact .inr ⟨seg, tail, content, hcontent, hslash, rfl⟩
  · rintro (⟨rest, content, hcontent, hne, hslash, rfl⟩
      | ⟨seg, tail, content, hcontent, hslash, rfl⟩)
    · exact .inl ⟨rest, ⟨content, hcontent⟩, hne, hslash, rfl⟩
    · exact .inr ⟨seg, tail, ⟨content, hcontent⟩, hslash, rfl⟩

/-- The paths of entries are canonical. -/
theorem isCanonical_of_mem_page {dir : String} {e : Entry}
    (he : e ∈ page (Path.normalizeRoot root) dir t) : Path.IsCanonical e.path.toList := by
  rcases (h.mem_page_iff dir e).1 he with
    ⟨rest, content, hcontent, -, -, rfl⟩ | ⟨seg, tail, content, hcontent, -, rfl⟩
  · exact h.files.isCanonical hcontent
  · have hpath : (Path.inside dir ++ (seg ++ "/" ++ tail)).toList
        = (Path.inside dir ++ seg).toList ++ '/' :: tail.toList := by
      simp only [String.toList_append, List.append_assoc]
      rfl
    have hentry : (Path.inside dir ++ (seg ++ "/")).toList
        = (Path.inside dir ++ seg).toList ++ ['/'] := by
      simp only [String.toList_append, List.append_assoc]
      rfl
    have hcanonical := h.files.isCanonical hcontent
    rw [hpath] at hcanonical
    show Path.IsCanonical (Path.inside dir ++ (seg ++ "/")).toList
    rw [hentry]
    exact hcanonical.upto

/-- The files among the entries are files of the map. -/
theorem content_of_mem_page {dir : String} {e : Entry}
    (he : e ∈ page (Path.normalizeRoot root) dir t) (hfile : e.metadata.mode = .file) :
    ∃ content, m e.path = some content := by
  rcases (h.mem_page_iff dir e).1 he with
    ⟨rest, content, hcontent, -, -, rfl⟩ | ⟨seg, tail, content, -, -, rfl⟩
  · exact ⟨content, hcontent⟩
  · cases hfile

/-- Every file of the map is an entry in the page of its directory. -/
theorem mem_page_of_content {path : String} {content : Content} (hcontent : m path = some content) :
    (⟨path, { mode := .file }⟩ : Entry)
      ∈ page (Path.normalizeRoot root) (Path.parent path) t := by
  have hfile := (h.files path content hcontent).1
  obtain ⟨rest, hpath, hne, hslash⟩ := Path.parent_spec (h.files.isCanonical hcontent) hfile
  rw [h.mem_page_iff]
  exact .inl ⟨rest, content, hpath ▸ hcontent, hne, hslash, by rw [← hpath]⟩

end Mirrors

/-! ### What listings yield -/

/-- An object whose path is not changed by its canonical form reads the file of the map. -/
theorem Mirrors.read {name root : String} {w : World (Table Bytes)} {m : FileMap}
    (h : Mirrors root w.service m) {path : String} (hpath : Path.normalize path = path)
    {content : Content} (hcontent : m path = some content) (form : Form) :
    (object name root path).read form .full w = (.ok content.val, w) := by
  have hfile : Path.isDir (Path.normalize path) = false := by
    rw [hpath]
    exact (h.files path content hcontent).1
  have hvalue : value root path w.service = some content.val := by
    rw [value_of_represents h.represents hfile, hpath, hcontent]
    rfl
  rw [read_file name root form path w hfile hvalue, ByteRange.cut_full content.property]

/-- **What a listing yields.**  After any requests to a fresh memory service, a listing of a
directory yields an object for each entry of the page that the service gives for it, in either form.
The object has the path of its entry just if that path does not begin with a blank; then it reads
what was last written to that file.  Every file whose parent is the directory is an entry of the
page. -/
theorem listing_usable_iff (name root : String) (w : World (Table Bytes))
    (requests : List Request) (form : Form) (dir : String)
    (hdir : Path.isDir (Path.normalize dir) = true) :
    let op := operator name root
    let after := (op.performAll requests { w with service := .empty }).2
    let files := (FileMap.empty.run requests).2
    ∃ page pager, op.call form (Path.normalize dir) .list after = (.ok pager, after)
      ∧ (pager.pull op.service form after).1 = .ok (some page)
      ∧ (op.object dir).yields form after
        = (.ok (page.map fun e => .ok (op.object e.path)), after)
      ∧ (∀ e ∈ page, (op.object e.path).path = e.path ↔ Path.startsBlank e.path = false)
      ∧ (∀ e ∈ page, e.metadata.mode = .file → ∃ content, files e.path = some content
        ∧ (Path.startsBlank e.path = false → ∀ form',
          (op.object e.path).read form' .full after = (.ok content.val, after)))
      ∧ ∀ path content, files path = some content → Path.parent path = Path.normalize dir →
        (⟨path, { mode := .file }⟩ : Entry) ∈ page := by
  intro op after files
  have hmirrors : Mirrors (Path.normalizeRoot root) after.service files :=
    mirrors_performAll name (Path.normalizeRoot root) w requests
  have hpath {e : Entry}
      (he : e ∈ page (Path.normalizeRoot root) (Path.normalize dir) after.service) :
      Path.normalize e.path = e.path ↔ Path.startsBlank e.path = false :=
    Path.normalize_eq_self_iff (hmirrors.isCanonical_of_mem_page he)
  refine ⟨page (Path.normalizeRoot root) (Path.normalize dir) after.service, _,
    call_page name (Path.normalizeRoot root) form (Path.normalize dir) after, ?_,
    yields_apply name (Path.normalizeRoot root) form dir after hdir, fun e he => hpath he, ?_, ?_⟩
  · show (Pager.pull (service name (Path.normalizeRoot root)) form _ after).1 = _
    rw [pull_page]
  · intro e he hfile
    obtain ⟨content, hcontent⟩ := hmirrors.content_of_mem_page he hfile
    refine ⟨content, hcontent, ?_⟩
    intro hblank form'
    exact hmirrors.read ((hpath he).2 hblank) hcontent form'
  · intro path content hcontent hparent
    rw [← hparent]
    exact hmirrors.mem_page_of_content hcontent

/-! ### A file whose name begins with a blank -/

/-- Two files in the root, one of which has a name that begins with a blank. -/
def blankRequests : List Request :=
  [⟨.async, "/ a", .write ⟨[120], by decide⟩⟩, ⟨.blocking, "b", .write ⟨[121], by decide⟩⟩]

theorem listing_usable_iff_blank :
    Path.isDir (Path.normalize "/") = true
      ∧ ∃ page : List Entry, (⟨"b", { mode := .file }⟩ : Entry) ∈ page
        ∧ (⟨" a", { mode := .file }⟩ : Entry) ∈ page
        ∧ ((operator "" "/").object "b").path = "b"
        ∧ ((operator "" "/").object " a").path ≠ " a" := by
  have hdir : Path.isDir (Path.normalize "/") = true := by decide
  obtain ⟨page, -, -, -, -, hpath, -, hentry⟩ :=
    listing_usable_iff "" "/" { service := .empty } blankRequests .async "/" hdir
  have hb : (⟨"b", { mode := .file }⟩ : Entry) ∈ page := hentry "b" ⟨[121], by decide⟩ rfl rfl
  have ha : (⟨" a", { mode := .file }⟩ : Entry) ∈ page := hentry " a" ⟨[120], by decide⟩ rfl rfl
  refine ⟨hdir, page, hb, ha, (hpath _ hb).2 (by decide), ?_⟩
  intro hsame
  exact absurd ((hpath _ ha).1 hsame) (by decide)

/-- The file in the root that has a name with a blank at its start exists and is shown, but the
object that the listing yields for it has another path, and does not read. -/
theorem blankName_not_usable :
    let op := operator "" "/"
    let after := (op.performAll blankRequests { service := .empty }).2
    (∃ content, (FileMap.empty.run blankRequests).2 " a" = some content)
      ∧ Path.parent " a" = "/"
      ∧ ((op.object "/").yields .async after).1.map (List.map (Except.map Object.path))
        = .ok [.ok "a", .ok "b"]
      ∧ ∃ e, e.kind = .objectNotFound
        ∧ (op.object " a").read .async .full after = (.error (.failed e), after) := by
  intro op after
  have hpage : page (Path.normalizeRoot "/") (Path.normalize "/") after.service
      = [⟨" a", { mode := .file }⟩, ⟨"b", { mode := .file }⟩] := by decide +kernel
  have hmissing : value (Path.normalizeRoot "/") " a" after.service = none := by decide +kernel
  have hyields := yields_apply "" (Path.normalizeRoot "/") .async "/" after (by decide)
  refine ⟨⟨⟨[120], by decide⟩, rfl⟩, by decide, ?_, ?_⟩
  · rw [hpage] at hyields
    show ((object "" (Path.normalizeRoot "/") "/").yields .async after).1.map _ = _
    rw [hyields]
    have hblank : Path.normalize " a" = "a" := by decide
    have hother : Path.normalize "b" = "b" := by decide
    show (.ok [.ok (Path.normalize " a"), .ok (Path.normalize "b")]
      : Except Stop (List (Except Error String))) = _
    rw [hblank, hother]
  · exact read_missing "" (Path.normalizeRoot "/") .async " a" after (by decide) hmissing .full

end Memory

end ObjectStorage
