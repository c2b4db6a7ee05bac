import ObjectStorage.Proofs.FileMap
import ObjectStorage.Proofs.Fs.Missing
import ObjectStorage.Proofs.Ipmfs.Reading
import ObjectStorage.Proofs.Reading
import ObjectStorage.Memory

/-!
# What reads of a range deliver

A range of a content is cut from it where the content is at hand, read from a position on up to a
number of bytes where a file is open, and asked for by an offset and a count where a node holds the
file.  All three deliver the same bytes, and tell their number before.

* `Service.Delivers` — a read succeeds, and its reader gives these bytes and no others;
* `Kv.delivers_cut`, `Fs.delivers_cut`, `Ipmfs.delivers_cut` — the services, one by one;
* `Delivery.ranges_alike` — the same range of the same content is the same bytes everywhere.
-/

namespace ObjectStorage

variable {σ ρ π : Type}

/-- A read of a range succeeds.  It announces as many bytes as it delivers, and its reader, when it
is read to the end, gives these bytes and fails nowhere. -/
def Service.Delivers (service : Service σ ρ π) (form : Form) (path : String) (range : ByteRange)
    (s : σ) (bytes : Bytes) : Prop :=
  ∃ size reader s', service.call form path (.read range) s = (.ok (size, reader), s')
    ∧ size.toNat = bytes.length
    ∧ ∀ fuel, service.readsLeft reader s' ≤ fuel → ∃ pieces reader',
      service.readPieces form fuel reader s' = ((pieces, none), reader', s')
        ∧ pieces.flatten = bytes

/-- A reader with these bytes left delivers them. -/
theorem ReadsRest.delivers {service : Service σ ρ π} {rest : ρ → σ → Bytes}
    (h : ReadsRest service rest) {form : Form} {path : String} {range : ByteRange} {s s' : σ}
    {size : UInt64} {reader : ρ}
    (hcall : service.call form path (.read range) s = (.ok (size, reader), s'))
    (hsize : size.toNat = (rest reader s').length) :
    service.Delivers form path range s (rest reader s') := by
  refine ⟨size, reader, s', hcall, hsize, fun fuel hfuel => ?_⟩
  exact h.readPieces_flatten form s' fuel reader (Nat.le_trans (h.readsLeft reader s') hfuel)

/-- A content is cut to no more bytes than 64 bits can count. -/
theorem toNat_count_cut (range : ByteRange) (content : Content) :
    (ByteRange.count (range.cut content.val)).toNat = (range.cut content.val).length := by
  apply ByteRange.toNat_count
  rw [ByteRange.length_cut range content.property]
  exact UInt64.toNat_lt _

/-! ### Stores of keys and values -/

namespace Kv

theorem readsBuffers_service (a : Adapter σ) (root : String) : ReadsBuffers (service a root) where
  fill _ _ _ _ := rfl
  readsLeft _ _ := rfl

theorem delivers_cut (a : Adapter σ) (root : String) (form : Form) (path : String)
    (range : ByteRange) {s s' : σ} {content : Content}
    (hget : a.get form (Path.key root path) s = (.ok (some content.val), s')) :
    (service a root).Delivers form path range s (range.cut content.val) := by
  have hcall : (service a root).call form path (.read range) s
      = (.ok (ByteRange.count (range.cut content.val), ⟨range.cut content.val⟩), s') := by
    show andThen (a.get form (Path.key root path) s) _ = _
    rw [hget]
    rfl
  exact (readsBuffers_service a root).readsRest.delivers hcall (toNat_count_cut range content)

end Kv

/-! ### Local files -/

namespace Fs

/-- What is left of an open file. -/
def rest (r : OpenFile) (t : FileTree) : Bytes :=
  r.file.elim [] fun id => ((t.content id).drop r.position).take r.left

theorem drop_length_take (n : Nat) (bs : Bytes) : bs.drop (bs.take n).length = bs.drop n := by
  rw [List.drop_eq_drop_iff, List.length_take]
  omega

theorem readsRest_service (root : String) : ReadsRest (service root) rest where
  fill form n r t := by
    obtain ⟨_ | id, position, left⟩ := r
    · exact ⟨⟨none, position, left⟩, by rw [rest, Option.elim_none, List.take_nil]; rfl,
        List.drop_nil.symm⟩
    · have hgot : ((t.content id).drop position).take (min n left)
          = (rest ⟨some id, position, left⟩ t).take n := List.take_take.symm
      refine ⟨_, congrArg (fun got => (Except.ok got, _, t)) hgot, ?_⟩
      show ((t.content id).drop (position + _)).take (left - _) = _
      rw [hgot, ← List.drop_drop, ← List.drop_take]
      exact drop_length_take n (rest ⟨some id, position, left⟩ t)
  readsLeft r t := by
    obtain ⟨_ | id, position, left⟩ := r
    · exact Nat.zero_le left
    · exact List.length_take_le left _

theorem delivers_cut (root : String) (form : Form) (path : String) (range : ByteRange)
    {t : FileTree} {id : Nat} {content : Content}
    (hopen : t.openRead (Path.underRoot root path) = .ok (.file id))
    (hcontent : t.content id = content.val) :
    (service root).Delivers form path range t (range.cut content.val) := by
  have hcall : (service root).call form path (.read range) t
      = (.ok ((range.resolve (ByteRange.count content.val)).2
            - (range.resolve (ByteRange.count content.val)).1,
          ⟨some id, (range.resolve (ByteRange.count content.val)).1.toNat,
            ((range.resolve (ByteRange.count content.val)).2
              - (range.resolve (ByteRange.count content.val)).1).toNat⟩), t) := by
    show (readObject t (Path.underRoot root path) range, t) = _
    rw [readObject, hopen, ← hcontent]
    rfl
  have hrest : rest ⟨some id, (range.resolve (ByteRange.count content.val)).1.toNat,
      ((range.resolve (ByteRange.count content.val)).2
        - (range.resolve (ByteRange.count content.val)).1).toNat⟩ t = range.cut content.val := by
    rw [ByteRange.cut_eq_take_size, ← hcontent]
    rfl
  rw [← hrest]
  refine (readsRest_service root).delivers hcall ?_
  rw [hrest, ByteRange.length_cut range content.property]

end Fs

/-! ### Files on a node -/

namespace Ipmfs

theorem readsBuffers_service (c : Config) : ReadsBuffers (service c) where
  fill _ _ _ _ := rfl
  readsLeft _ _ := rfl

/-- A read of an object leaves the server as the read of its range does. -/
theorem call_read (c : Config) (path : String) (range : ByteRange) (server : Http.Server) :
    (service c).call .async path (.read range) server
      = ((read c.endpointText (Path.underRoot c.rootPath path) range server).1.map
          fun data => (ByteRange.count data, ⟨data⟩),
        (read c.endpointText (Path.underRoot c.rootPath path) range server).2) := rfl

theorem delivers_cut {c : Config} {base : String} (haddress : IsAddress c.endpointText base)
    {place : String → List String} {files files' : Files} (path : String) (range : ByteRange)
    {server : Http.Server} (hlistens : server.listens = true)
    (hserved : Served base place files server files'
      ((service c).call .async path (.read range) server).2)
    {content : Content}
    (hfile : files (place (Path.underRoot c.rootPath path)) = some content.val) :
    (service c).Delivers .async path range server (range.cut content.val) := by
  have hread := hserved.read haddress hlistens hfile range content.property rfl
  have hcall := call_read c path range server
  rw [hread] at hcall
  exact (readsBuffers_service c).readsRest.delivers hcall (toNat_count_cut range content)

end Ipmfs

namespace Delivery

/-- **The same range of the same content is the same bytes everywhere**: those between start and end
of the range, as it is resolved for the length of the content.  So many bytes are announced, and
these are delivered, by every service on a store of keys and values, by the service on local files,
both in either form, and by the service on a node. -/
theorem ranges_alike (content : Content) (range : ByteRange) :
    let interval := range.resolve (ByteRange.count content.val)
    let bytes := (content.val.drop interval.1.toNat).take (interval.2.toNat - interval.1.toNat)
    (∀ (σ : Type) (a : Kv.Adapter σ) (root : String) (form : Form) (path : String) (s s' : σ),
      a.get form (Path.key root path) s = (.ok (some content.val), s') →
      (Kv.service a root).Delivers form path range s bytes)
    ∧ (∀ (root : String) (form : Form) (path : String) (t : FileTree) (id : Nat),
      t.openRead (Path.underRoot root path) = .ok (.file id) → t.content id = content.val →
      (Fs.service root).Delivers form path range t bytes)
    ∧ ∀ (c : Ipmfs.Config) (base : String) (place : String → List String) (path : String)
        (server : Http.Server) (files files' : Ipmfs.Files),
      Ipmfs.IsAddress c.endpointText base → server.listens = true →
      Ipmfs.Served base place files server files'
        ((Ipmfs.service c).call .async path (.read range) server).2 →
      files (place (Path.underRoot c.rootPath path)) = some content.val →
      (Ipmfs.service c).Delivers .async path range server bytes := by
  intro interval bytes
  have hbytes : bytes = range.cut content.val := rfl
  rw [hbytes]
  refine ⟨?_, ?_, ?_⟩
  · intro σ a root form path s s' hget
    exact Kv.delivers_cut a root form path range hget
  · intro root form path t id hopen hcontent
    exact Fs.delivers_cut root form path range hopen hcontent
  · intro c base place path server files files' haddress hlistens hserved hfile
    exact Ipmfs.delivers_cut haddress path range hlistens hserved hfile

/-! ### One byte, where the last two are wanted -/

theorem length_oneByte : ([120] : Bytes).length < UInt64.size := by decide

/-- The content of the file of `Fs.oneFile`. -/
def oneByte : Content := ⟨[120], length_oneByte⟩

/-- The last two bytes. -/
def lastTwo : ByteRange := ⟨none, some 2⟩

/-- A node with the one file. -/
def node : Ipmfs.Files := fun q => if q = ["r", "f"] then some oneByte.val else none

/-- The size of the file as the node tells it. -/
def told : Http.Response := { body := Text.utf8 "\x7b\"Size\":1\x7d" }

/-- The byte as the node gives it. -/
def given : Http.Response := { body := [120] }

/-- A server that tells the size and gives the byte. -/
def server : Http.Server := { answers := [some told, some given] }

def config : Ipmfs.Config := { root := some "/r/" }

theorem isAddress_config : Ipmfs.IsAddress config.endpointText "/api/v0/files/" :=
  Ipmfs.isAddress_default rfl

theorem location_oneFile : Path.underRoot config.rootPath "f" = "/r/f" := by decide +kernel

theorem place_oneFile : FileTree.bareNames "/r/f" = ["r", "f"] := by decide +kernel

theorem openRead_oneFile : Fs.oneFile.openRead (Path.underRoot "/r/" "f") = .ok (.file 0) := by
  have hpath : Path.underRoot "/r/" "f" = "/r/f" := by decide +kernel
  have hnames : FileTree.names "/r/f" = ["r", "f"] := by decide +kernel
  have hadmissible : FileTree.Admissible "/r/f" := by
    refine ⟨by decide +kernel, by decide +kernel, by decide +kernel, ?_⟩
    rw [hnames]
    decide +kernel
  rw [hpath, FileTree.openRead, FileTree.node, FileTree.find_eq hadmissible, hnames,
    Fs.walk_oneFile_file]
  rfl

/-- The request for the size, which comes first. -/
def sizeRequest : Http.Request := Ipmfs.request "/api/v0/files/" "stat" "/r/f" [] none

/-- The request for the bytes, which comes second. -/
def bytesRequest : Http.Request :=
  Ipmfs.request "/api/v0/files/" "read" "/r/f" (Ipmfs.bounds ⟨some 0, some 1⟩) none

theorem document_told : Json.Reader.document Ipmfs.Stat.reader told.body = .ok { size := 1 } :=
  Ipmfs.ok_of_toOption (by decide +kernel)

/-- What the node has at the path of a request is its one file. -/
theorem file_of_request {path : String} {content : Bytes} (harg : some "/r/f" = some path)
    (hfile : node (FileTree.bareNames path) = some content) : [120] = content := by
  have hpath : "/r/f" = path := Option.some.inj harg
  rw [← hpath, place_oneFile] at hfile
  exact Option.some.inj hfile

theorem handles_sizeRequest :
    Ipmfs.Handles "/api/v0/files/" FileTree.bareNames node sizeRequest (some told) node where
  stat _ _ _ harg hfile :=
    ⟨rfl, told.body, _, ⟨told, rfl, rfl, by decide +kernel⟩, document_told,
      by rw [← file_of_request harg hfile]; rfl⟩
  read h := absurd h (Ipmfs.request_path_ne (by decide))
  remove h := absurd h (Ipmfs.request_path_ne (by decide))

theorem handles_bytesRequest :
    Ipmfs.Handles "/api/v0/files/" FileTree.bareNames node bytesRequest (some given) node where
  stat h := absurd h (Ipmfs.request_path_ne (by decide))
  read _ _ _ harg hfile := by
    obtain ⟨hoffset, hcount⟩ := Ipmfs.number?_bounds "/api/v0/files/" "/r/f" ⟨some 0, some 1⟩
    rw [← file_of_request harg hfile, bytesRequest, hoffset, hcount]
    exact ⟨rfl, given, rfl, rfl, rfl⟩
  remove h := absurd h (Ipmfs.request_path_ne (by decide))

/-- Both requests are handled by the node. -/
theorem served_oneByte :
    Ipmfs.Served "/api/v0/files/" FileTree.bareNames node server node
      ((Ipmfs.service config).call .async "f" (.read lastTwo) server).2 := by
  have hstat : Ipmfs.stat config.endpointText "/r/f" server
      = (.ok { size := 1 }, { answers := [some given], received := [sizeRequest] }) := by
    obtain ⟨url, hask⟩ := Ipmfs.ask_eq isAddress_config (by simp : "stat" ∈ _) "/r/f" []
      (Ipmfs.decoded Ipmfs.Stat.reader) server
    have hsend := Peer.send_answered (p := server) rfl rfl Http.exhausted sizeRequest
    have hdecoded : Ipmfs.decoded Ipmfs.Stat.reader told.body = .ok { size := 1 } := by
      rw [Ipmfs.decoded, document_told]
    rw [Ipmfs.stat, hask, ← sizeRequest, hsend, ← hdecoded]
    rfl
  have hbytes : (Ipmfs.readBytes config.endpointText "/r/f" ⟨some 0, some 1⟩
        { answers := [some given], received := [sizeRequest] }).2
      = { answers := [], received := [bytesRequest, sizeRequest] } := by
    obtain ⟨url, hask⟩ := Ipmfs.ask_eq isAddress_config (by simp : "read" ∈ _) "/r/f"
      (Ipmfs.bounds ⟨some 0, some 1⟩) .ok { answers := [some given], received := [sizeRequest] }
    have hread : Ipmfs.readBytes config.endpointText "/r/f" ⟨some 0, some 1⟩
      { answers := [some given], received := [sizeRequest] } = _ := hask
    rw [hread]
    rfl
  have hread : (Ipmfs.read config.endpointText "/r/f" lastTwo server).2
      = { answers := [], received := [bytesRequest, sizeRequest] } := by
    rw [lastTwo, Ipmfs.read, hstat]
    exact hbytes
  rw [Ipmfs.call_read, location_oneFile, hread]
  exact .step rfl handles_sizeRequest (.step rfl handles_bytesRequest (.refl _ _))

theorem ranges_alike_oneByte :
    (Memory.service "" "/r/").Delivers .blocking "f" lastTwo (.ofList [("r/f", [120])]) [120]
      ∧ (Fs.service "/r/").Delivers .blocking "f" lastTwo Fs.oneFile [120]
      ∧ (Ipmfs.service config).Delivers .async "f" lastTwo server [120] := by
  obtain ⟨hkv, hfs, hnode⟩ := ranges_alike oneByte lastTwo
  have hget : (Table.ofList [("r/f", [120])]).get? (Path.key "/r/" "f") = some oneByte.val := by
    decide +kernel
  refine ⟨hkv _ (Memory.adapter "") "/r/" .blocking "f" _ (.ofList [("r/f", [120])]) ?_,
    hfs "/r/" .blocking "f" Fs.oneFile 0 openRead_oneFile rfl,
    hnode config _ FileTree.bareNames "f" server node node isAddress_config rfl served_oneByte ?_⟩
  · exact congrArg (fun value => (Except.ok value, _)) hget
  · rw [location_oneFile, place_oneFile]
    rfl

end Delivery

end ObjectStorage
