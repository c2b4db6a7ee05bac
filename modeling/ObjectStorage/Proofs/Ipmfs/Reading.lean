import Mathlib
import ObjectStorage.Proofs.Ipmfs.Node
import ObjectStorage.Proofs.Range

/-!
# Ranges of a file on an IPFS node

A node is asked for bytes from an offset on, up to a count.  Offset and count are those of the
range; only where the last bytes are wanted the node is asked for the size of the file before.

* `Ipmfs.ask_eq` — a command whose answer is read;
* `Ipmfs.Served.ask` — what a node that is asked tells;
* `Ipmfs.Served.stat`, `Ipmfs.Served.readBytes` — the size and the bytes of a file;
* `Ipmfs.Served.read` — a range of a file, cut as any content is.
-/

namespace ObjectStorage.Ipmfs

/-! ### Numbers in requests -/

/-- The numbers that a request for bytes has in its query. -/
def bounds (range : ByteRange) : List (String × String) :=
  (range.offset.map fun n => ("offset", toString n)).toList
    ++ (range.size.map fun n => ("count", toString n)).toList

theorem number?_bounds (base path : String) (range : ByteRange) :
    number? (request base "read" path (bounds range) none) "offset"
        = range.offset.map UInt64.toNat
      ∧ number? (request base "read" path (bounds range) none) "count"
        = range.size.map UInt64.toNat := by
  -- this one fact on texts is in no single file of the library, hence the import of all of it
  have hread (n : UInt64) : (toString n).toNat? = some n.toNat := Nat.toNat?_repr n.toNat
  obtain ⟨offset | offset, size | size⟩ := range
  · exact ⟨rfl, rfl⟩
  · exact ⟨rfl, hread size⟩
  · exact ⟨hread offset, rfl⟩
  · exact ⟨hread offset, hread size⟩

/-! ### Questions -/

/-- The last bytes are asked for by their offset, which the size tells. -/
theorem readLast_of_stat {endpoint path : String} {server : Http.Server} {s : Stat} (size : UInt64)
    (hstat : (stat endpoint path server).1 = .ok s) :
    read endpoint path ⟨none, some size⟩ server
      = readBytes endpoint path
        ⟨some ((⟨none, some size⟩ : ByteRange).resolve s.size).1,
          some (((⟨none, some size⟩ : ByteRange).resolve s.size).2
            - ((⟨none, some size⟩ : ByteRange).resolve s.size).1)⟩
        (stat endpoint path server).2 := by
  rw [read]
  rcases hpair : stat endpoint path server with ⟨result, server₁⟩
  rw [hpair] at hstat
  rw [show result = .ok s from hstat]

section

variable {endpoint base : String} (haddress : IsAddress endpoint base)
include haddress

/-- A command whose answer is read is one request. -/
theorem ask_eq {α : Type} {name : String} (hname : name ∈ ["stat", "read", "rm"]) (path : String)
    (options : List (String × String)) (read : Bytes → Except Error α) (server : Http.Server) :
    ∃ url, ask endpoint name path options read server
      = ((heard url (server.send Http.exhausted (request base name path options none)).1).bind
          fun r => (accepted r).bind read,
        (server.send Http.exhausted (request base name path options none)).2) := by
  obtain ⟨url, hcommand⟩ := command_eq haddress hname path options none server
  refine ⟨url, ?_⟩
  rw [ask, hcommand]

theorem received_suffix_readBytes (path : String) (range : ByteRange) (server : Http.Server) :
    server.received <:+ (readBytes endpoint path range server).2.received := by
  obtain ⟨url, hask⟩ := ask_eq haddress (by simp : "read" ∈ _) path (bounds range) .ok server
  have hread : readBytes endpoint path range server = _ := hask
  rw [hread]
  exact Peer.received_suffix_send _ _ _

/-- All that the size is asked for stays on record while the last bytes are read. -/
theorem received_suffix_readLast (path : String) (size : UInt64) (server : Http.Server) :
    (stat endpoint path server).2.received
      <:+ (read endpoint path ⟨none, some size⟩ server).2.received := by
  cases hstat : (stat endpoint path server).1 with
  | ok s =>
    rw [readLast_of_stat size hstat]
    exact received_suffix_readBytes haddress path _ _
  | error e =>
    rw [read]
    rcases hpair : stat endpoint path server with ⟨result, server₁⟩
    rw [hpair] at hstat
    rw [show result = .error e from hstat]

variable {place : String → List String} {files files' : Files} {server server' : Http.Server}
  (hserved : Served base place files server files' server') (hlistens : server.listens = true)
include hserved hlistens

/-- What a node tells that is asked first is read from its answer. -/
theorem Served.ask {α : Type} {name : String} (hname : name ∈ ["stat", "read", "rm"])
    (path : String) (options : List (String × String)) (read : Bytes → Except Error α)
    (hsent : (Ipmfs.ask endpoint name path options read server).2.received <:+ server'.received) :
    ∃ answer files₁, Handles base place files (request base name path options none) answer files₁
      ∧ (∀ body, Tells answer body →
        (Ipmfs.ask endpoint name path options read server).1 = read body)
      ∧ (Ipmfs.ask endpoint name path options read server).2.listens = true
      ∧ Served base place files₁ (Ipmfs.ask endpoint name path options read server).2 files'
        server' := by
  obtain ⟨url, hask⟩ := ask_eq haddress hname path options read server
  rw [hask] at hsent ⊢
  obtain ⟨answer, rest, files₁, -, hending, hstill, hhandles, hnext⟩ :=
    hserved.first_send hlistens hsent
  refine ⟨answer, files₁, hhandles, ?_, hstill, hnext⟩
  rintro body ⟨r, rfl, hstatus, hcontent⟩
  have haccepted : accepted r = .ok body := by
    rw [accepted, if_pos hstatus, content, hcontent]
  dsimp only
  rw [hending]
  show (accepted r).bind read = read body
  rw [haccepted]
  rfl

variable {path : String} {content : Bytes} (hfile : files (place path) = some content)
include hfile

/-- The size that a node tells of a file is that of its content. -/
theorem Served.stat (hsent : (Ipmfs.stat endpoint path server).2.received <:+ server'.received) :
    ∃ s, (Ipmfs.stat endpoint path server).1 = .ok s ∧ s.size.toNat = content.length
      ∧ (Ipmfs.stat endpoint path server).2.listens = true
      ∧ Served base place files (Ipmfs.stat endpoint path server).2 files' server' := by
  obtain ⟨answer, files₁, hhandles, htold, hstill, hnext⟩ :=
    hserved.ask haddress hlistens (by simp) path [] (decoded Stat.reader) hsent
  obtain ⟨rfl, body, s, htells, hdocument, hsize⟩ := hhandles.stat rfl rfl hfile
  refine ⟨s, ?_, hsize, hstill, hnext⟩
  rw [Ipmfs.stat, htold body htells, decoded, hdocument]

/-- The bytes that a node gives of a file are those from the offset on, up to the count. -/
theorem Served.readBytes (range : ByteRange)
    (hsent : (Ipmfs.readBytes endpoint path range server).2.received <:+ server'.received) :
    (Ipmfs.readBytes endpoint path range server).1
        = .ok ((content.drop ((range.offset.map UInt64.toNat).getD 0)).take
          ((range.size.map UInt64.toNat).getD content.length)) := by
  obtain ⟨answer, files₁, hhandles, htold, -, -⟩ :=
    hserved.ask haddress hlistens (by simp) path (bounds range) .ok hsent
  obtain ⟨-, htells⟩ := hhandles.read rfl rfl hfile
  obtain ⟨hoffset, hcount⟩ := number?_bounds base path range
  rw [hoffset, hcount] at htells
  exact htold _ htells

/-- Where the last bytes are wanted, the size that is asked for tells where they begin. -/
theorem Served.readLast (size : UInt64) (hlength : content.length < UInt64.size)
    (hend : server' = (Ipmfs.read endpoint path ⟨none, some size⟩ server).2) :
    (Ipmfs.read endpoint path ⟨none, some size⟩ server).1
      = .ok ((⟨none, some size⟩ : ByteRange).cut content) := by
  have hsent : (Ipmfs.stat endpoint path server).2.received <:+ server'.received := by
    rw [hend]
    exact received_suffix_readLast haddress path size server
  obtain ⟨s, hstat, hsize, hstill, hnext⟩ := hserved.stat haddress hlistens hfile hsent
  have hcount : s.size = ByteRange.count content :=
    UInt64.toNat_inj.1 (hsize.trans (ByteRange.toNat_count hlength).symm)
  rw [readLast_of_stat size hstat, hcount] at hend ⊢
  rw [hnext.readBytes haddress hstill hfile _ (by rw [hend]), ByteRange.cut_eq_take_size]
  rfl

/-- **A range of a file** is read from a node as it is cut from the content. -/
theorem Served.read (range : ByteRange) (hlength : content.length < UInt64.size)
    (hend : server' = (Ipmfs.read endpoint path range server).2) :
    (Ipmfs.read endpoint path range server).1 = .ok (range.cut content) := by
  have hbytes (hlast : range.offset = none → range.size = none)
      (hread : Ipmfs.read endpoint path range server
        = Ipmfs.readBytes endpoint path range server) :
      (Ipmfs.read endpoint path range server).1 = .ok (range.cut content) := by
    rw [hread] at hend ⊢
    rw [ByteRange.cut_of_offset hlast hlength]
    exact hserved.readBytes haddress hlistens hfile range (by rw [hend])
  obtain ⟨offset | offset, size | size⟩ := range
  · exact hbytes (fun _ => rfl) rfl
  · exact hserved.readLast haddress hlistens hfile size hlength hend
  · exact hbytes (fun _ => rfl) rfl
  · exact hbytes (fun h => by cases h) rfl

end

end ObjectStorage.Ipmfs
