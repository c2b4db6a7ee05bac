import ObjectStorage.Command
import ObjectStorage.Proofs.Host.Memory
import ObjectStorage.Proofs.Path.Spelling

/-!
# Copies

A copy reads the whole source before it writes the destination.  So it either fails and leaves
everything as it was, or it puts the bytes of the source under the path where it lands: the
destination, or the name of the source in a destination that is spelled as a directory.

* `Command.landing` — where a copy lands;
* `Command.normalize_destination` — the path that is written lands there, however it is spelled;
* `Command.cp_of_dir`, `Command.cp_of_unread`, `Command.cp_of_unwritten`, `Command.cp_of_written` —
  the four ways in which a copy ends;
* `Command.cp_exact` — what a copy between memory services does.
-/

namespace ObjectStorage.Command

/-! ### Where a copy lands -/

/-- Where a copy of a source lands, in canonical form. -/
def landing (src dst : String) : String :=
  if Path.isDir dst then Path.inside (Path.normalize dst) ++ Path.name (Path.normalize src)
  else Path.normalize dst

/-- **The path that is written is the one where the copy lands**, however both are spelled. -/
theorem normalize_destination {src : String} (hfile : Path.isDir (Path.normalize src) = false)
    (dst : String) :
    Path.normalize (destination (Path.name (Path.normalize src)) dst) = landing src dst := by
  obtain ⟨hne, hslash, hends⟩ := Path.name_spec (Path.isCanonical_of_file hfile) hfile
  rw [destination, landing]
  split
  · next hdir => exact Path.normalize_append_name hdir hne hslash hends
  · rfl

/-! ### The ways in which a copy ends -/

section

variable {σ ρ π : Type} {srcOp dstOp : Operator σ ρ π} {src dst : String} {w w' w'' : World σ}
  {e : Error} {data : Bytes}

/-- The event that tells of a copy. -/
def copied (src dst : String) (size : Nat) : Event :=
  .remark .info target "copied" [("src", .text src), ("dst", .text dst), ("size", .number size)]

theorem cp_of_dir (h : (srcOp.object src).isDir = true) :
    cp srcOp src dstOp dst w
      = (.error (.message s!"copying directory {(srcOp.object src).path} is not supported"),
          w) := by
  rw [cp]
  dsimp only
  rw [if_pos h]
  rfl

variable (hfile : (srcOp.object src).isDir = false)
include hfile

theorem cp_of_file :
    cp srcOp src dstOp dst
      = ofRun ((srcOp.object src).read .async) >>= fun data =>
        ofRun ((dstOp.object (destination (srcOp.object src).name dst)).write .async data)
          >>= fun _ => log (copied (srcOp.object src).path
            (destination (srcOp.object src).name dst) data.length) := by
  rw [cp]
  dsimp only
  rw [hfile, if_neg Bool.false_ne_true]
  rfl

theorem cp_of_unread (hread : (srcOp.object src).read .async .full w = (.error (.failed e), w')) :
    cp srcOp src dstOp dst w = (.error (.storage e), w') := by
  rw [cp_of_file hfile]
  exact bind_of_error (ofRun_of_failed hread)

theorem cp_of_unwritten (hread : (srcOp.object src).read .async .full w = (.ok data, w'))
    (hwrite : (dstOp.object (destination (srcOp.object src).name dst)).write .async data w'
      = (.error (.failed e), w'')) :
    cp srcOp src dstOp dst w = (.error (.storage e), w'') := by
  rw [cp_of_file hfile, bind_of_ok (ofRun_of_ok hread)]
  exact bind_of_error (ofRun_of_failed hwrite)

theorem cp_of_written (hread : (srcOp.object src).read .async .full w = (.ok data, w'))
    (hwrite : (dstOp.object (destination (srcOp.object src).name dst)).write .async data w'
      = (.ok (), w'')) :
    cp srcOp src dstOp dst w
      = (.ok (), { w'' with events := w''.events ++ [copied (srcOp.object src).path
          (destination (srcOp.object src).name dst) data.length] }) := by
  rw [cp_of_file hfile, bind_of_ok (ofRun_of_ok hread), bind_of_ok (ofRun_of_ok hwrite)]
  rfl

end

/-! ### Copies between memory services -/

/-- A copy that fails and leaves everything as it was is one that must not succeed. -/
theorem exact_of_error {result : Except Failure Unit × World Host} {f : Failure} {w : World Host}
    {condition held : Prop} (h : result = (.error f, w)) (hfails : ¬condition) :
    (result.1 = .ok () ↔ condition) ∧ (result.1 = .ok () → held)
      ∧ (result.1 ≠ .ok () → result.2.service = w.service) := by
  have hne : result.1 ≠ .ok () := by
    rw [h]
    intro hok
    cases hok
  exact ⟨⟨fun hok => absurd hok hne, fun hc => absurd hc hfails⟩, fun hok => absurd hok hne,
    fun _ => by rw [h]⟩

/-- **A copy is exact, and all or nothing.**  Between memory services on the tables of a host, which
may be the same table, it succeeds just if the source is a file that is there and the copy does not
land on a directory.  Then the file where it lands has the bytes of the source, and every other
value of every table is what it was.  If it fails, the host is what it was. -/
theorem cp_exact (i j : Nat) (srcName srcRoot dstName dstRoot src dst : String) (w : World Host)
    (htable : j < w.service.tables.length)
    (hsize : ∀ data, Host.held i srcRoot src w.service = some data →
      data.length < UInt64.size) :
    let result := cp (Host.memory i srcName srcRoot) src (Host.memory j dstName dstRoot) dst w
    (result.1 = .ok () ↔ Path.isDir (Path.normalize src) = false
        ∧ Host.held i srcRoot src w.service ≠ none ∧ Path.isDir (landing src dst) = false)
      ∧ (result.1 = .ok () → ∀ k key,
          ((Host.table k).get result.2.service).get? key
            = if k = j ∧ key = Path.key (Path.normalizeRoot dstRoot) (landing src dst)
              then Host.held i srcRoot src w.service
              else ((Host.table k).get w.service).get? key)
      ∧ (result.1 ≠ .ok () → result.2.service = w.service) := by
  intro result
  cases hdir : Path.isDir (Path.normalize src) with
  | true => exact exact_of_error (cp_of_dir hdir) fun h => Bool.noConfusion h.1
  | false =>
    cases hheld : Host.held i srcRoot src w.service with
    | none =>
      obtain ⟨e, -, hread⟩ := Host.read_missing i srcName srcRoot .async src w hdir hheld .full
      exact exact_of_error (cp_of_unread hdir hread) fun h => h.2.1 rfl
    | some data =>
      have hread := Host.read_file i srcName srcRoot .async src w hdir hheld .full
      rw [ByteRange.cut_full (hsize data hheld)] at hread
      have hpath := normalize_destination hdir dst
      cases hland : Path.isDir (landing src dst) with
      | true =>
        have hisDir : ((Host.memory j dstName dstRoot).object
            (destination (Path.name (Path.normalize src)) dst)).isDir = true := by
          show Path.isDir (Path.normalize _) = true
          rw [hpath, hland]
        obtain ⟨e, -, hwrite⟩ := Object.write_of_dir hisDir .async data w
        exact exact_of_error (cp_of_unwritten hdir hread hwrite) fun h => Bool.noConfusion h.2.2
      | false =>
        have hwrite := Host.write_file j dstName dstRoot .async _ w (hpath ▸ hland) data
        have hresult : result = (.ok (), _) := cp_of_written hdir hread hwrite
        rw [hresult]
        refine ⟨⟨fun _ => ⟨rfl, Option.some_ne_none data, rfl⟩, fun _ => rfl⟩, fun _ k key => ?_,
          fun h => absurd rfl h⟩
        have hput := Host.get?_table_put htable
          (Path.key (Path.normalizeRoot dstRoot) (landing src dst)) data k key
        rw [← hpath] at hput ⊢
        exact hput

/-- Two tables, the first one with the file `s`. -/
def twoTables : Host := { tables := [Table.empty.insert "s" [120], .empty] }

theorem held_twoTables : Host.held 0 "/" " s" twoTables = some [120] := by decide +kernel

theorem landing_spelled : landing " s" " d//" = "d/s" := by decide +kernel

theorem cp_exact_spelled :
    (1 < twoTables.tables.length
      ∧ ∀ data, Host.held 0 "/" " s" twoTables = some data → data.length < UInt64.size)
      ∧ let result := cp (Host.memory 0 "" "/") " s" (Host.memory 1 "" "/") " d//"
          { service := twoTables }
        result.1 = .ok () ∧ ((Host.table 1).get result.2.service).get? "d/s" = some [120]
          ∧ ((Host.table 0).get result.2.service).get? "s" = some [120] := by
  have htable : 1 < twoTables.tables.length := by decide
  have hsize : ∀ data, Host.held 0 "/" " s" twoTables = some data →
      data.length < UInt64.size := by
    intro data hdata
    cases held_twoTables.symm.trans hdata
    decide
  obtain ⟨hiff, hexact, -⟩ := cp_exact 0 1 "" "/" "" "/" " s" " d//" { service := twoTables }
    htable hsize
  have hok := hiff.2 ⟨by decide +kernel, by rw [held_twoTables]; exact Option.some_ne_none _,
    by rw [landing_spelled]; decide⟩
  refine ⟨⟨htable, hsize⟩, hok, ?_, ?_⟩
  · rw [hexact hok, if_pos ⟨rfl, by rw [landing_spelled]; decide +kernel⟩, held_twoTables]
  · rw [hexact hok, if_neg (by decide)]
    decide +kernel

end ObjectStorage.Command
