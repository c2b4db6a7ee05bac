import ObjectStorage.Memory
import ObjectStorage.Proofs.Table
import ObjectStorage.Proofs.Text.Utf8

/-!
# Scans of the memory store

The memory store does not look at all its keys to find those with a given start.  It goes to where
the start would stand in the order of bytes and reads from there for as long as keys have it.  That
finds the same keys, in the same order, as a look at all of them, since keys with a common start
stand in one block, whatever characters they have.

* `Memory.begins` — whether the bytes of a key begin with those of a text;
* `Memory.scan_contiguous` — what a scan finds, and where it stands among the keys.
-/

namespace ObjectStorage.Memory

/-- Do the bytes of a key begin with those of a text? -/
def begins (start key : String) : Bool := (Text.utf8 start).isPrefixOf (Text.utf8 key)

theorem begins_eq_startsWith (start : String) : begins start = Table.startsWith start := by
  funext key
  rw [Bool.eq_iff_iff, begins, List.isPrefixOf_iff_prefix, Text.utf8_prefix_iff,
    Table.startsWith_iff]

/-- To read on from where a start stands in the order of bytes is to read on from where it stands
in the order of characters. -/
theorem scan_eq_bytes (t : Table Bytes) (start : String) :
    t.scan start = (t.keys.dropWhile fun key => Text.utf8 key < Text.utf8 start).takeWhile
      (begins start) := by
  simp only [Table.scan, begins_eq_startsWith, Text.utf8_lt_iff]

/-- **A scan of the memory store** reads the keys from the first one that is not below the start in
the order of bytes, for as long as they begin with it; these are all keys that begin with it, in
increasing order.  Before them stand the keys below the start, behind them keys above the start that
do not begin with it.  The store is as it was. -/
theorem scan_contiguous (name : String) (form : Form) (start : String) (t : Table Bytes) :
    ∃ below found above,
      (adapter name).scan form start t = (.ok found, t)
        ∧ found = (t.keys.dropWhile fun key => Text.utf8 key < Text.utf8 start).takeWhile
            (begins start)
        ∧ found = t.keys.filter (begins start)
        ∧ found.Pairwise (fun a b => Text.utf8 a < Text.utf8 b)
        ∧ t.keys = below ++ found ++ above
        ∧ (∀ key ∈ below, Text.utf8 key < Text.utf8 start)
        ∧ ∀ key ∈ above, Text.utf8 start < Text.utf8 key ∧ begins start key = false := by
  obtain ⟨below, above, hkeys, hbelow, habove⟩ := t.keys_eq_append_scan start
  have hfilter : t.scan start = t.keys.filter (begins start) := by
    rw [Table.scan_eq_filter, begins_eq_startsWith]
  have hsorted : (t.scan start).Pairwise (fun a b => Text.utf8 a < Text.utf8 b) := by
    rw [Table.scan_eq_filter]
    exact (t.keys_pairwise.filter _).imp Text.utf8_lt_utf8
  refine ⟨below, t.scan start, above, rfl, scan_eq_bytes t start, hfilter, hsorted, hkeys,
    fun key hkey => Text.utf8_lt_utf8 (hbelow key hkey), fun key hkey => ?_⟩
  obtain ⟨hlt, hstart⟩ := habove key hkey
  rw [begins_eq_startsWith]
  exact ⟨Text.utf8_lt_utf8 hlt, hstart⟩

end ObjectStorage.Memory
