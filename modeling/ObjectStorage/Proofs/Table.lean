import Mathlib.Data.List.TakeWhile
import ObjectStorage.Proofs.Text.Order
import ObjectStorage.Table

/-!
# Scans of ordered tables

The keys with a given start stand next to each other in an ordered table, and the first of them is
the first key that is not below the start.  So a scan, which reads from there for as long as keys
have the start, finds all of them.

* `prefix_of_lt_append` — what stands between a text and its continuation has that start;
* `Table.keys_eq_append_scan` — the keys before, in and behind a scan;
* `Table.mem_scan_iff` — a scan finds the keys with its start;
* `Table.mem_keys_iff` — the keys are those that have a value.
-/

namespace ObjectStorage

/-- A text that is not below a start, but below something with that start, has the start itself.
By induction on the start. -/
theorem prefix_of_lt_append {start cs rest : List Char} (hge : ¬cs < start)
    (hlt : cs < start ++ rest) : start <+: cs := by
  induction start generalizing cs with
  | nil => exact List.nil_prefix
  | cons a start ih =>
    cases cs with
    | nil => exact absurd (List.nil_lt_cons a start) hge
    | cons b cs =>
      rw [List.cons_lt_cons_iff, not_or, not_and] at hge
      rw [List.cons_append, List.cons_lt_cons_iff] at hlt
      obtain hlt | ⟨heq, hlt⟩ := hlt
      · exact absurd hlt hge.1
      · rw [heq, List.cons_prefix_cons]
        exact ⟨rfl, ih (hge.2 heq) hlt⟩

/-- Where a property that one element lacks is lacked by all behind it, what is left when the
property ends is without it. -/
theorem eq_false_of_mem_dropWhile {β : Type} {p : β → Bool} {l : List β}
    (hstop : l.Pairwise fun a b => p b = true → p a = true) {x : β} (hx : x ∈ l.dropWhile p) :
    p x = false := by
  induction l with
  | nil => cases hx
  | cons a l ih =>
    obtain ⟨hfirst, hrest⟩ := List.pairwise_cons.1 hstop
    cases ha : p a with
    | true =>
      rw [List.dropWhile_cons_of_pos ha] at hx
      exact ih hrest hx
    | false =>
      rw [List.dropWhile_cons_of_neg (by simp [ha])] at hx
      obtain rfl | hmem := List.mem_cons.1 hx
      · exact ha
      · rw [← Bool.not_eq_true]
        intro htrue
        rw [hfirst x hmem htrue] at ha
        cases ha

namespace Table

variable {α : Type}

theorem startsWith_iff {start s : String} :
    startsWith start s = true ↔ start.toList <+: s.toList := List.isPrefixOf_iff_prefix

/-- What has a start is not below it. -/
theorem not_lt_of_startsWith {start s : String} (h : startsWith start s = true) :
    ¬s < start := by
  obtain ⟨rest, hrest⟩ := startsWith_iff.1 h
  intro hlt
  rw [String.lt_iff, ← hrest, ← List.append_nil start.toList, List.append_assoc] at hlt
  exact List.not_lt_nil _ (Text.lt_of_append_left_lt hlt)

/-- Beyond a key that is not below a start and does not have it, no key has it. -/
theorem startsWith_of_lt {start s s' : String} (hge : ¬s < start) (hlt : s < s')
    (h : startsWith start s' = true) : startsWith start s = true := by
  obtain ⟨rest, hrest⟩ := startsWith_iff.1 h
  rw [String.lt_iff] at hge hlt
  rw [← hrest] at hlt
  exact startsWith_iff.2 (prefix_of_lt_append hge hlt)

theorem startsWith_self (s : String) : startsWith s s = true :=
  startsWith_iff.2 (List.prefix_refl s.toList)

theorem keys_pairwise (t : Table α) : t.keys.Pairwise (· < ·) := List.pairwise_map.2 t.sorted

/-- From the first key that is not below a start on, no key is. -/
theorem not_lt_of_mem_dropWhile {t : Table α} {start key : String}
    (h : key ∈ t.keys.dropWhile (· < start)) : ¬key < start := by
  have hstop : t.keys.Pairwise fun a b =>
      decide (b < start) = true → decide (a < start) = true := by
    refine t.keys_pairwise.imp fun {a b} hlt hb => ?_
    rw [decide_eq_true_eq] at hb ⊢
    exact String.lt_trans hlt hb
  exact of_decide_eq_false (eq_false_of_mem_dropWhile hstop h)

/-- **The keys with a given start form one block**: those before it are below the start, those
behind it are above the start and do not have it. -/
theorem keys_eq_append_scan (t : Table α) (start : String) :
    ∃ below above, t.keys = below ++ t.scan start ++ above
      ∧ (∀ key ∈ below, key < start)
      ∧ ∀ key ∈ above, start < key ∧ startsWith start key = false := by
  have hsorted : (t.keys.dropWhile (· < start)).Pairwise (· < ·) :=
    t.keys_pairwise.sublist (List.dropWhile_sublist _)
  have hstop : (t.keys.dropWhile (· < start)).Pairwise fun a b =>
      startsWith start b = true → startsWith start a = true :=
    hsorted.imp_of_mem fun ha _ hlt => startsWith_of_lt (not_lt_of_mem_dropWhile ha) hlt
  refine ⟨t.keys.takeWhile (· < start), (t.keys.dropWhile (· < start)).dropWhile (startsWith start),
    ?_, fun key hkey => ?_, fun key hkey => ?_⟩
  · rw [scan, List.append_assoc, List.takeWhile_append_dropWhile, List.takeWhile_append_dropWhile]
  · have hlt := List.mem_takeWhile_imp hkey
    exact of_decide_eq_true hlt
  · have hstart := eq_false_of_mem_dropWhile hstop hkey
    have hge := not_lt_of_mem_dropWhile ((List.dropWhile_sublist _).subset hkey)
    refine ⟨lt_of_not_lt_of_ne hge ?_, hstart⟩
    rintro rfl
    rw [startsWith_self] at hstart
    cases hstart

theorem scan_eq_filter (t : Table α) (start : String) :
    t.scan start = t.keys.filter (startsWith start) := by
  obtain ⟨below, above, hkeys, hbelow, habove⟩ := keys_eq_append_scan t start
  have hscan : (t.scan start).filter (startsWith start) = t.scan start :=
    List.filter_eq_self.2 fun _ hkey => List.mem_takeWhile_imp hkey
  have hnone : below.filter (startsWith start) = [] :=
    List.filter_eq_nil_iff.2 fun key hkey hstart => not_lt_of_startsWith hstart (hbelow key hkey)
  have hnone' : above.filter (startsWith start) = [] :=
    List.filter_eq_nil_iff.2 fun key hkey hstart => by
      rw [(habove key hkey).2] at hstart
      cases hstart
  rw [hkeys, List.filter_append, List.filter_append, hscan, hnone, hnone', List.nil_append,
    List.append_nil]

/-- **A scan finds the keys that have its start**, and no others. -/
theorem mem_scan_iff {t : Table α} {start key : String} :
    key ∈ t.scan start ↔ key ∈ t.keys ∧ startsWith start key = true := by
  rw [scan_eq_filter, List.mem_filter]

/-- The keys of a table are those that have a value. -/
theorem mem_keys_iff {t : Table α} {key : String} :
    key ∈ t.keys ↔ ∃ value, t.get? key = some value := by
  rw [keys, get?, ← Option.isSome_iff_exists]
  induction t.entries with
  | nil => simp
  | cons entry entries ih =>
    obtain ⟨k, value⟩ := entry
    rw [List.map_cons, List.mem_cons, ih, List.lookup_cons]
    by_cases heq : key = k
    · simp [heq]
    · simp [heq, beq_false_of_ne heq]

end Table

end ObjectStorage
