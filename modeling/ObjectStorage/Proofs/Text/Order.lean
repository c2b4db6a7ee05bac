import Mathlib.Algebra.Group.Nat.Defs
import ObjectStorage.Text.Utf8

/-!
# The order of texts in bytes

Texts compare as their bytes in UTF-8 do.  The bytes of a character are a lead byte, which grows
with the number of the character, and the digits to base 64 that the lead byte leaves out, the
highest first.  So where two texts differ first, their bytes differ in the same sense.

* `lead`, `width`, `continuation` — the bytes of a character as digits;
* `utf8EncodeChar_append_lt` — characters in order have bytes in order, whatever follows;
* `utf8_lt_iff` — texts are in order just if their bytes are;
* `append_lt_append`, `lt_of_append_lt` — a common start makes no difference.
-/

namespace ObjectStorage.Text

/-! ### Characters -/

/-- The number of bytes after the lead byte of a character. -/
def width (v : Nat) : Nat :=
  if v ≤ 0x7f then 0 else if v ≤ 0x7ff then 1 else if v ≤ 0xffff then 2 else 3

/-- The lead byte of a character. -/
def lead (v : Nat) : Nat :=
  if v ≤ 0x7f then v else if v ≤ 0x7ff then v / 64 + 0xc0
  else if v ≤ 0xffff then v / 4096 + 0xe0 else v / 262144 + 0xf0

/-- The lowest digits of a number to base 64 as continuation bytes, the highest first. -/
def continuation : Nat → Nat → Bytes
  | 0, _ => []
  | k + 1, v => continuation k (v / 64) ++ [UInt8.ofNat (v % 64 + 0x80)]

theorem toNat_lt (c : Char) : c.toNat < 0x110000 := by
  have hvalid : c.toNat < 0xd800 ∨ 0xdfff < c.toNat ∧ c.toNat < 0x110000 := c.valid
  omega

theorem utf8EncodeChar_eq (c : Char) :
    String.utf8EncodeChar c
      = UInt8.ofNat (lead c.toNat) :: continuation (width c.toNat) c.toNat := by
  have hbound := toNat_lt c
  rw [String.utf8EncodeChar, show c.val.toNat = c.toNat from rfl]
  generalize c.toNat = v at hbound
  unfold lead width
  split
  · rfl
  · split
    · rw [Nat.mod_eq_of_lt (show v / 64 < 32 by omega)]
      rfl
    · split
      · rw [Nat.mod_eq_of_lt (show v / 4096 < 16 by omega),
          show v / 4096 = v / 64 / 64 by omega]
        rfl
      · rw [Nat.mod_eq_of_lt (show v / 262144 < 8 by omega),
          show v / 4096 = v / 64 / 64 by omega]
        rfl

/-- Of two numbers in order either the rests without the last digit are in order, or the rests are
the same and the last digits are in order. -/
theorem digit_lt {v w : Nat} (h : v < w) :
    v / 64 < w / 64 ∨ v / 64 = w / 64 ∧ v % 64 < w % 64 := by
  omega

theorem ofNat_lt_ofNat {a b : Nat} (hb : b < 256) (h : a < b) : UInt8.ofNat a < UInt8.ofNat b := by
  rw [UInt8.lt_iff_toNat_lt, UInt8.toNat_ofNat', UInt8.toNat_ofNat', Nat.mod_eq_of_lt hb]
  exact Nat.lt_of_le_of_lt (Nat.mod_le a _) h

/-- Numbers with the same higher digits compare as their lower digits do. -/
theorem continuation_lt (k : Nat) {v w : Nat} (h : v < w) (hhigh : v / 64 ^ k = w / 64 ^ k)
    (x y : Bytes) : continuation k v ++ x < continuation k w ++ y := by
  induction k generalizing v w x y with
  | zero =>
    rw [Nat.pow_zero, Nat.div_one, Nat.div_one] at hhigh
    omega
  | succ k ih =>
    rw [continuation, continuation, List.append_assoc, List.append_assoc]
    rcases digit_lt h with hrest | ⟨hrest, hdigit⟩
    · apply ih hrest
      rw [Nat.div_div_eq_div_mul, Nat.div_div_eq_div_mul, ← Nat.pow_succ']
      exact hhigh
    · rw [hrest]
      apply List.append_left_lt
      exact List.cons_lt_cons_iff.2 (.inl (ofNat_lt_ofNat (by omega) (by omega)))

/-- The four lengths that a character can have. -/
theorem lead_cases (v : Nat) :
    (v ≤ 0x7f ∧ lead v = v ∧ width v = 0)
      ∨ (0x7f < v ∧ v ≤ 0x7ff ∧ lead v = v / 64 ^ 1 + 0xc0 ∧ width v = 1)
      ∨ (0x7ff < v ∧ v ≤ 0xffff ∧ lead v = v / 64 ^ 2 + 0xe0 ∧ width v = 2)
      ∨ (0xffff < v ∧ lead v = v / 64 ^ 3 + 0xf0 ∧ width v = 3) := by
  unfold lead width
  split
  · exact .inl ⟨by assumption, rfl, rfl⟩
  · split
    · exact .inr (.inl ⟨by omega, by assumption, rfl, rfl⟩)
    · split
      · exact .inr (.inr (.inl ⟨by omega, by assumption, rfl, rfl⟩))
      · exact .inr (.inr (.inr ⟨by omega, rfl, rfl⟩))

/-- The lead byte decides unless it is the same; then it leaves out the same number of digits. -/
theorem lead_lt {v w : Nat} (h : v < w) (hw : w < 0x110000) :
    lead v < lead w
      ∨ lead v = lead w ∧ width v = width w ∧ v / 64 ^ width v = w / 64 ^ width w := by
  rcases lead_cases v with ⟨_, hv, kv⟩ | ⟨_, _, hv, kv⟩ | ⟨_, _, hv, kv⟩ | ⟨_, hv, kv⟩
  all_goals
    rcases lead_cases w with ⟨_, hw, kw⟩ | ⟨_, _, hw, kw⟩ | ⟨_, _, hw, kw⟩ | ⟨_, hw, kw⟩
    all_goals
      rw [hv, kv, hw, kw]
      omega

theorem lead_lt_size {v : Nat} (h : v < 0x110000) : lead v < 256 := by
  rcases lead_cases v with ⟨_, hv, _⟩ | ⟨_, _, hv, _⟩ | ⟨_, _, hv, _⟩ | ⟨_, hv, _⟩
  all_goals
    rw [hv]
    omega

/-- The bytes of a character come before those of a later one, whatever follows them. -/
theorem utf8EncodeChar_append_lt {c d : Char} (h : c < d) (x y : Bytes) :
    String.utf8EncodeChar c ++ x < String.utf8EncodeChar d ++ y := by
  have hlt : c.toNat < d.toNat := UInt32.lt_iff_toNat_lt.1 h
  rw [utf8EncodeChar_eq, utf8EncodeChar_eq, List.cons_append, List.cons_append,
    List.cons_lt_cons_iff]
  rcases lead_lt hlt (toNat_lt d) with hlead | ⟨hlead, hwidth, hhigh⟩
  · exact .inl (ofNat_lt_ofNat (lead_lt_size (toNat_lt d)) hlead)
  · rw [← hwidth] at hhigh ⊢
    rw [hlead]
    exact .inr ⟨rfl, continuation_lt _ hlt hhigh x y⟩

/-! ### Texts -/

theorem flatMap_lt_flatMap {cs ds : List Char} (h : cs < ds) :
    cs.flatMap String.utf8EncodeChar < ds.flatMap String.utf8EncodeChar := by
  induction cs generalizing ds with
  | nil =>
    cases ds with
    | nil => exact absurd h (List.lt_irrefl [])
    | cons d ds =>
      rw [List.flatMap_nil, List.flatMap_cons, utf8EncodeChar_eq, List.cons_append]
      exact List.nil_lt_cons _ _
  | cons c cs ih =>
    cases ds with
    | nil => exact absurd h (List.not_lt_nil _)
    | cons d ds =>
      rw [List.flatMap_cons, List.flatMap_cons]
      rcases List.cons_lt_cons_iff.1 h with hlt | ⟨rfl, hrest⟩
      · exact utf8EncodeChar_append_lt hlt _ _
      · exact List.append_left_lt (ih hrest)

theorem utf8_lt_utf8 {a b : String} (h : a < b) : utf8 a < utf8 b :=
  flatMap_lt_flatMap (String.lt_iff.1 h)

/-- **The order of texts is the order of their bytes.** -/
theorem utf8_lt_iff {a b : String} : utf8 a < utf8 b ↔ a < b := by
  refine ⟨fun h => ?_, utf8_lt_utf8⟩
  rw [← Decidable.not_not (p := a < b), String.not_lt]
  intro hle
  by_cases hlt : b < a
  · exact List.lt_irrefl _ (List.lt_trans h (utf8_lt_utf8 hlt))
  · obtain rfl := String.le_antisymm hle (String.not_lt.1 hlt)
    exact List.lt_irrefl _ h

/-! ### A common start -/

theorem append_lt_append {s x y : String} (h : x < y) : s ++ x < s ++ y := by
  rw [String.lt_iff, String.toList_append, String.toList_append]
  exact List.append_left_lt (String.lt_iff.1 h)

theorem lt_of_append_left_lt {cs xs ys : List Char} (h : cs ++ xs < cs ++ ys) : xs < ys := by
  induction cs with
  | nil => exact h
  | cons c cs ih =>
    rw [List.cons_append, List.cons_append, List.cons_lt_cons_iff] at h
    rcases h with hlt | ⟨_, hrest⟩
    · exact absurd hlt (Char.lt_irrefl c)
    · exact ih hrest

theorem lt_of_append_lt {s x y : String} (h : s ++ x < s ++ y) : x < y := by
  rw [String.lt_iff, String.toList_append, String.toList_append] at h
  exact String.lt_iff.2 (lt_of_append_left_lt h)

end ObjectStorage.Text
