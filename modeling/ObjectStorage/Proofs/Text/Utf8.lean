import Mathlib.Data.List.Infix
import Mathlib.Tactic.Ring
import ObjectStorage.Proofs.Text.Order

/-!
# Texts read back from their bytes

What is written in UTF-8 is read as it was.  A lead byte tells how many digits follow it and carries
the ones that are left; it also bounds the digit that must come next, which is where the encodings
that are too long, the surrogates and the numbers beyond the last character are refused.  No
character is refused there.

* `continuation_succ_eq` — the digits of a number, from the highest one on;
* `continueScan_continuation` — digits are read back;
* `lead?_lead` — what the lead byte of a character announces;
* `le_of_mem_utf8EncodeChar` — which bytes are those of characters beyond ASCII;
* `scan_utf8`, `textLossy_utf8`, `text?_utf8` — texts are read back;
* `utf8_prefix_iff` — one text begins with another one just if its bytes do;
* `length_scan_cons_le` — one byte more adds at most one character.
-/

namespace ObjectStorage.Text

theorem continuation_succ_eq (k v : Nat) :
    continuation (k + 1) v = UInt8.ofNat (v / 64 ^ k % 64 + 0x80) :: continuation k v := by
  induction k generalizing v with
  | zero => simp [continuation]
  | succ k ih =>
    rw [continuation, ih, Nat.div_div_eq_div_mul, ← Nat.pow_succ', List.cons_append]
    rfl

/-- A digit between bounds is read from its byte. -/
theorem continuation?_ofNat (lo hi : Nat) {d : Nat} (hd : d < 64) (hlo : lo ≤ d + 0x80)
    (hhi : d + 0x80 ≤ hi) (hsize : hi < 256) :
    continuation? (UInt8.ofNat lo) (UInt8.ofNat hi) (UInt8.ofNat (d + 0x80)) = some d := by
  have hbyte : (UInt8.ofNat (d + 0x80)).toNat = d + 0x80 := by
    rw [UInt8.toNat_ofNat', Nat.mod_eq_of_lt (by omega)]
  have hbounds : UInt8.ofNat lo ≤ UInt8.ofNat (d + 0x80)
      ∧ UInt8.ofNat (d + 0x80) ≤ UInt8.ofNat hi := by
    rw [UInt8.le_iff_toNat_le, UInt8.le_iff_toNat_le, hbyte, UInt8.toNat_ofNat',
      UInt8.toNat_ofNat', Nat.mod_eq_of_lt hsize, Nat.mod_eq_of_lt (by omega)]
    exact ⟨hlo, hhi⟩
  rw [continuation?, if_pos hbounds, hbyte]
  congr 1
  omega

theorem continueScan_continuation (acc k v : Nat) (bs : Bytes) :
    continueScan acc k (continuation k v ++ bs)
      = (some (Char.ofNat (acc * 64 ^ k + v % 64 ^ k)), bs) := by
  induction k generalizing acc with
  | zero => simp [continueScan, continuation, Nat.mod_one]
  | succ k ih =>
    have hdigit : continuation? 0x80 0xBF (UInt8.ofNat (v / 64 ^ k % 64 + 0x80))
        = some (v / 64 ^ k % 64) :=
      continuation?_ofNat 0x80 0xBF (Nat.mod_lt _ (by omega)) (by omega)
        (by omega) (by omega)
    rw [continuation_succ_eq, List.cons_append, continueScan, hdigit]
    dsimp only
    rw [ih, Nat.mod_pow_succ, Nat.pow_succ]
    congr 3
    ring

/-- What the lead byte of a number announces, as the byte is a number itself. -/
theorem lead?_ofNat {n : Nat} (hn : n < 256) :
    lead? (UInt8.ofNat n) =
      if n < 0xC2 then none
      else if n ≤ 0xDF then some (n % 32, 0x80, 0xBF, 0)
      else if n = 0xE0 then some (0, 0xA0, 0xBF, 1)
      else if n = 0xED then some (13, 0x80, 0x9F, 1)
      else if n ≤ 0xEF then some (n % 16, 0x80, 0xBF, 1)
      else if n = 0xF0 then some (0, 0x90, 0xBF, 2)
      else if n ≤ 0xF3 then some (n % 8, 0x80, 0xBF, 2)
      else if n = 0xF4 then some (4, 0x80, 0x8F, 2)
      else none := by
  have hbyte : (UInt8.ofNat n).toNat = n := by
    rw [UInt8.toNat_ofNat', Nat.mod_eq_of_lt hn]
  simp only [lead?, UInt8.lt_iff_toNat_lt, UInt8.le_iff_toNat_le, ← UInt8.toNat_inj, hbyte]
  rfl

/-- **The lead byte of a character** carries the digits that are left, and leaves room for the
digit that comes next. -/
theorem lead?_lead (c : Char) (hwide : 0x7f < c.toNat) :
    ∃ k lo hi, width c.toNat = k + 1
      ∧ lead? (UInt8.ofNat (lead c.toNat))
        = some (c.toNat / 64 ^ (k + 1), UInt8.ofNat lo, UInt8.ofNat hi, k)
      ∧ lo ≤ c.toNat / 64 ^ k % 64 + 0x80 ∧ c.toNat / 64 ^ k % 64 + 0x80 ≤ hi ∧ hi < 256 := by
  have hvalid : c.toNat < 0xd800 ∨ 0xdfff < c.toNat ∧ c.toNat < 0x110000 := c.valid
  rw [lead?_ofNat (lead_lt_size (toNat_lt c))]
  generalize c.toNat = v at hwide hvalid
  obtain ⟨hv, -, -⟩ | ⟨-, hv, hlead, hwidth⟩ | ⟨hlow, hv, hlead, hwidth⟩ | ⟨hlow, hlead, hwidth⟩ :=
    lead_cases v
  · omega
  · refine ⟨0, 0x80, 0xBF, hwidth, ?_, by omega, by omega, by omega⟩
    rw [hlead, if_neg (by omega), if_pos (by omega)]
    congr 2
    omega
  · -- the two lead bytes that refuse some digits
    by_cases hE0 : v / 4096 = 0
    · refine ⟨1, 0xA0, 0xBF, hwidth, ?_, by omega, by omega, by omega⟩
      rw [hlead, if_neg (by omega), if_neg (by omega), if_pos (by omega)]
      congr 2
      omega
    by_cases hED : v / 4096 = 13
    · refine ⟨1, 0x80, 0x9F, hwidth, ?_, by omega, by omega, by omega⟩
      rw [hlead, if_neg (by omega), if_neg (by omega), if_neg (by omega), if_pos (by omega)]
      congr 2
      omega
    · refine ⟨1, 0x80, 0xBF, hwidth, ?_, by omega, by omega, by omega⟩
      rw [hlead, if_neg (by omega), if_neg (by omega), if_neg (by omega), if_neg (by omega),
        if_pos (by omega)]
      congr 2
      omega
  · by_cases hF0 : v / 262144 = 0
    · refine ⟨2, 0x90, 0xBF, hwidth, ?_, by omega, by omega, by omega⟩
      rw [hlead, if_neg (by omega), if_neg (by omega), if_neg (by omega), if_neg (by omega),
        if_neg (by omega), if_pos (by omega)]
      congr 2
      omega
    by_cases hF4 : v / 262144 = 4
    · refine ⟨2, 0x80, 0x8F, hwidth, ?_, by omega, by omega, by omega⟩
      rw [hlead, if_neg (by omega), if_neg (by omega), if_neg (by omega), if_neg (by omega),
        if_neg (by omega), if_neg (by omega), if_neg (by omega), if_pos (by omega)]
      congr 2
      omega
    · refine ⟨2, 0x80, 0xBF, hwidth, ?_, by omega, by omega, by omega⟩
      rw [hlead, if_neg (by omega), if_neg (by omega), if_neg (by omega), if_neg (by omega),
        if_neg (by omega), if_neg (by omega), if_pos (by omega)]
      congr 2
      omega

theorem scanOne_of_lead {b d lo hi : UInt8} {acc bits n : Nat} (hb : ¬b < 0x80)
    (hlead : lead? b = some (acc, lo, hi, n)) (hd : continuation? lo hi d = some bits)
    (bs : Bytes) : scanOne b (d :: bs) = continueScan (acc * 64 + bits) n bs := by
  rw [scanOne.eq_def, if_neg hb, hlead]
  dsimp only
  rw [hd]

theorem utf8EncodeChar_ascii {c : Char} (h : c.toNat ≤ 0x7f) :
    String.utf8EncodeChar c = [UInt8.ofNat c.toNat] := by
  obtain ⟨-, hlead, hwidth⟩ | ⟨h', -⟩ | ⟨h', -⟩ | ⟨h', -⟩ := lead_cases c.toNat
  · rw [utf8EncodeChar_eq, hlead, hwidth]
    rfl
  all_goals omega

/-- The lead byte of a character beyond ASCII lies beyond ASCII. -/
theorem le_ofNat_lead {c : Char} (hwide : 0x7f < c.toNat) : 0x80 ≤ UInt8.ofNat (lead c.toNat) := by
  rw [UInt8.le_iff_toNat_le, UInt8.toNat_ofNat', Nat.mod_eq_of_lt (lead_lt_size (toNat_lt c))]
  show 0x80 ≤ _
  obtain ⟨hv, -⟩ | ⟨-, -, hv, -⟩ | ⟨-, -, hv, -⟩ | ⟨-, hv, -⟩ := lead_cases c.toNat
  · omega
  all_goals
    rw [hv]
    omega

theorem le_of_mem_continuation {k v : Nat} {b : UInt8} (h : b ∈ continuation k v) : 0x80 ≤ b := by
  induction k generalizing v with
  | zero => exact absurd h List.not_mem_nil
  | succ k ih =>
    rw [continuation, List.mem_append, List.mem_singleton] at h
    obtain h | rfl := h
    · exact ih h
    · rw [UInt8.le_iff_toNat_le, UInt8.toNat_ofNat', Nat.mod_eq_of_lt (by omega)]
      exact Nat.le_add_left _ _

/-- All bytes of a character beyond ASCII lie beyond ASCII too. -/
theorem le_of_mem_utf8EncodeChar {c : Char} (hwide : 0x7f < c.toNat) {b : UInt8}
    (h : b ∈ String.utf8EncodeChar c) : 0x80 ≤ b := by
  rw [utf8EncodeChar_eq, List.mem_cons] at h
  obtain rfl | h := h
  · exact le_ofNat_lead hwide
  · exact le_of_mem_continuation h

/-! ### Texts are read back -/

/-- A character is read from its bytes, whatever follows them. -/
theorem scan_utf8EncodeChar_append (c : Char) (bs : Bytes) :
    scan (String.utf8EncodeChar c ++ bs) = some c :: scan bs := by
  have hone (b : UInt8) (rest : Bytes) (h : scanOne b rest = (some c, bs)) :
      scan (b :: rest) = some c :: scan bs := by
    rw [scan, h]
  by_cases hwide : c.toNat ≤ 0x7f
  · rw [utf8EncodeChar_ascii hwide]
    have hbyte : (UInt8.ofNat c.toNat).toNat = c.toNat := by
      rw [UInt8.toNat_ofNat', Nat.mod_eq_of_lt (by omega)]
    have hsmall : UInt8.ofNat c.toNat < 0x80 := by
      rw [UInt8.lt_iff_toNat_lt, hbyte]
      exact Nat.lt_succ_of_le hwide
    apply hone
    rw [scanOne.eq_def, if_pos hsmall, hbyte, Char.ofNat_toNat]
    rfl
  · obtain ⟨k, lo, hi, hwidth, hlead, hlo, hhi, hsize⟩ := lead?_lead c (Nat.lt_of_not_le hwide)
    have hbig : ¬UInt8.ofNat (lead c.toNat) < 0x80 :=
      UInt8.not_lt.2 (le_ofNat_lead (Nat.lt_of_not_le hwide))
    have hnext := continuation?_ofNat lo hi (Nat.mod_lt _ (by omega)) hlo hhi hsize
    have hvalue : (c.toNat / 64 ^ (k + 1) * 64 + c.toNat / 64 ^ k % 64) * 64 ^ k
        + c.toNat % 64 ^ k = c.toNat := by
      rw [Nat.pow_succ, ← Nat.div_div_eq_div_mul, Nat.div_add_mod', Nat.div_add_mod']
    rw [utf8EncodeChar_eq, hwidth, continuation_succ_eq, List.cons_append, List.cons_append]
    apply hone
    rw [scanOne_of_lead hbig hlead hnext, continueScan_continuation, hvalue, Char.ofNat_toNat]

/-- A text is read from its bytes, whatever follows them. -/
theorem scan_utf8_append (s : String) (bs : Bytes) :
    scan (utf8 s ++ bs) = s.toList.map some ++ scan bs := by
  rw [utf8]
  induction s.toList with
  | nil => rfl
  | cons c cs ih =>
    rw [List.flatMap_cons, List.append_assoc, scan_utf8EncodeChar_append, ih, List.map_cons,
      List.cons_append]

/-- **Bytes of a text are read as its characters.** -/
theorem scan_utf8 (s : String) : scan (utf8 s) = s.toList.map some := by
  have happend := scan_utf8_append s []
  rwa [scan, List.append_nil, List.append_nil] at happend

theorem textLossy_utf8 (s : String) : textLossy (utf8 s) = s := by
  rw [textLossy, scan_utf8, List.map_map]
  simp only [Function.comp_def, Option.getD_some, List.map_id']
  exact String.ofList_toList

/-- One text begins with another one just if its bytes do. -/
theorem utf8_prefix_iff {start key : String} :
    utf8 start <+: utf8 key ↔ start.toList <+: key.toList := by
  constructor
  · rintro ⟨rest, hrest⟩
    have hscan := scan_utf8_append start rest
    rw [hrest, scan_utf8] at hscan
    have hstarts : start.toList.map some <+: key.toList.map some := ⟨_, hscan.symm⟩
    exact (List.prefix_map_iff_of_injective (Option.some_injective _)).1 hstarts
  · rintro ⟨rest, hrest⟩
    rw [utf8, utf8, ← hrest, List.flatMap_append]
    exact List.prefix_append _ _

/-! ### How many characters bytes are read as -/

/-- A byte that goes on with a character. -/
def IsContinuation (b : UInt8) : Prop := 0x80 ≤ b ∧ b ≤ 0xBF

theorem isContinuation_of_continuation? {lo hi b : UInt8} {bits : Nat}
    (h : continuation? lo hi b = some bits) (hlo : 0x80 ≤ lo) (hhi : hi ≤ 0xBF) :
    IsContinuation b := by
  rw [continuation?] at h
  split at h
  · next hb => exact ⟨UInt8.le_trans hlo hb.1, UInt8.le_trans hb.2 hhi⟩
  · cases h

theorem lead?_bounds {b lo hi : UInt8} {acc n : Nat} (h : lead? b = some (acc, lo, hi, n)) :
    0x80 ≤ lo ∧ hi ≤ 0xBF := by
  unfold lead? at h
  grind

/-- Only bytes that go on with a character are passed over. -/
theorem continueScan_passes (acc n : Nat) (bs : Bytes) :
    ∃ passed, bs = passed ++ (continueScan acc n bs).2 ∧ ∀ b ∈ passed, IsContinuation b := by
  induction n generalizing acc bs with
  | zero => exact ⟨[], rfl, by simp⟩
  | succ n ih =>
    cases bs with
    | nil => exact ⟨[], rfl, by simp⟩
    | cons b bs =>
      rw [continueScan]
      split
      · next bits hbits =>
        obtain ⟨passed, hpassed, hall⟩ := ih (acc * 64 + bits) bs
        refine ⟨b :: passed, by rw [List.cons_append, ← hpassed], ?_⟩
        rw [List.forall_mem_cons]
        exact ⟨isContinuation_of_continuation? hbits (by decide) (by decide), hall⟩
      · exact ⟨[], rfl, by simp⟩

theorem scanOne_passes (b : UInt8) (bs : Bytes) :
    ∃ passed, bs = passed ++ (scanOne b bs).2 ∧ ∀ b ∈ passed, IsContinuation b := by
  rw [scanOne.eq_def]
  split
  · exact ⟨[], rfl, by simp⟩
  · split
    · next acc lo hi n c cs hlead =>
      split
      · next bits hbits =>
        obtain ⟨hlo, hhi⟩ := lead?_bounds hlead
        obtain ⟨passed, hpassed, hall⟩ := continueScan_passes (acc * 64 + bits) n cs
        refine ⟨c :: passed, by rw [List.cons_append, ← hpassed], ?_⟩
        rw [List.forall_mem_cons]
        exact ⟨isContinuation_of_continuation? hbits hlo hhi, hall⟩
      · exact ⟨[], rfl, by simp⟩
    · exact ⟨[], rfl, by simp⟩

theorem scan_continuation {b : UInt8} (h : IsContinuation b) (bs : Bytes) :
    scan (b :: bs) = none :: scan bs := by
  have hsmall : ¬b < 0x80 := UInt8.not_lt.2 h.1
  have hlead : lead? b = none := if_pos (UInt8.lt_of_le_of_lt h.2 (by decide))
  have hone : scanOne b bs = (none, bs) := by
    rw [scanOne.eq_def, if_neg hsmall, hlead]
  rw [scan, hone]

/-- **One byte more adds at most one character**: what is passed over with it would be read as one
broken sequence for each byte. -/
theorem length_scan_cons_le (b : UInt8) (bs : Bytes) :
    (scan (b :: bs)).length ≤ (scan bs).length + 1 := by
  obtain ⟨passed, hpassed, hall⟩ := scanOne_passes b bs
  have hrest : (scan (scanOne b bs).2).length ≤ (scan bs).length := by
    generalize (scanOne b bs).2 = rest at hpassed
    rw [hpassed]
    clear hpassed
    induction passed with
    | nil => exact Nat.le_refl _
    | cons c passed ih =>
      obtain ⟨hc, hpassed⟩ := List.forall_mem_cons.1 hall
      rw [List.cons_append, scan_continuation hc, List.length_cons]
      exact Nat.le_succ_of_le (ih hpassed)
  rw [scan, List.length_cons]
  exact Nat.succ_le_succ hrest

end ObjectStorage.Text
