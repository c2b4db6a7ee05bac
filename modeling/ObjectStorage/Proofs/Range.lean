import ObjectStorage.Range

/-!
# Ranges between two bounds

A range that is given by a lower and an upper bound means the positions that satisfy both.  A
content is cut by an offset and a size of 64 bits instead; that this gives the same bytes, with
bounds of any form and at any place, rests on no content having more bytes than 64 bits can count.

* `Bound.admitsFrom`, `Bound.admitsUpTo` — the positions that satisfy a bound;
* `ByteRange.between` — the bytes at the positions that satisfy two bounds;
* `ByteRange.resolve_ofBounds` — what a range of two bounds is resolved to;
* `ByteRange.cut_of_offset` — to cut by a range with an offset is to take bytes from there on;
* `ByteRange.cut_ofBounds` — to cut by the range of two bounds is to take the bytes between them;
* `ByteRange.slice?`, `ByteRange.slice?_resolve` — a part of a content, which may not exist, and why
  it does;
* `ByteRange.interval`, `ByteRange.resolve_eq_interval` — the range in numbers without bound;
* `ByteRange.bounds_exact` — bounds mean what they say, and no arithmetic on ranges goes wrong.
-/

namespace ObjectStorage

namespace Bound

/-- Does a position satisfy the bound as a lower one? -/
def admitsFrom : Bound → Nat → Bool
  | .unbounded, _ => true
  | .included n, i => n.toNat ≤ i
  | .excluded n, i => n.toNat < i

/-- Does a position satisfy the bound as an upper one? -/
def admitsUpTo : Bound → Nat → Bool
  | .unbounded, _ => true
  | .included n, i => i ≤ n.toNat
  | .excluded n, i => i < n.toNat

/-- The first position that satisfies the bound as a lower one. -/
def first : Bound → Nat
  | .unbounded => 0
  | .included n => n.toNat
  | .excluded n => n.toNat + 1

/-- The first position of `total` that no longer satisfies the bound as an upper one. -/
def stop (total : Nat) : Bound → Nat
  | .unbounded => total
  | .included n => n.toNat + 1
  | .excluded n => n.toNat

theorem admitsFrom_eq (b : Bound) (i : Nat) : b.admitsFrom i = decide (b.first ≤ i) := by
  cases b with
  | unbounded => simp [admitsFrom, first]
  | included n => rfl
  | excluded n => rfl

theorem admitsUpTo_eq (b : Bound) {i total : Nat} (hi : i < total) :
    b.admitsUpTo i = decide (i < b.stop total) := by
  cases b with
  | unbounded => simp [admitsUpTo, stop, hi]
  | included n => exact decide_eq_decide.2 Nat.lt_succ_iff.symm
  | excluded n => rfl

end Bound

namespace ByteRange

/-- The bytes of a content whose positions satisfy a lower and an upper bound. -/
def between (lower upper : Bound) (bs : Bytes) : Bytes :=
  (bs.zipIdx.filter fun b => lower.admitsFrom b.2 && upper.admitsUpTo b.2).map (·.1)

/-! ### Positions in an interval -/

theorem filter_zipIdx_interval (a b k : Nat) (bs : Bytes) :
    (((bs.zipIdx k).filter fun x => decide (a ≤ x.2) && decide (x.2 < b)).map (·.1))
      = (bs.drop (a - k)).take (b - max a k) := by
  induction bs generalizing k with
  | nil => simp
  | cons x bs ih =>
    rw [List.zipIdx_cons, List.filter_cons]
    by_cases ha : a ≤ k
    · rw [show a - k = 0 by omega, show max a k = k by omega, List.drop_zero]
      by_cases hb : k < b
      · have hrest := ih (k + 1)
        rw [show a - (k + 1) = 0 by omega, show max a (k + 1) = k + 1 by omega,
          List.drop_zero] at hrest
        rw [if_pos (by simp [ha, hb]), List.map_cons, hrest,
          show b - k = b - (k + 1) + 1 by omega, List.take_succ_cons]
      · rw [if_neg (by simp [hb]), ih, show b - k = 0 by omega,
          show b - max a (k + 1) = 0 by omega, List.take_zero, List.take_zero]
    · rw [if_neg (by simp [ha]), ih, show a - k = a - (k + 1) + 1 by omega,
        List.drop_succ_cons, show max a (k + 1) = max a k by omega]

/-- Positions past the end make no difference to what lies between two of them. -/
theorem take_drop_clamp (bs : Bytes) (a b : Nat) :
    (bs.drop (min a bs.length)).take (min (max a b) bs.length - min a bs.length)
      = (bs.drop a).take (b - a) := by
  by_cases ha : a ≤ bs.length
  · rw [Nat.min_eq_left ha, List.take_eq_take_iff, List.length_drop]
    omega
  · rw [show min a bs.length = bs.length by omega, List.drop_length,
      List.drop_of_length_le (by omega), List.take_nil, List.take_nil]

theorem between_eq (lower upper : Bound) (bs : Bytes) :
    between lower upper bs
      = (bs.drop lower.first).take (upper.stop bs.length - lower.first) := by
  have hfilter : (bs.zipIdx.filter fun b => lower.admitsFrom b.2 && upper.admitsUpTo b.2)
      = bs.zipIdx.filter fun b =>
        decide (lower.first ≤ b.2) && decide (b.2 < upper.stop bs.length) := by
    apply List.filter_congr
    intro b hb
    have hlt : b.2 < bs.length := by
      have := (List.mem_zipIdx hb).2.1
      omega
    rw [lower.admitsFrom_eq, upper.admitsUpTo_eq hlt]
  have hinterval := filter_zipIdx_interval lower.first (upper.stop bs.length) 0 bs
  rw [between, hfilter, hinterval, Nat.sub_zero, Nat.max_zero]

/-! ### The range of two bounds -/

theorem toNat_min (a b : UInt64) : (min a b).toNat = min a.toNat b.toNat := by
  by_cases h : a ≤ b
  · have hle : a.toNat ≤ b.toNat := UInt64.le_iff_toNat_le.1 h
    rw [show min a b = a from if_pos h, Nat.min_eq_left hle]
  · have hle : ¬a.toNat ≤ b.toNat := fun hle => h (UInt64.le_iff_toNat_le.2 hle)
    rw [show min a b = b from if_neg h, Nat.min_eq_right (by omega)]

theorem toNat_startOf (b : Bound) :
    ((startOf b).getD 0).toNat = min b.first (UInt64.size - 1) := by
  cases b with
  | unbounded => rfl
  | included n =>
    have hn := n.toNat_lt
    simp only [startOf, Option.getD_some, Bound.first, UInt64.size]
    omega
  | excluded n =>
    simp only [startOf, Option.getD_some, Bound.first]
    exact toNat_satAdd n 1

theorem stopOf_eq_none {b : Bound} (h : stopOf b = none) {total : Nat}
    (htotal : total < UInt64.size) : total ≤ b.stop total := by
  cases b with
  | unbounded => exact Nat.le_refl total
  | included n =>
    by_cases hn : n.toNat + 1 < UInt64.size
    · simp [stopOf, hn] at h
    · simp only [Bound.stop]
      omega
  | excluded n => simp [stopOf] at h

theorem toNat_stopOf {b : Bound} {n : UInt64} (h : stopOf b = some n) (total : Nat) :
    n.toNat = b.stop total := by
  cases b with
  | unbounded => simp [stopOf] at h
  | included m =>
    by_cases hm : m.toNat + 1 < UInt64.size
    · simp only [stopOf, hm, if_true, Option.some.injEq] at h
      rw [← h, UInt64.toNat_add, UInt64.toNat_one]
      exact Nat.mod_eq_of_lt hm
    · simp [stopOf, hm] at h
  | excluded m =>
    simp only [stopOf, Option.some.injEq] at h
    rw [← h, Bound.stop]

/-- The interval that a range of two bounds is in a content of `total` bytes. -/
theorem resolve_ofBounds (lower upper : Bound) (total : UInt64) :
    ((ofBounds lower upper).resolve total).1.toNat = min lower.first total.toNat
      ∧ ((ofBounds lower upper).resolve total).2.toNat
        = min (max lower.first (upper.stop total.toNat)) total.toNat := by
  have htotal := total.toNat_lt
  have hstart := toNat_startOf lower
  cases hupper : stopOf upper with
  | none =>
    have hstop : total.toNat ≤ upper.stop total.toNat := stopOf_eq_none hupper htotal
    cases hlower : startOf lower with
    | none =>
      rw [hlower, Option.getD_none, UInt64.toNat_zero] at hstart
      simp only [ofBounds, hlower, hupper, full, resolve, UInt64.toNat_zero]
      simp only [UInt64.size] at hstart
      omega
    | some start =>
      rw [hlower, Option.getD_some] at hstart
      simp only [ofBounds, hlower, hupper, resolve, Option.getD_some, toNat_min, hstart]
      simp only [UInt64.size]
      omega
  | some stop =>
    have hstop := toNat_stopOf hupper total.toNat
    have hlt := stop.toNat_lt
    have hresolved : (ofBounds lower upper).resolve total
        = (min ((startOf lower).getD 0) total,
          min (satAdd ((startOf lower).getD 0) (satSub stop ((startOf lower).getD 0))) total) := by
      cases hlower : startOf lower with
      | none => simp only [ofBounds, hlower, hupper, resolve]
      | some start => simp only [ofBounds, hlower, hupper, resolve]
    rw [hresolved]
    simp only [toNat_min, toNat_satAdd, toNat_satSub, hstart, ← hstop]
    simp only [UInt64.size]
    omega

theorem toNat_count {bs : Bytes} (h : bs.length < UInt64.size) : (count bs).toNat = bs.length := by
  rw [count, UInt64.toNat_ofNat']
  exact Nat.mod_eq_of_lt h

theorem cut_full {bs : Bytes} (h : bs.length < UInt64.size) : full.cut bs = bs := by
  show (bs.drop 0).take ((count bs).toNat - 0) = bs
  rw [toNat_count h, List.drop_zero, Nat.sub_zero, List.take_length]

/-- A range lies within the content, its start before its end. -/
theorem resolve_le (r : ByteRange) (total : UInt64) :
    (r.resolve total).1.toNat ≤ (r.resolve total).2.toNat
      ∧ (r.resolve total).2.toNat ≤ total.toNat := by
  obtain ⟨offset | offset, size | size⟩ := r
  · exact ⟨Nat.zero_le _, Nat.le_refl _⟩
  · simp only [resolve, toNat_satSub]
    omega
  · simp only [resolve, toNat_min]
    omega
  · have hoffset := offset.toNat_lt
    simp only [resolve, toNat_min, toNat_satAdd, UInt64.size]
    omega

/-- The bytes of a range are as many as its size says once it is resolved. -/
theorem cut_eq_take_size (r : ByteRange) (bs : Bytes) :
    r.cut bs = (bs.drop (r.resolve (count bs)).1.toNat).take
      ((r.resolve (count bs)).2 - (r.resolve (count bs)).1).toNat := by
  obtain ⟨hstart, -⟩ := r.resolve_le (count bs)
  rw [UInt64.toNat_sub_of_le _ _ (UInt64.le_iff_toNat_le.2 hstart)]
  rfl

theorem length_cut (r : ByteRange) {bs : Bytes} (h : bs.length < UInt64.size) :
    (r.cut bs).length = ((r.resolve (count bs)).2 - (r.resolve (count bs)).1).toNat := by
  obtain ⟨hstart, hstop⟩ := r.resolve_le (count bs)
  rw [toNat_count h] at hstop
  rw [cut_eq_take_size, List.length_take, List.length_drop,
    UInt64.toNat_sub_of_le _ _ (UInt64.le_iff_toNat_le.2 hstart)]
  omega

/-- A range that does not ask for the last bytes is its size from its offset on, also where the sum
of both is not a number of 64 bits. -/
theorem cut_of_offset {r : ByteRange} (hr : r.offset = none → r.size = none) {bs : Bytes}
    (h : bs.length < UInt64.size) :
    r.cut bs = (bs.drop ((r.offset.map UInt64.toNat).getD 0)).take
      ((r.size.map UInt64.toNat).getD bs.length) := by
  obtain ⟨offset | offset, size | size⟩ := r
  · rw [show (⟨none, none⟩ : ByteRange) = full from rfl, cut_full h]
    exact (List.take_length (l := bs)).symm
  · cases hr rfl
  · have hcut : (⟨some offset, none⟩ : ByteRange).cut bs
        = (bs.drop (min offset (count bs)).toNat).take
          ((count bs).toNat - (min offset (count bs)).toNat) := rfl
    have hclamp := take_drop_clamp bs offset.toNat bs.length
    rw [Nat.min_eq_right (Nat.le_max_right _ _)] at hclamp
    rw [hcut, toNat_min, toNat_count h, hclamp]
    show (bs.drop offset.toNat).take (bs.length - offset.toNat)
      = (bs.drop offset.toNat).take bs.length
    rw [List.take_eq_take_iff, List.length_drop]
    omega
  · have hcut : (⟨some offset, some size⟩ : ByteRange).cut bs
        = (bs.drop (min offset (count bs)).toNat).take
          ((min (satAdd offset size) (count bs)).toNat - (min offset (count bs)).toNat) := rfl
    have hclamp := take_drop_clamp bs offset.toNat (offset.toNat + size.toNat)
    have hstop : min (min (offset.toNat + size.toNat) (UInt64.size - 1)) bs.length
        = min (max offset.toNat (offset.toNat + size.toNat)) bs.length := by
      omega
    rw [hcut, toNat_min, toNat_min, toNat_satAdd, toNat_count h, hstop, hclamp,
      Nat.add_sub_cancel_left]
    rfl

/-- To cut a content by the range of two bounds is to take the bytes between them. -/
theorem cut_ofBounds (lower upper : Bound) {bs : Bytes} (h : bs.length < UInt64.size) :
    (ofBounds lower upper).cut bs = between lower upper bs := by
  obtain ⟨hstart, hstop⟩ := resolve_ofBounds lower upper (count bs)
  rw [toNat_count h] at hstart hstop
  calc (ofBounds lower upper).cut bs
      = (bs.drop (min lower.first bs.length)).take
          (min (max lower.first (upper.stop bs.length)) bs.length
            - min lower.first bs.length) := by
        rw [← hstop, ← hstart]
        rfl
    _ = (bs.drop lower.first).take (upper.stop bs.length - lower.first) :=
        take_drop_clamp bs lower.first (upper.stop bs.length)
    _ = between lower upper bs := (between_eq lower upper bs).symm

/-! ### Ranges in numbers without bound -/

/-- The bytes from one position up to another one, if there are such. -/
def slice? (bs : Bytes) (start stop : Nat) : Option Bytes :=
  if start ≤ stop ∧ stop ≤ bs.length then some ((bs.drop start).take (stop - start)) else none

/-- The interval that a range is in a content of `total` bytes, in numbers that have no largest
one. -/
def interval (r : ByteRange) (total : Nat) : Nat × Nat :=
  match r.offset, r.size with
  | some offset, some size => (min offset.toNat total, min (offset.toNat + size.toNat) total)
  | some offset, none => (min offset.toNat total, total)
  | none, some size => (total - size.toNat, total)
  | none, none => (0, total)

/-- Numbers of 64 bits are enough to resolve a range: where a sum would not fit, it lies behind the
end of every content, and so does the number that stands for it. -/
theorem resolve_eq_interval (r : ByteRange) (total : UInt64) :
    ((r.resolve total).1.toNat, (r.resolve total).2.toNat) = r.interval total.toNat := by
  have htotal := total.toNat_lt
  obtain ⟨offset | offset, size | size⟩ := r
  · rfl
  · simp only [resolve, interval, toNat_satSub]
  · simp only [resolve, interval, toNat_min]
  · have hstop : min (min (offset.toNat + size.toNat) (UInt64.size - 1)) total.toNat
        = min (offset.toNat + size.toNat) total.toNat := by
      simp only [UInt64.size]
      omega
    simp only [resolve, interval, toNat_min, toNat_satAdd, hstop]

/-- The bytes of a range are a part of the content that exists. -/
theorem slice?_resolve (r : ByteRange) {bs : Bytes} (h : bs.length < UInt64.size) :
    slice? bs (r.resolve (count bs)).1.toNat (r.resolve (count bs)).2.toNat
      = some (r.cut bs) := by
  obtain ⟨hstart, hstop⟩ := r.resolve_le (count bs)
  rw [toNat_count h] at hstop
  exact if_pos ⟨hstart, hstop⟩

/-- **Ranges keep the meaning of their bounds.**  Whatever the two bounds are, to cut a content by
their range is to take the bytes whose positions satisfy both, in order; that the content has no
more bytes than 64 bits can count is all that this needs.  And any range of an offset and a size,
present or not, is resolved in a content of any size as if numbers had no bound: its start does not
lie behind its end, nor its end behind the end of the content, their difference is a number of 64
bits, and the part of the content between them exists. -/
theorem bounds_exact :
    (∀ (lower upper : Bound) (bs : Bytes), bs.length < UInt64.size →
      (ofBounds lower upper).cut bs = between lower upper bs)
    ∧ ∀ (r : ByteRange) (total : UInt64),
      ((r.resolve total).1 ≤ (r.resolve total).2 ∧ (r.resolve total).2 ≤ total)
      ∧ ((r.resolve total).1.toNat, (r.resolve total).2.toNat) = r.interval total.toNat
      ∧ ((r.resolve total).2 - (r.resolve total).1).toNat
        = (r.resolve total).2.toNat - (r.resolve total).1.toNat
      ∧ ∀ bs : Bytes, bs.length = total.toNat →
        slice? bs (r.resolve total).1.toNat (r.resolve total).2.toNat = some (r.cut bs) := by
  refine ⟨fun lower upper bs h => cut_ofBounds lower upper h, fun r total => ?_⟩
  obtain ⟨hstart, hstop⟩ := r.resolve_le total
  have hle : (r.resolve total).1 ≤ (r.resolve total).2 := UInt64.le_iff_toNat_le.2 hstart
  refine ⟨⟨hle, UInt64.le_iff_toNat_le.2 hstop⟩, r.resolve_eq_interval total,
    UInt64.toNat_sub_of_le _ _ hle, fun bs hlength => ?_⟩
  have hfits : bs.length < UInt64.size := hlength ▸ total.toNat_lt
  have hcount : count bs = total := UInt64.toNat_inj.1 ((toNat_count hfits).trans hlength)
  have hslice := r.slice?_resolve hfits
  rwa [hcount] at hslice

/-- Behind the largest number, and up to and with it. -/
theorem bounds_exact_largest :
    [(1 : UInt8), 2, 3].length < UInt64.size
      ∧ (ofBounds (.excluded (-1)) .unbounded).cut [1, 2, 3] = []
      ∧ (ofBounds (.included 1) (.included (-1))).cut [1, 2, 3] = [2, 3]
      ∧ slice? [1, 2, 3] ((⟨some 2, some (-1)⟩ : ByteRange).resolve 3).1.toNat
          ((⟨some 2, some (-1)⟩ : ByteRange).resolve 3).2.toNat = some [3] := by
  have hfits : [(1 : UInt8), 2, 3].length < UInt64.size := by decide
  obtain ⟨hbounds, hranges⟩ := bounds_exact
  obtain ⟨-, -, -, hslice⟩ := hranges ⟨some 2, some (-1)⟩ 3
  refine ⟨hfits, ?_, ?_, ?_⟩
  · rw [hbounds _ _ _ hfits]
    decide
  · rw [hbounds _ _ _ hfits]
    decide
  · rw [hslice [1, 2, 3] rfl]
    decide

end ByteRange

end ObjectStorage
