import ObjectStorage.Text.Utf8

/-!
# Ranges of bytes

A read asks for a range of the bytes of an object: from an offset for a number of bytes, from an
offset to the end, the last bytes, or everything.  Offsets and sizes have 64 bits; where a sum
would not fit, it stops at the largest number, which no object reaches.

* `ByteRange` — an optional offset and an optional size;
* `ByteRange.resolve` — the range as a half-open interval of an object of known size;
* `ByteRange.cut` — the bytes of the range;
* `Bound`, `ByteRange.ofBounds` — ranges given by a first and a last position.
-/

namespace ObjectStorage

/-- The sum of two numbers, or the largest number if it would not fit. -/
def satAdd (a b : UInt64) : UInt64 := UInt64.ofNat (min (a.toNat + b.toNat) (UInt64.size - 1))

/-- The difference of two numbers, or zero if it would be negative. -/
def satSub (a b : UInt64) : UInt64 := UInt64.ofNat (a.toNat - b.toNat)

theorem toNat_satAdd (a b : UInt64) :
    (satAdd a b).toNat = min (a.toNat + b.toNat) (UInt64.size - 1) := by
  have h : min (a.toNat + b.toNat) (UInt64.size - 1) < UInt64.size := by
    unfold UInt64.size
    omega
  rw [satAdd, UInt64.toNat_ofNat', Nat.mod_eq_of_lt h]

theorem toNat_satSub (a b : UInt64) : (satSub a b).toNat = a.toNat - b.toNat := by
  have h : a.toNat - b.toNat < UInt64.size := by
    have := a.toNat_lt
    unfold UInt64.size
    omega
  simpa [satSub] using Nat.mod_eq_of_lt h

/-- A range of the bytes of an object.  A size without an offset asks for the last bytes. -/
structure ByteRange where
  offset : Option UInt64
  size : Option UInt64
  deriving DecidableEq, Repr

/-- One end of a range of positions. -/
inductive Bound
  | unbounded
  | included (n : UInt64)
  | excluded (n : UInt64)
  deriving DecidableEq, Repr

namespace ByteRange

/-- Everything. -/
def full : ByteRange := ⟨none, none⟩

/-- Does the range ask for everything? -/
def isFull (r : ByteRange) : Bool := r.offset.getD 0 == 0 && r.size.isNone

/-- The start and the end of the range in an object of `total` bytes. -/
def resolve (r : ByteRange) (total : UInt64) : UInt64 × UInt64 :=
  match r.offset, r.size with
  | some offset, some size => (min offset total, min (satAdd offset size) total)
  | some offset, none => (min offset total, total)
  | none, some size => (satSub total size, total)
  | none, none => (0, total)

/-- The number of bytes of a content, as far as it can be counted. -/
def count (bs : Bytes) : UInt64 := UInt64.ofNat bs.length

/-- The bytes of the range. -/
def cut (r : ByteRange) (bs : Bytes) : Bytes :=
  let (start, stop) := r.resolve (count bs)
  (bs.drop start.toNat).take (stop.toNat - start.toNat)

/-- The range in words: first and last position, the start alone, or the size behind a dash. -/
def display (r : ByteRange) : String :=
  match r.offset, r.size with
  | some offset, some size => s!"{offset}-{satSub (satAdd offset size) 1}"
  | some offset, none => s!"{offset}-"
  | none, some size => s!"-{size}"
  | none, none => "0-"

/-- The first position that a lower bound admits. -/
def startOf : Bound → Option UInt64
  | .unbounded => none
  | .included n => some n
  | .excluded n => some (satAdd n 1)

/-- The first position past an upper bound, if there is one with 64 bits. -/
def stopOf : Bound → Option UInt64
  | .unbounded => none
  | .included n => if n.toNat + 1 < UInt64.size then some (n + 1) else none
  | .excluded n => some n

/-- The range between two bounds.  An upper bound alone asks for the first bytes, never the
last. -/
def ofBounds (lower upper : Bound) : ByteRange :=
  match startOf lower, stopOf upper with
  | none, none => full
  | start, none => ⟨some (start.getD 0), none⟩
  | start, some stop => ⟨some (start.getD 0), some (satSub stop (start.getD 0))⟩

end ByteRange

end ObjectStorage
