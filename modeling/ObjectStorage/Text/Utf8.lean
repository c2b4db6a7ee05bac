/-!
# Bytes and text

Contents are bytes; paths, keys and messages are text.  A text is written in UTF-8.  Bytes that
should be text are read either strictly, where any broken sequence refuses the whole, or leniently,
where each broken sequence becomes the replacement character `U+FFFD`.

* `utf8` — the bytes of a text;
* `scan` — bytes read as characters, `none` standing for a broken sequence;
* `text?`, `textLossy` — the strict and the lenient reading.
-/

namespace ObjectStorage

/-- The content of an object or of a message. -/
abbrev Bytes := List UInt8

namespace Text

/-- The bytes of a text in UTF-8. -/
def utf8 (s : String) : Bytes := s.toList.flatMap String.utf8EncodeChar

/-- The lower bits of a continuation byte, if the byte lies between the bounds. -/
def continuation? (lo hi b : UInt8) : Option Nat :=
  if lo ≤ b ∧ b ≤ hi then some (b.toNat % 64) else none

/-- What a lead byte announces: the bits it carries, the bounds of the byte that must follow it,
and how many further bytes follow that one. -/
def lead? (b : UInt8) : Option (Nat × UInt8 × UInt8 × Nat) :=
  if b < 0xC2 then none
  else if b ≤ 0xDF then some (b.toNat % 32, 0x80, 0xBF, 0)
  else if b = 0xE0 then some (0, 0xA0, 0xBF, 1)
  else if b = 0xED then some (13, 0x80, 0x9F, 1)
  else if b ≤ 0xEF then some (b.toNat % 16, 0x80, 0xBF, 1)
  else if b = 0xF0 then some (0, 0x90, 0xBF, 2)
  else if b ≤ 0xF3 then some (b.toNat % 8, 0x80, 0xBF, 2)
  else if b = 0xF4 then some (4, 0x80, 0x8F, 2)
  else none

/-- Read up to `n` continuation bytes after the bits `acc`: the character if all are there, and
what follows the longest part of the sequence that is. -/
def continueScan (acc : Nat) : Nat → Bytes → Option Char × Bytes
  | 0, bs => (some (Char.ofNat acc), bs)
  | _ + 1, [] => (none, [])
  | n + 1, b :: bs =>
    match continuation? 0x80 0xBF b with
    | some bits => continueScan (acc * 64 + bits) n bs
    | none => (none, b :: bs)

theorem continueScan_length_le (acc n : Nat) (bs : Bytes) :
    (continueScan acc n bs).2.length ≤ bs.length := by
  induction n generalizing acc bs with
  | zero => simp [continueScan]
  | succ n ih =>
    cases bs with
    | nil => simp [continueScan]
    | cons b bs =>
      simp only [continueScan]
      split
      · exact Nat.le_trans (ih _ _) (by simp)
      · simp

/-- Read the character, or the broken sequence, that starts with the byte `b`. -/
def scanOne (b : UInt8) (bs : Bytes) : Option Char × Bytes :=
  if b < 0x80 then (some (Char.ofNat b.toNat), bs)
  else match lead? b, bs with
    | some (acc, lo, hi, n), c :: cs =>
      match continuation? lo hi c with
      | some bits => continueScan (acc * 64 + bits) n cs
      | none => (none, bs)
    | _, _ => (none, bs)

theorem scanOne_length_le (b : UInt8) (bs : Bytes) : (scanOne b bs).2.length ≤ bs.length := by
  unfold scanOne
  split
  · simp
  · split
    · split
      · exact Nat.le_trans (continueScan_length_le _ _ _) (by simp)
      · simp
    · simp

/-- Bytes read as characters, with `none` for each broken sequence. -/
def scan : Bytes → List (Option Char)
  | [] => []
  | b :: bs => (scanOne b bs).1 :: scan (scanOne b bs).2
termination_by bs => bs.length
decreasing_by
  have := scanOne_length_le b bs
  simp only [List.length_cons]
  omega

/-- The text that the bytes spell, if every sequence is whole. -/
def text? (bs : Bytes) : Option String := ((scan bs).mapM id).map String.ofList

/-- The text that the bytes spell, broken sequences replaced. -/
def textLossy (bs : Bytes) : String :=
  String.ofList ((scan bs).map fun c => c.getD (Char.ofNat 0xFFFD))

end Text

end ObjectStorage
