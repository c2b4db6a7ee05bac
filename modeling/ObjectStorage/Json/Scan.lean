import ObjectStorage.Decimal
import ObjectStorage.Json.Fault
import ObjectStorage.Text.Utf8

/-!
# Words, numbers and quoted texts of JSON

The smallest parts of a document are read from a list of bytes.  Each reading tells what is left,
also when it fails.  A failure is noticed either after the bytes that were taken, or at the byte
that would come next.

* `Scan` — the outcome of a reading;
* `Scan.word` — a fixed word;
* `Number`, `Scan.number` — a number;
* `Scan.text` — a quoted text after its first quote, with its escapes;
* `Scan.skipNumber`, `Scan.skipText` — the same for values that nobody wants, which are held to
  fewer rules.
-/

namespace ObjectStorage.Json

/-- A failure to read; if `ahead`, it is noticed at the next byte. -/
structure Stumble where
  problem : Problem
  ahead : Bool := false

/-- The outcome of a reading, and the bytes that are left. -/
abbrev Scan (α : Type) := Except Stumble α × Bytes

namespace Scan

variable {α β : Type}

/-- Fail after the bytes that were taken. -/
def stop (problem : Problem) (rest : Bytes) : Scan α := (.error ⟨problem, false⟩, rest)

/-- Fail at the next byte. -/
def stopAt (problem : Problem) (rest : Bytes) : Scan α := (.error ⟨problem, true⟩, rest)

/-- Go on reading after a success. -/
def andThen (x : Scan α) (f : α → Bytes → Scan β) : Scan β :=
  match x with
  | (.ok a, rest) => f a rest
  | (.error e, rest) => (.error e, rest)

/-- The byte of an ASCII character. -/
def byte (c : Char) : UInt8 := UInt8.ofNat c.toNat

/-- Read a fixed word. -/
def word : Bytes → Bytes → Scan Unit
  | [], bs => (.ok (), bs)
  | _ :: _, [] => stop .endInValue []
  | e :: es, b :: bs => if b = e then word es bs else stop .unknownWord bs

/-! ### Numbers -/

/-- Is a byte a decimal digit? -/
def isDigit (b : UInt8) : Bool := byte '0' ≤ b && b ≤ byte '9'

/-- The value of a decimal digit. -/
def digit (b : UInt8) : Nat := b.toNat - 48

/-- Does a text start with a digit? -/
def startsWithDigit (bs : Bytes) : Bool := bs.head?.any isDigit

/-- Does a text start with the mark of an exponent? -/
def startsWithExponent (bs : Bytes) : Bool := bs.head?.any fun b => b = byte 'e' || b = byte 'E'

/-- Does a text start with a decimal point? -/
def startsWithPoint (bs : Bytes) : Bool := bs.head? == some (byte '.')

/-- Add digits to a number for as long as it stays below a bound: the number, how many digits were
added, and what is left. -/
def absorb (bound : Nat) (n count : Nat) : Bytes → Nat × Nat × Bytes
  | b :: bs =>
    if isDigit b && n * 10 + digit b < bound then absorb bound (n * 10 + digit b) (count + 1) bs
    else (n, count, b :: bs)
  | [] => (n, count, [])

/-- The numbers that are kept exactly lie below this bound. -/
def exactBound : Nat := UInt64.size

/-- The exponents that are kept lie below this bound. -/
def exponentBound : Nat := Int32.maxValue.toInt.toNat + 1

/-- A power of ten as a floating point number. -/
def tenTo (n : Nat) : Float := Float.ofScientific 1 false n

/-- The greatest power of ten among the floating point numbers. -/
def greatestPower : Nat := 308

/-- Divide by a power of ten, as far as the number is not zero. -/
def shrink (x : Float) (n : Nat) : Float :=
  if n ≤ greatestPower then x / tenTo n
  else if x == 0 then x
  else shrink (x / tenTo greatestPower) (n - greatestPower)
termination_by n
decreasing_by unfold greatestPower at *; omega

/-- The floating point number near `n * 10 ^ e`; none if that is too large. -/
def approximate? (n : Nat) (e : Int) : Option Float :=
  let x := (UInt64.ofNat n).toFloat
  if e < 0 then some (shrink x e.natAbs)
  else if e.toNat ≤ greatestPower then
    let y := x * tenTo e.toNat
    if y.isInf then none else some y
  else if x == 0 then some x
  else none

/-- Round the number `n * 10 ^ e`. -/
def approximate (n : Nat) (e : Int) (rest : Bytes) : Scan Float :=
  match approximate? n e with
  | some x => (.ok x, rest)
  | none => stop .numberTooLarge rest

/-- Read an exponent after its mark, for a number `n * 10 ^ e`. -/
def exponent (n : Nat) (e : Int) (bs : Bytes) : Scan Float :=
  let (down, bs) := match bs with
    | b :: rest =>
      if b = byte '+' then (false, rest) else if b = byte '-' then (true, rest) else (false, bs)
    | [] => (false, [])
  match bs with
  | [] => stop .endInValue []
  | b :: rest =>
    if !isDigit b then stop .badNumber rest
    else
      let (shift, _, rest) := absorb exponentBound (digit b) 0 rest
      if startsWithDigit rest then
        if n ≠ 0 && !down then stop .numberTooLarge (rest.drop 1)
        else (.ok 0, rest.dropWhile isDigit)
      else approximate n (if down then e - shift else e + shift) rest

/-- Read what may follow the digits of a number. -/
def maybeExponent (n : Nat) (e : Int) (bs : Bytes) : Scan Float :=
  if startsWithExponent bs then exponent n e (bs.drop 1) else approximate n e bs

/-- Read the places after a decimal point.  Places beyond the exact numbers do not count. -/
def places (n : Nat) (e : Int) (bs : Bytes) : Scan Float :=
  let (n, count, rest) := absorb exactBound n 0 bs
  if startsWithDigit rest then maybeExponent n (e - count) (rest.dropWhile isDigit)
  else if count = 0 then
    stopAt (if rest.isEmpty then .endInValue else .badNumber) rest
  else maybeExponent n (e - count) rest

/-- Read what may follow the digits of a number before a decimal point. -/
def maybePlaces (n : Nat) (e : Int) (bs : Bytes) : Scan Float :=
  if startsWithPoint bs then places n e (bs.drop 1) else maybeExponent n e bs

end Scan

/-- A number of a document. -/
inductive Number
  /-- A whole number of 64 bits without sign. -/
  | natural (n : Nat)
  /-- A negative whole number of 64 bits. -/
  | negative (n : Int)
  | float (x : Float)

namespace Scan

/-- A floating point number with its sign. -/
def signed (positive : Bool) (x : Scan Float) : Scan Number :=
  x.andThen fun x rest => (.ok (.float (if positive then x else -x)), rest)

/-- A number whose whole digits were read.  A negative one that is zero or does not fit becomes a
floating point number. -/
def wholeOrMore (positive : Bool) (n : Nat) (bs : Bytes) : Scan Number :=
  if startsWithPoint bs || startsWithExponent bs then signed positive (maybePlaces n 0 bs)
  else if positive then (.ok (.natural n), bs)
  else if 0 < n && n ≤ Int64.minValue.toInt.natAbs then (.ok (.negative (-(n : Int))), bs)
  else (.ok (.float (-(UInt64.ofNat n).toFloat)), bs)

/-- Read a number after its sign. -/
def number (positive : Bool) : Bytes → Scan Number
  | [] => stop .endInValue []
  | b :: bs =>
    if b = byte '0' then
      if startsWithDigit bs then stopAt .badNumber bs else wholeOrMore positive 0 bs
    else if isDigit b then
      let (n, _, rest) := absorb exactBound (digit b) 0 bs
      if startsWithDigit rest then
        let more := rest.takeWhile isDigit
        signed positive (maybePlaces n more.length (rest.drop more.length))
      else wholeOrMore positive n rest
    else stop .badNumber bs

/-- Skip an exponent after its mark. -/
def skipExponent (bs : Bytes) : Scan Unit :=
  let bs := match bs with
    | b :: rest => if b = byte '+' || b = byte '-' then rest else bs
    | [] => []
  if startsWithDigit bs then (.ok (), bs.dropWhile isDigit) else stop .badNumber (bs.drop 1)

/-- Skip the places after a decimal point. -/
def skipPlaces (bs : Bytes) : Scan Unit :=
  let rest := bs.dropWhile isDigit
  if !startsWithDigit bs then stopAt .badNumber bs
  else if startsWithExponent rest then skipExponent (rest.drop 1)
  else (.ok (), rest)

/-- Skip a number after its sign. -/
def skipNumber (bs : Bytes) : Scan Unit :=
  let tail (rest : Bytes) : Scan Unit :=
    if startsWithPoint rest then skipPlaces (rest.drop 1)
    else if startsWithExponent rest then skipExponent (rest.drop 1)
    else (.ok (), rest)
  match bs with
  | [] => stop .badNumber []
  | b :: rest =>
    if b = byte '0' then
      if startsWithDigit rest then stopAt .badNumber rest else tail rest
    else if isDigit b then tail (rest.dropWhile isDigit)
    else stop .badNumber rest

/-! ### Quoted texts -/

/-- The value of a hexadecimal digit. -/
def hex? (b : UInt8) : Option Nat :=
  if isDigit b then some (digit b)
  else if byte 'a' ≤ b && b ≤ byte 'f' then some (b.toNat - 87)
  else if byte 'A' ≤ b && b ≤ byte 'F' then some (b.toNat - 55)
  else none

/-- Read four hexadecimal digits. -/
def fourHex : Bytes → Scan Nat
  | a :: b :: c :: d :: rest =>
    match hex? a, hex? b, hex? c, hex? d with
    | some a, some b, some c, some d => (.ok (((a * 16 + b) * 16 + c) * 16 + d), rest)
    | _, _, _, _ => stop .badEscape rest
  | _ => stop .endInText []

theorem fourHex_length_le (bs : Bytes) : (fourHex bs).2.length ≤ bs.length := by
  unfold fourHex
  split
  · split <;> simp only [stop, List.length_cons] <;> omega
  · simp [stop]

/-- Does a code stand for the first half of a pair? -/
def isHigh (n : Nat) : Bool := 0xD800 ≤ n && n ≤ 0xDBFF

/-- Does a code stand for the second half of a pair? -/
def isLow (n : Nat) : Bool := 0xDC00 ≤ n && n ≤ 0xDFFF

/-- The bytes of the character with a code. -/
def charBytes (n : Nat) : Bytes := String.utf8EncodeChar (Char.ofNat n)

/-- Read the second half of a pair after the first one. -/
def lowHalf (high : Nat) : Bytes → Scan Bytes
  | [] => stop .endInText []
  | b :: bs =>
    if b ≠ byte '\\' then stop .cutSurrogate bs
    else match bs with
      | [] => stop .endInText []
      | c :: rest =>
        if c ≠ byte 'u' then stop .cutSurrogate rest
        else (fourHex rest).andThen fun low rest =>
          if isLow low then
            (.ok (charBytes ((high - 0xD800) * 1024 + (low - 0xDC00) + 0x10000)), rest)
          else stop .halfSurrogate rest

theorem andThen_length_le {x : Scan α} {f : α → Bytes → Scan β} {n : Nat} (h : x.2.length ≤ n)
    (hf : ∀ a rest, rest.length ≤ n → (f a rest).2.length ≤ n) : (x.andThen f).2.length ≤ n := by
  obtain ⟨r, rest⟩ := x
  cases r with
  | error e => exact h
  | ok a => exact hf a rest h

theorem lowHalf_length_le (high : Nat) (bs : Bytes) :
    (lowHalf high bs).2.length ≤ bs.length := by
  unfold lowHalf
  split
  · simp [stop]
  · split
    · simp [stop]
    · split
      · simp [stop]
      · split
        · simp [stop]
          omega
        · refine andThen_length_le (Nat.le_trans (fourHex_length_le _) ?_) fun low rest h => ?_
          · simp only [List.length_cons]; omega
          · split <;> simpa [stop] using h

/-- Read the code of a character after the mark of its escape. -/
def codeEscape (bs : Bytes) : Scan Bytes :=
  (fourHex bs).andThen fun n rest =>
    if isLow n then stop .halfSurrogate rest
    else if isHigh n then lowHalf n rest
    else (.ok (charBytes n), rest)

theorem codeEscape_length_le (bs : Bytes) : (codeEscape bs).2.length ≤ bs.length := by
  unfold codeEscape
  refine andThen_length_le (fourHex_length_le _) fun n rest h => ?_
  split
  · simpa [stop] using h
  · split
    · exact Nat.le_trans (lowHalf_length_le _ _) h
    · simpa using h

/-- The escapes of one letter, with what they stand for. -/
def letters : List (UInt8 × UInt8) :=
  [(byte '"', byte '"'), (byte '\\', byte '\\'), (byte '/', byte '/'), (byte 'b', 0x08),
    (byte 'f', 0x0C), (byte 'n', 0x0A), (byte 'r', 0x0D), (byte 't', 0x09)]

/-- Read an escape after its backslash. -/
def escape : Bytes → Scan Bytes
  | [] => stop .endInText []
  | b :: bs =>
    if b = byte 'u' then codeEscape bs
    else match letters.lookup b with
      | some c => (.ok [c], bs)
      | none => stop .badEscape bs

theorem escape_length_le (bs : Bytes) : (escape bs).2.length ≤ bs.length := by
  unfold escape
  split
  · simp [stop]
  · split
    · exact Nat.le_trans (codeEscape_length_le _) (by simp)
    · split <;> simp [stop]

/-- Skip an escape after its backslash. -/
def skipEscape : Bytes → Scan Unit
  | [] => stop .endInText []
  | b :: bs =>
    if b = byte 'u' then (fourHex bs).andThen fun _ rest => (.ok (), rest)
    else if (letters.lookup b).isSome then (.ok (), bs)
    else stop .badEscape bs

theorem skipEscape_length_le (bs : Bytes) : (skipEscape bs).2.length ≤ bs.length := by
  unfold skipEscape
  split
  · simp [stop]
  · split
    · refine andThen_length_le (Nat.le_trans (fourHex_length_le _) (by simp)) fun _ rest h => h
    · split <;> simp [stop]

/-- Read the bytes of a quoted text after its first quote; `before` are those that stand before,
in reverse. -/
def quotedBytes (before : Bytes) : Bytes → Scan Bytes
  | [] => stop .endInText []
  | b :: bs =>
    if b = byte '"' then (.ok before.reverse, bs)
    else if b = byte '\\' then
      match _h : escape bs with
      | (.error e, rest) => (.error e, rest)
      | (.ok found, rest) => quotedBytes (found.reverse ++ before) rest
    else if b < 0x20 then stop .controlInText bs
    else quotedBytes (b :: before) bs
termination_by bs => bs.length
decreasing_by
  · have := escape_length_le bs
    simp only [_h] at this
    simp only [List.length_cons]
    omega
  · simp

/-- Read a quoted text after its first quote. -/
def text (bs : Bytes) : Scan String :=
  (quotedBytes [] bs).andThen fun found rest =>
    match Text.text? found with
    | some s => (.ok s, rest)
    | none => stop .badText rest

/-- Skip a quoted text after its first quote. -/
def skipText : Bytes → Scan Unit
  | [] => stop .endInText []
  | b :: bs =>
    if b = byte '"' then (.ok (), bs)
    else if b = byte '\\' then
      match _h : skipEscape bs with
      | (.error e, rest) => (.error e, rest)
      | (.ok (), rest) => skipText rest
    else if b < 0x20 then stop .controlInText (b :: bs)
    else skipText bs
termination_by bs => bs.length
decreasing_by
  · have := skipEscape_length_le bs
    simp only [_h] at this
    simp only [List.length_cons]
    omega
  · simp

end Scan

end ObjectStorage.Json
