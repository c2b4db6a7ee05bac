/-!
# Decimal numbers in options and query strings

Numbers are written in ASCII digits, an explicit sign is accepted, and a number that does not fit
its width is refused rather than wrapped.

* `digits?` — the value of a nonempty list of digits;
* `readUInt64?` — an optional `+` and digits below `2^64`;
* `readInt64?` — an optional sign and digits, from `-2^63` to `2^63 - 1`.
-/

namespace ObjectStorage.Text

/-- The value of a list of decimal digits read after the value `acc`. -/
def digitsFrom (acc : Nat) : List Char → Option Nat
  | [] => some acc
  | c :: cs => if c.isDigit then digitsFrom (acc * 10 + (c.toNat - '0'.toNat)) cs else none

/-- The value of a nonempty list of decimal digits. -/
def digits? (cs : List Char) : Option Nat := if cs = [] then none else digitsFrom 0 cs

/-- Digits after an optional `+`. -/
def unsigned? : List Char → Option Nat
  | '+' :: cs => digits? cs
  | cs => digits? cs

/-- Digits after an optional sign. -/
def signed? : List Char → Option Int
  | '-' :: cs => (digits? cs).map fun n => -(n : Int)
  | cs => (unsigned? cs).map fun n => (n : Int)

/-- A number of 64 bits without sign. -/
def readUInt64? (s : String) : Option UInt64 :=
  (unsigned? s.toList).bind fun n => if n < UInt64.size then some (UInt64.ofNat n) else none

/-- Does a number fit into 64 bits with a sign? -/
def fitsInt64 (n : Int) : Bool := Int64.minValue.toInt ≤ n && n ≤ Int64.maxValue.toInt

/-- A number of 64 bits with a sign, as an integer. -/
def readInt64? (s : String) : Option Int :=
  (signed? s.toList).bind fun n => if fitsInt64 n then some n else none

/-- The digits of a number, padded on the left with zeros to a width. -/
def padded (width n : Nat) : String :=
  let ds := Nat.toDigits 10 n
  String.ofList (List.replicate (width - ds.length) '0' ++ ds)

end ObjectStorage.Text
