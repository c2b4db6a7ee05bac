/-!
# Shortest decimals

A binary floating point number stands for all real numbers that round to it.  Among the decimals
in that interval the shortest are those on the coarsest decimal grid that meets the interval, and
of these the one nearest to the number is written.

* `Binary`, `Binary.ofFloat` — a finite number as a whole number times a power of two;
* `Binary.covers` — does a decimal round to the number?
* `Decimal`, `Decimal.shortest?` — the digits and the grid;
* `Decimal.positional`, `Decimal.scientific` — two layouts of them;
* `Decimal.plain`, `Decimal.graded` — a number written without an exponent, or with one where it
  is very large or very small.
-/

namespace ObjectStorage

/-- The number `significand * 2 ^ exponent`.  If `narrow`, the next smaller number is only half as
far away as the next larger one. -/
structure Binary where
  significand : Nat
  exponent : Int
  narrow : Bool

namespace Binary

/-- A power of two. -/
def twos (n : Nat) : Nat := Nat.pow 2 n

/-- A power of ten. -/
def tens (n : Nat) : Nat := Nat.pow 10 n

/-- How many fractions there are with one exponent. -/
def fractions : Nat := twos 52

/-- How many exponents there are. -/
def exponents : Nat := twos 11

/-- A finite number without its sign. -/
def ofFloat (x : Float) : Binary :=
  let bits : Nat := x.toBits.toNat
  let e : Nat := bits / fractions % exponents
  let f : Nat := bits % fractions
  if e = 0 then ⟨f, -1074, false⟩ else ⟨fractions + f, (e : Int) - 1075, f = 0 && 1 < e⟩

/-- Compare `d * 10 ^ k` with `n * 2 ^ e`. -/
def compareScaled (d : Nat) (k : Int) (n : Nat) (e : Int) : Ordering :=
  compare (d * tens k.toNat * twos (-e).toNat) (n * twos e.toNat * tens (-k).toNat)

/-- Does `d * 10 ^ k` round to the number?  The middle between two numbers rounds to the even
one. -/
def covers (b : Binary) (k : Int) (d : Nat) : Bool :=
  let low := compareScaled d k (4 * b.significand - if b.narrow then 1 else 2) (b.exponent - 2)
  let high := compareScaled d k (4 * b.significand + 2) (b.exponent - 2)
  let even := b.significand % 2 = 0
  (low == .gt || (even && low == .eq)) && (high == .lt || (even && high == .eq))

/-- The largest `d` such that `d * 10 ^ k` is at most the number. -/
def floorAt (b : Binary) (k : Int) : Nat :=
  (b.significand * twos b.exponent.toNat * tens (-k).toNat)
    / (twos (-b.exponent).toNat * tens k.toNat)

end Binary

/-- Which of two decimals that are equally near is taken. -/
inductive Tie
  | even | upper
  deriving DecidableEq, Repr

/-- The number `digits * 10 ^ exponent`. -/
structure Decimal where
  digits : Nat
  exponent : Int
  deriving DecidableEq, Repr

namespace Decimal

/-- The decimal on the grid `10 ^ k` that rounds to a number, the nearest one if there are two. -/
def onGrid? (b : Binary) (tie : Tie) (k : Int) : Option Decimal :=
  let d := b.floorAt k
  match 0 < d && b.covers k d, b.covers k (d + 1) with
  | false, false => none
  | true, false => some ⟨d, k⟩
  | false, true => some ⟨d + 1, k⟩
  | true, true =>
    match Binary.compareScaled (2 * d + 1) k (2 * b.significand) b.exponent with
    | .lt => some ⟨d + 1, k⟩
    | .gt => some ⟨d, k⟩
    | .eq => some ⟨if tie = .upper ∨ d % 2 = 1 then d + 1 else d, k⟩

/-- The coarsest grid that is searched. -/
def coarsest : Int := 310

/-- Search a number of grids from `10 ^ k` on, each finer than the one before. -/
def search (b : Binary) (tie : Tie) (k : Int) : (grids : Nat) → Option Decimal
  | 0 => none
  | n + 1 => (onGrid? b tie k).or (search b tie (k - 1) n)

/-- The shortest decimal that rounds to a number; zero has none. -/
def shortest? (b : Binary) (tie : Tie) : Option Decimal :=
  if b.significand = 0 then none else search b tie coarsest 660

/-- The digits as text. -/
def digitText (d : Decimal) : List Char := Nat.toDigits 10 d.digits

/-- The power of ten of the first digit. -/
def magnitude (d : Decimal) : Int := d.exponent + d.digitText.length - 1

/-- The digits with a decimal point where it belongs. -/
def positional (d : Decimal) : String :=
  let ds := d.digitText
  if 0 ≤ d.exponent then String.ofList (ds ++ List.replicate d.exponent.toNat '0')
  else
    let places := (-d.exponent).toNat
    let ds := List.replicate (places + 1 - ds.length) '0' ++ ds
    String.ofList (ds.take (ds.length - places) ++ '.' :: ds.drop (ds.length - places))

/-- One digit, the others after a decimal point, and an exponent of two digits at least. -/
def scientific (d : Decimal) : String :=
  let e := d.magnitude
  let (first, rest) := (d.digitText.take 1, d.digitText.drop 1)
  let es := Nat.toDigits 10 e.natAbs
  String.ofList (first ++ (if rest.isEmpty then [] else '.' :: rest) ++
    ['e', if e < 0 then '-' else '+'] ++ List.replicate (2 - es.length) '0' ++ es)

/-- A floating point number in some layout of its shortest decimal; what has none is written by its
name. -/
def ofFloat (tie : Tie) (zero : String) (layout : Decimal → String) (x : Float) : String :=
  if x.isNaN then "NaN"
  else
    let text := if x.isInf then "inf"
      else match shortest? (Binary.ofFloat x) tie with
        | some d => layout d
        | none => zero
    if 0x8000000000000000 ≤ x.toBits then "-" ++ text else text

/-- A floating point number without an exponent. -/
def plain (x : Float) : String := ofFloat .upper "0" positional x

/-- Is the first digit near enough to the decimal point to need no exponent? -/
def isNear (d : Decimal) : Bool := -4 ≤ d.magnitude && d.magnitude ≤ 15

/-- A floating point number with an exponent where it is very large or very small, and otherwise
with a decimal point, also if it is whole. -/
def graded (x : Float) : String :=
  ofFloat .even "0.0" (fun d =>
    if !d.isNear then d.scientific
    else if 0 ≤ d.exponent then d.positional ++ ".0" else d.positional) x

end Decimal

end ObjectStorage
