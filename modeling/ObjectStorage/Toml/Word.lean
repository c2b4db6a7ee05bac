import ObjectStorage.Decimal
import ObjectStorage.Toml.Moment

/-!
# Words in TOML

A value that is neither quoted nor made of other values is a word: a truth value, a whole number,
a number with a fraction or an exponent, or a moment.

* `Scalar` — the values that have no parts;
* `Scalar.display` — the form in which such a value is passed on;
* `Scalar.read?` — the value that a word stands for.
-/

namespace ObjectStorage.Toml

/-- A value that has no parts. -/
inductive Scalar
  | text (s : String)
  | boolean (b : Bool)
  | integer (n : Int)
  | float (x : Float)
  | moment (m : Moment)

namespace Scalar

/-- The form in which a value is passed on: texts as they are, numbers in decimal digits. -/
def display : Scalar → String
  | .text s => s
  | .boolean b => if b then "true" else "false"
  | .integer n => toString n
  | .float x => Decimal.plain x
  | .moment m => m.text

/-! ### Numbers -/

/-- Take away the underscores between digits; there must be a digit on both sides of each.
`after` tells whether a digit stands before. -/
def joinDigits? (isDigit : Char → Bool) (after : Bool) : List Char → Option (List Char)
  | [] => if after then some [] else none
  | '_' :: cs => if after then joinDigits? isDigit false cs else none
  | c :: cs => if isDigit c then (joinDigits? isDigit true cs).map (c :: ·) else none

/-- Decimal digits without the underscores between them; there is at least one. -/
def decimalDigits? (cs : List Char) : Option (List Char) := joinDigits? Char.isDigit false cs

/-- Do digits start with a zero that is not alone? -/
def isPadded : List Char → Bool
  | '0' :: _ :: _ => true
  | _ => false

/-- Split off a sign; a number without one is not negative. -/
def splitSign : List Char → Bool × List Char
  | '-' :: cs => (true, cs)
  | '+' :: cs => (false, cs)
  | cs => (false, cs)

/-- A number with its sign. -/
def signed (negative : Bool) (n : Nat) : Int := if negative then -(n : Int) else n

/-- A whole number of 64 bits. -/
def integerOf? (n : Int) : Option Scalar :=
  if Text.fitsInt64 n then some (.integer n) else none

/-- The value of a digit beyond nine, too. -/
def digitValue (c : Char) : Nat :=
  if c.isDigit then c.toNat - 48 else if 'a' ≤ c then c.toNat - 87 else c.toNat - 55

/-- Is a character a digit of a number system? -/
def isDigitOf (base : Nat) (c : Char) : Bool :=
  (c.isDigit || ('a' ≤ c && c ≤ 'f') || ('A' ≤ c && c ≤ 'F')) && digitValue c < base

/-- The whole number that digits of a number system stand for. -/
def based? (base : Nat) (cs : List Char) : Option Scalar := do
  let ds ← joinDigits? (isDigitOf base) false cs
  integerOf? (ds.foldl (fun n c => n * base + digitValue c) 0 : Nat)

/-- A whole number in decimal digits. -/
def decimal? (cs : List Char) : Option Scalar := do
  let (negative, cs) := splitSign cs
  let ds ← decimalDigits? cs
  if isPadded ds then none
  integerOf? (signed negative (← Text.digits? ds))

/-- The exponent after its mark. -/
def exponent? (cs : List Char) : Option Int := do
  let (negative, cs) := splitSign cs
  let ds ← decimalDigits? cs
  some (signed negative (← Text.digits? ds))

/-- The floating point number nearest to `n * 10 ^ e`, unless that is too large.  Far beyond all
floating point numbers nothing needs to be computed. -/
def nearest? (n : Nat) (e : Int) : Option Float :=
  let top : Int := (Nat.toDigits 10 n).length + e
  if n = 0 || top < -400 then some 0
  else if 400 < top then none
  else
    let x := Float.ofScientific n (e < 0) e.natAbs
    if x.isInf then none else some x

/-- Split a word at the first character that is one of two. -/
def splitAtEither (a b : Char) (cs : List Char) : List Char × Option (List Char) :=
  let head := cs.takeWhile fun c => c ≠ a && c ≠ b
  match cs.drop head.length with
  | [] => (head, none)
  | _ :: rest => (head, some rest)

/-- A number with a fraction, an exponent, or both. -/
def fraction? (cs : List Char) : Option Scalar := do
  let (negative, cs) := splitSign cs
  let (body, power) := splitAtEither 'e' 'E' cs
  let (whole, places) := splitAtEither '.' '.' body
  if power.isNone && places.isNone then none
  let ds ← decimalDigits? whole
  if isPadded ds then none
  let fs ← match places with
    | some places => decimalDigits? places
    | none => some []
  let e ← match power with
    | some power => exponent? power
    | none => some 0
  let x ← nearest? (← Text.digits? (ds ++ fs)) (e - fs.length)
  some (.float (if negative then -x else x))

/-- The numbers that have names. -/
def named? (cs : List Char) : Option Scalar :=
  let (negative, cs) := splitSign cs
  let x : Option Float :=
    if cs = "inf".toList then some (1.0 / 0.0)
    else if cs = "nan".toList then some (0.0 / 0.0) else none
  x.map fun x => .float (if negative then -x else x)

/-- The value that a word stands for. -/
def read? (cs : List Char) : Option Scalar :=
  match cs with
  | '0' :: 'x' :: ds => based? 16 ds
  | '0' :: 'o' :: ds => based? 8 ds
  | '0' :: 'b' :: ds => based? 2 ds
  | _ =>
    if cs = "true".toList then some (.boolean true)
    else if cs = "false".toList then some (.boolean false)
    else
      (named? cs).or <| (decimal? cs).or <| (fraction? cs).or <|
        (Moment.read? cs).map .moment

end Scalar

end ObjectStorage.Toml
