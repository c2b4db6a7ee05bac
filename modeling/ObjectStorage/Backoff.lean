/-!
# Waiting before another attempt

The delay before a retry grows by a factor with every attempt, from a smallest to a largest delay,
and may be spread at random around that value.

* `Float.power` — a power with an integer exponent, by repeated squaring;
* `Backoff` — how often to try again, and how the delays grow;
* `Backoff.delay` — the delay before a retry, in milliseconds.
-/

namespace ObjectStorage

/-- Multiply `acc` by `base` to the power of a binary number, lowest digit first. -/
def powerOfBits (base acc : Float) : List Bool → Float
  | [] => acc
  | [b] => if b then acc * base else acc
  | b :: bs => powerOfBits (base * base) (if b then acc * base else acc) bs

/-- The binary digits of a number below `2^width`, lowest first, without zeros at the end. -/
def binaryDigits : (width n : Nat) → List Bool
  | 0, _ => []
  | width + 1, n => if n = 0 then [] else (n % 2 == 1) :: binaryDigits width (n / 2)

/-- A power with an integer exponent of 32 bits. -/
def power (base : Float) (exponent : Int) : Float :=
  let p := powerOfBits base 1 (binaryDigits 32 exponent.natAbs)
  if exponent < 0 then 1 / p else p

/-- How often a failed operation is tried again, and after which delays. -/
structure Backoff where
  /-- How many retries follow the first attempt at most. -/
  maxTimes : Nat := 3
  /-- The delay before the first retry, in milliseconds. -/
  minDelay : UInt64 := 1000
  /-- No delay is longer, in milliseconds. -/
  maxDelay : UInt64 := 60000
  /-- The growth from one delay to the next. -/
  factor : Float := 2
  /-- The part of a delay by which it may be shorter or longer. -/
  jitter : Float := 0

namespace Backoff

/-- The same with a jitter between 0 and 1. -/
def withJitter (b : Backoff) (jitter : Float) : Backoff :=
  { b with jitter := if jitter < 0 then 0 else if 1 < jitter then 1 else jitter }

/-- The smaller of two numbers; a bound counts for a value that is none. -/
def bounded (x bound : Float) : Float := if x ≤ bound then x else bound

/-- The delay before the retry `attempt`, counted from 1, in milliseconds.  Where in the spread it
lies is told by `luck`, a number from 0 to 1. -/
def delay (b : Backoff) (attempt : Nat) (luck : Float := 0.5) : UInt64 :=
  if attempt = 0 then 0
  else
    let base := b.minDelay.toFloat * power b.factor (Int.bmod attempt UInt32.size - 1)
    let capped := bounded base b.maxDelay.toFloat
    let chosen := capped + (luck - 0.5) * 2 * capped * b.jitter
    if 0 ≤ chosen then chosen.toUInt64 else 0

end Backoff

end ObjectStorage
