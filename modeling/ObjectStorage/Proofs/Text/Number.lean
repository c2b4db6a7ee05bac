import Mathlib.Data.Nat.Digits.Defs
import ObjectStorage.Text.Number

/-!
# Numbers as they are written

A number is written in decimal digits, after a minus if it is negative, and is read back from them.

* `digits?_toDigits`, `unsigned?_toString` — a number without sign is read back;
* `mem_toString_int` — what a number with a sign is written in.
-/

namespace ObjectStorage.Text

theorem digitsFrom_of_isDigit {cs : List Char} (h : ∀ c ∈ cs, c.isDigit = true) (acc : Nat) :
    digitsFrom acc cs = some (Nat.ofDigitChars 10 cs acc) := by
  induction cs generalizing acc with
  | nil => rfl
  | cons c cs ih =>
    obtain ⟨hc, hcs⟩ := List.forall_mem_cons.1 h
    rw [digitsFrom, if_pos hc, ih hcs, Nat.ofDigitChars_cons, Nat.mul_comm]

theorem isDigit_of_mem_toDigits {n : Nat} {c : Char} (h : c ∈ Nat.toDigits 10 n) :
    c.isDigit = true := Nat.isDigit_of_mem_toDigits (by omega) (by omega) h

/-- The digits of a number are read as the number. -/
theorem digits?_toDigits (n : Nat) : digits? (Nat.toDigits 10 n) = some n := by
  rw [digits?, if_neg Nat.toDigits_ne_nil,
    digitsFrom_of_isDigit fun _ => isDigit_of_mem_toDigits, Nat.ofDigitChars_ten_toDigits]

theorem toList_toString (n : Nat) : (toString n).toList = Nat.toDigits 10 n := by
  rw [Nat.toString_eq_ofList_toDigits, String.toList_ofList]

/-- **A number is read as it was written.** -/
theorem unsigned?_toString (n : Nat) : unsigned? (toString n).toList = some n := by
  have hdigits : ∀ c ∈ Nat.toDigits 10 n, c.isDigit = true := fun _ => isDigit_of_mem_toDigits
  rw [toList_toString, ← digits?_toDigits n]
  cases hcs : Nat.toDigits 10 n with
  | nil => rfl
  | cons c cs =>
    rw [hcs] at hdigits
    rw [unsigned?]
    rintro rest ⟨⟩
    cases hdigits '+' List.mem_cons_self

/-- A number with a sign is written in digits and maybe a minus. -/
theorem mem_toString_int {n : Int} {c : Char} (h : c ∈ (toString n).toList) :
    c = '-' ∨ c.isDigit = true := by
  cases n with
  | ofNat n =>
    have hchars : (toString (Int.ofNat n)).toList = Nat.toDigits 10 n := toList_toString n
    rw [hchars] at h
    exact .inr (isDigit_of_mem_toDigits h)
  | negSucc n =>
    have hchars : (toString (Int.negSucc n)).toList = '-' :: Nat.toDigits 10 (n + 1) := by
      rw [show toString (Int.negSucc n) = "-" ++ toString (n + 1) from rfl, String.toList_append,
        toList_toString]
      rfl
    rw [hchars, List.mem_cons] at h
    exact h.imp id isDigit_of_mem_toDigits

end ObjectStorage.Text
