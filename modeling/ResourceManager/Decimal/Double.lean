/-!
# Binary floating point

Finite numbers of the binary64 format in exact form, `± significand · 2 ^ exponent`, and the
rounding that leads to them.  Every operation is integer arithmetic followed by one rounding to the
nearest number, a tie going to the even significand.

* `Double.ofRatio?` rounds a ratio of natural numbers; it fails exactly on overflow.
* `Double.ofScientific?` reads `significand · 10 ^ exponent` in the way of a reader that converts
  the significand first and scales it afterwards, so it rounds twice.
-/

set_option autoImplicit false

namespace ResourceManager

/-- A finite binary64 number.  A number has one form: the significand lies in `2^52 .. 2^53 - 1`, or
below that with the least exponent. -/
structure Double where
  negative : Bool
  significand : Nat
  exponent : Int
deriving DecidableEq, Repr, Inhabited

namespace Double

/-- The least exponent of the format. -/
def minExponent : Int := -1074

/-- The greatest exponent of the format. -/
def maxExponent : Int := 971

/-- The number zero, of either sign. -/
def zero (negative : Bool) : Double :=
  ⟨negative, 0, minExponent⟩

/-- The quotient rounded to the nearest integer, a tie to the even one. -/
def roundDiv (num den : Nat) : Nat :=
  let q := num / den
  let r := num % den
  if 2 * r < den then q
  else if den < 2 * r then q + 1
  else q + q % 2

/-- The rounded quotient is within half of the divisor. -/
theorem roundDiv_close (num : Nat) {den : Nat} (hd : 0 < den) :
    2 * (roundDiv num den * den) ≤ 2 * num + den ∧
      2 * num ≤ 2 * (roundDiv num den * den) + den := by
  have h := Nat.div_add_mod num den
  have e : den * (num / den) = num / den * den := Nat.mul_comm _ _
  have hr := Nat.mod_lt num hd
  unfold roundDiv
  simp only
  split
  · omega
  split
  · rw [Nat.add_mul]; omega
  · rcases Nat.mod_two_eq_zero_or_one (num / den) with h2 | h2 <;> rw [h2, Nat.add_mul] <;> omega

/-- The exponent for which the ratio has 53 bits before the point, at least the least one. -/
def exponentOf (num den : Nat) : Int :=
  let guess : Int := (num.log2 : Int) - (den.log2 : Int) - 52
  let scaled := num * Nat.pow 2 (-guess).toNat / (den * Nat.pow 2 guess.toNat)
  max minExponent (if scaled < Nat.pow 2 52 then guess - 1 else guess)

/-- The number nearest to `num / den`; none when it is past the greatest one. -/
def ofRatio? (negative : Bool) (num den : Nat) : Option Double :=
  if num = 0 then some (zero negative)
  else
    let e := exponentOf num den
    let s := roundDiv (num * Nat.pow 2 (-e).toNat) (den * Nat.pow 2 e.toNat)
    let r : Double :=
      if s = Nat.pow 2 53 then ⟨negative, Nat.pow 2 52, e + 1⟩ else ⟨negative, s, e⟩
    if maxExponent < r.exponent then none else some r

/-- The product of a number and a power of ten that is itself rounded first. -/
def timesPowerOfTen? (x : Double) (n : Nat) : Option Double := do
  let p ← ofRatio? false (Nat.pow 10 n) 1
  let e := x.exponent + p.exponent
  ofRatio? x.negative (x.significand * p.significand * Nat.pow 2 e.toNat) (Nat.pow 2 (-e).toNat)

/-- The quotient of a number and a power of ten that is itself rounded first. -/
def overPowerOfTen? (x : Double) (n : Nat) : Option Double := do
  let p ← ofRatio? false (Nat.pow 10 n) 1
  let e := x.exponent - p.exponent
  ofRatio? x.negative (x.significand * Nat.pow 2 e.toNat) (p.significand * Nat.pow 2 (-e).toNat)

/-- The greatest power of ten that is a number of the format. -/
def maxPowerOfTen : Nat := 308

/-- A number divided by `10 ^ n`, in steps when the power is too great. -/
def scaleDown? (x : Double) (n : Nat) : Option Double :=
  if n ≤ maxPowerOfTen then x.overPowerOfTen? n
  else if x.significand = 0 then some x
  else do
    let y ← x.overPowerOfTen? maxPowerOfTen
    y.scaleDown? (n - maxPowerOfTen)
termination_by n
decreasing_by simp only [maxPowerOfTen] at *; omega

/-- A number multiplied by `10 ^ n`. -/
def scaleUp? (x : Double) (n : Nat) : Option Double :=
  if n ≤ maxPowerOfTen then x.timesPowerOfTen? n
  else if x.significand = 0 then some x
  else none

/-- `significand · 10 ^ exponent`: the significand is rounded, then scaled. -/
def ofScientific? (negative : Bool) (significand : Nat) (exponent : Int) : Option Double := do
  let x ← ofRatio? negative significand 1
  if 0 ≤ exponent then x.scaleUp? exponent.toNat else x.scaleDown? (-exponent).toNat

end Double
end ResourceManager
