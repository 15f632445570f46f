/-!
# Finite binary64 numbers

A number is a sign and a significand scaled by a power of two, in the one form that the 64-bit
format stores. Every operation computes the exact ratio and rounds it once, to nearest with ties
to even. A result beyond the largest number is no number.
-/
namespace Dashboard

/-- The power `2 ^ n`. -/
def twoTo (n : Nat) : Nat := Nat.pow 2 n

/-- The power `10 ^ n`. -/
def tenTo (n : Nat) : Nat := Nat.pow 10 n

/-- The significands and exponents that 64 bits can hold: 53 bits, with leading zeros only at the
least exponent. -/
def Binary64.Canonical (significand : Nat) (exponent : Int) : Prop :=
  significand < twoTo 53 ∧ -1074 ≤ exponent ∧ exponent ≤ 971 ∧
    (twoTo 52 ≤ significand ∨ exponent = -1074)

instance (significand : Nat) (exponent : Int) :
    Decidable (Binary64.Canonical significand exponent) :=
  inferInstanceAs (Decidable (_ ∧ _ ∧ _ ∧ _))

/-- The number `± significand * 2 ^ exponent`. -/
structure Binary64 where
  negative : Bool
  significand : Nat
  exponent : Int
  canonical : Binary64.Canonical significand exponent
  deriving DecidableEq, Repr

/-- The quotient rounded to the nearest natural number, a half to the even one. -/
def roundedQuotient (num den : Nat) : Nat :=
  let quotient := num / den
  let twice := 2 * (num % den)
  if den < twice ∨ (twice = den ∧ quotient % 2 = 1) then quotient + 1 else quotient

namespace Binary64

def zero (negative : Bool) : Binary64 :=
  ⟨negative, 0, -1074, by decide⟩

def isZero (x : Binary64) : Bool :=
  x.significand == 0

def neg (x : Binary64) : Binary64 :=
  { x with negative := !x.negative }

/-- The exponent at which `num / den` has a significand of 53 bits, or the least exponent. -/
def exponentOf (num den : Nat) : Int :=
  let low : Int := (num.log2 : Int) - den.log2 - 53
  let wide : Bool := num * twoTo (-low).toNat / (den * twoTo low.toNat) ≥ twoTo 53
  max (-1074) (if wide then low + 1 else low)

/-- The number nearest to `± num / den`, or `none` if it lies beyond the largest one. -/
def ofRatio? (negative : Bool) (num den : Nat) : Option Binary64 :=
  if num = 0 then some (zero negative) else
  let exponent := exponentOf num den
  let significand := roundedQuotient (num * twoTo (-exponent).toNat) (den * twoTo exponent.toNat)
  -- rounding up may carry into a 54th bit
  let (significand, exponent) :=
    if significand = twoTo 53 then (twoTo 52, exponent + 1) else (significand, exponent)
  if h : Canonical significand exponent then some ⟨negative, significand, exponent, h⟩ else none

/-- The absolute value as an exact ratio. -/
def ratio (x : Binary64) : Nat × Nat :=
  (x.significand * twoTo x.exponent.toNat, twoTo (-x.exponent).toNat)

def ofInt? (n : Int) : Option Binary64 :=
  ofRatio? (n < 0) n.natAbs 1

def mul? (x y : Binary64) : Option Binary64 :=
  ofRatio? (x.negative != y.negative) (x.ratio.1 * y.ratio.1) (x.ratio.2 * y.ratio.2)

/-- The quotient; `y` is not zero. -/
def div? (x y : Binary64) : Option Binary64 :=
  ofRatio? (x.negative != y.negative) (x.ratio.1 * y.ratio.2) (x.ratio.2 * y.ratio.1)

/-- The number nearest to `± digits * 10 ^ exponent`. Far beyond both ends of the range the power
of ten is not computed. -/
def ofDecimal? (negative : Bool) (digits : Nat) (exponent : Int) : Option Binary64 :=
  let top : Int := exponent + (Nat.toDigits 10 digits).length
  if digits = 0 ∨ top < -330 then some (zero negative)
  else if 310 < top then none
  else ofRatio? negative (digits * tenTo exponent.toNat) (tenTo (-exponent).toNat)

end Binary64

end Dashboard
