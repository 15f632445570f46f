import Dashboard.Number.Shortest
import Mathlib.Algebra.Order.Field.Rat
import Mathlib.Algebra.Order.Field.Power
import Mathlib.Tactic.FieldSimp
import Mathlib.Tactic.Linarith
import Mathlib.Tactic.Positivity
/-!
# Rounding to the nearest number

A positive number is the nearest one to the ratios in an interval around it. The ends of the
interval lie halfway to the neighbours, and they belong to it if the significand is even. Each ratio
in the interval is rounded to the number, whatever numerator and denominator it is written with.
-/
namespace Dashboard

/-! ## Powers -/

theorem cast_twoTo (n : Nat) : (twoTo n : ℚ) = 2 ^ n := by
  rw [twoTo, Nat.pow_eq, Nat.cast_pow, Nat.cast_ofNat]

theorem cast_tenTo (n : Nat) : (tenTo n : ℚ) = 10 ^ n := by
  rw [tenTo, Nat.pow_eq, Nat.cast_pow, Nat.cast_ofNat]

/-- A power as a ratio of two whole powers, of which one is one. -/
theorem zpow_eq_div {b : ℚ} (nonzero : b ≠ 0) (e : ℤ) : b ^ e = b ^ e.toNat / b ^ (-e).toNat := by
  have split : e = (e.toNat : ℤ) - ((-e).toNat : ℤ) := by omega
  rw [← zpow_natCast, ← zpow_natCast, ← zpow_sub₀ nonzero, ← split]

theorem two_zpow_pos (e : ℤ) : (0 : ℚ) < 2 ^ e :=
  zpow_pos (by norm_num) e

/-- A ratio that is scaled by a power of two, in whole numbers. -/
theorem scaled_eq (num den : Nat) (e : ℤ) :
    ((num * twoTo (-e).toNat : Nat) : ℚ) / (den * twoTo e.toNat : Nat) =
      (num / den : ℚ) / 2 ^ e := by
  rw [Nat.cast_mul, Nat.cast_mul, cast_twoTo, cast_twoTo, zpow_eq_div (by norm_num) e]
  field_simp

/-! ## Quotients -/

/-- From `reach` below `n` to a half above it. The ends belong to an even `n` only. -/
structure Near (reach : ℚ) (n : Nat) (s : ℚ) : Prop where
  below : n - reach ≤ s
  above : s ≤ n + 1 / 2
  inside : n % 2 = 1 → n - reach < s ∧ s < n + 1 / 2

theorem Near.widen {reach wider : ℚ} {n : Nat} {s : ℚ} (h : Near reach n s)
    (wide : reach ≤ wider) : Near wider n s where
  below := by linarith [h.below]
  above := h.above
  inside odd := ⟨by linarith [(h.inside odd).1], (h.inside odd).2⟩

/-- Nearness of a quotient, in whole numbers. -/
theorem near_half_iff {num den n : Nat} (positive : 0 < den) :
    Near (1 / 2) n (num / den) ↔ 2 * (n * den) ≤ 2 * num + den ∧ 2 * num ≤ 2 * (n * den) + den ∧
      (n % 2 = 1 → 2 * (n * den) < 2 * num + den ∧ 2 * num < 2 * (n * den) + den) := by
  have pos : (0 : ℚ) < den := by exact_mod_cast positive
  have below : (n - 1 / 2 : ℚ) ≤ num / den ↔ 2 * (n * den) ≤ 2 * num + den := by
    rw [le_div_iff₀ pos, ← Nat.cast_le (α := ℚ)]
    push_cast
    constructor <;> intro h <;> linarith
  have above : (num / den : ℚ) ≤ n + 1 / 2 ↔ 2 * num ≤ 2 * (n * den) + den := by
    rw [div_le_iff₀ pos, ← Nat.cast_le (α := ℚ)]
    push_cast
    constructor <;> intro h <;> linarith
  have below' : (n - 1 / 2 : ℚ) < num / den ↔ 2 * (n * den) < 2 * num + den := by
    rw [lt_div_iff₀ pos, ← Nat.cast_lt (α := ℚ)]
    push_cast
    constructor <;> intro h <;> linarith
  have above' : (num / den : ℚ) < n + 1 / 2 ↔ 2 * num < 2 * (n * den) + den := by
    rw [div_lt_iff₀ pos, ← Nat.cast_lt (α := ℚ)]
    push_cast
    constructor <;> intro h <;> linarith
  rw [← below, ← above, ← below', ← above']
  exact ⟨fun near => ⟨near.below, near.above, near.inside⟩,
    fun ⟨low, high, inside⟩ => ⟨low, high, inside⟩⟩

/-- A quotient is near to what it is rounded to. -/
theorem near_roundedQuotient {num den : Nat} (positive : 0 < den) :
    Near (1 / 2) (roundedQuotient num den) (num / den) := by
  rw [near_half_iff positive]
  have whole : num / den * den + num % den = num := Nat.div_add_mod' num den
  have rest : num % den < den := Nat.mod_lt num positive
  unfold roundedQuotient
  dsimp only
  generalize num / den = q at whole
  generalize num % den = t at whole rest
  split
  · rw [Nat.add_mul]
    omega
  · omega

/-- Quotients are rounded to what they are near to. -/
theorem roundedQuotient_eq {num den n : Nat} (positive : 0 < den)
    (near : Near (1 / 2) n (num / den)) : roundedQuotient num den = n := by
  obtain ⟨below, above, inside⟩ := (near_half_iff positive).1 near
  have whole : num / den * den + num % den = num := Nat.div_add_mod' num den
  have rest : num % den < den := Nat.mod_lt num positive
  unfold roundedQuotient
  dsimp only
  generalize num / den = q at whole
  generalize num % den = t at whole rest
  -- `n` is the quotient or the next number
  have least : q ≤ n := by
    by_contra less
    have := Nat.mul_le_mul_right den (show n + 1 ≤ q by omega)
    rw [Nat.add_mul] at this
    omega
  have most : n ≤ q + 1 := by
    by_contra more
    have := Nat.mul_le_mul_right den (show q + 2 ≤ n by omega)
    rw [Nat.add_mul] at this
    omega
  obtain rfl | rfl : n = q ∨ n = q + 1 := by omega
  · rw [if_neg (by omega)]
  · rw [Nat.add_mul] at below above inside
    rw [if_pos (by omega)]

namespace Binary64

/-! ## Exponents -/

/-- A ratio lies between the quotients of the powers of two around its parts. -/
theorem bounds_of_log2 {num den : Nat} (hnum : num ≠ 0) (hden : den ≠ 0) {low : ℤ}
    (h : low = (num.log2 : ℤ) - den.log2 - 53) :
    (2 : ℚ) ^ 52 * 2 ^ low ≤ num / den ∧ (num / den : ℚ) < 2 ^ 54 * 2 ^ low := by
  have num_low : (2 : ℚ) ^ num.log2 ≤ num := by exact_mod_cast Nat.log2_self_le hnum
  have num_high : (num : ℚ) < 2 ^ num.log2 * 2 := by exact_mod_cast Nat.lt_log2_self (n := num)
  have den_low : (2 : ℚ) ^ den.log2 ≤ den := by exact_mod_cast Nat.log2_self_le hden
  have den_high : (den : ℚ) < 2 ^ den.log2 * 2 := by exact_mod_cast Nat.lt_log2_self (n := den)
  have pos : (0 : ℚ) < den := by exact_mod_cast Nat.pos_of_ne_zero hden
  have power : (2 : ℚ) ^ low * (2 ^ den.log2 * 2 ^ 53) = 2 ^ num.log2 := by
    rw [← zpow_natCast, ← zpow_natCast, ← zpow_natCast, ← zpow_add₀ (by norm_num),
      ← zpow_add₀ (by norm_num)]
    congr 1
    push_cast
    omega
  have step := two_zpow_pos low
  constructor
  · rw [le_div_iff₀ pos]
    nlinarith
  · rw [div_lt_iff₀ pos]
    nlinarith

/-- The exponent that a ratio needs for a significand of 53 bits, or the least one. -/
theorem exists_exponentOf_eq {num den : Nat} (hnum : num ≠ 0) (hden : den ≠ 0) :
    ∃ e : ℤ, (2 : ℚ) ^ 52 * 2 ^ e ≤ num / den ∧ (num / den : ℚ) < 2 ^ 53 * 2 ^ e ∧
      exponentOf num den = max (-1074) e := by
  let low : ℤ := (num.log2 : ℤ) - den.log2 - 53
  obtain ⟨least, most⟩ := bounds_of_log2 hnum hden (show low = _ from rfl)
  have step := two_zpow_pos low
  have scale : 0 < den * twoTo low.toNat :=
    Nat.mul_pos (Nat.pos_of_ne_zero hden) (Nat.pow_pos (by decide))
  have wide : num * twoTo (-low).toNat / (den * twoTo low.toNat) ≥ twoTo 53 ↔
      (2 : ℚ) ^ 53 * 2 ^ low ≤ num / den := by
    have pos : (0 : ℚ) < (den * twoTo low.toNat : Nat) := by exact_mod_cast scale
    rw [ge_iff_le, Nat.le_div_iff_mul_le scale, ← le_div_iff₀ step, ← scaled_eq, le_div_iff₀ pos,
      ← cast_twoTo, ← Nat.cast_mul, Nat.cast_le]
  have exponent : exponentOf num den = max (-1074)
      (if decide (num * twoTo (-low).toNat / (den * twoTo low.toNat) ≥ twoTo 53) then low + 1
        else low) := rfl
  rw [exponent]
  by_cases large : (2 : ℚ) ^ 53 * 2 ^ low ≤ num / den
  · have next : (2 : ℚ) ^ (low + 1) = 2 ^ low * 2 := zpow_add_one₀ (by norm_num) low
    refine ⟨low + 1, ?_, ?_, ?_⟩
    · rw [next]
      linarith
    · rw [next]
      linarith
    · rw [decide_eq_true (wide.2 large), if_pos rfl]
  · refine ⟨low, least, not_le.1 large, ?_⟩
    rw [decide_eq_false (large ∘ wide.1), if_neg Bool.false_ne_true]

/-- Where the significand fits 53 bits and has no leading zeros, or none can be avoided. -/
theorem exponentOf_eq {num den : Nat} (hnum : num ≠ 0) (hden : den ≠ 0) {e : ℤ}
    (range : -1074 ≤ e) (most : (num / den : ℚ) < 2 ^ 53 * 2 ^ e)
    (least : (2 : ℚ) ^ 52 * 2 ^ e ≤ num / den ∨ e = -1074) : exponentOf num den = e := by
  obtain ⟨e', least', most', exponent⟩ := exists_exponentOf_eq hnum hden
  have below {a b : ℤ} (h : (2 : ℚ) ^ 52 * 2 ^ a ≤ num / den)
      (k : (num / den : ℚ) < 2 ^ 53 * 2 ^ b) : a ≤ b := by
    have next : (2 : ℚ) ^ (b + 1) = 2 ^ b * 2 := zpow_add_one₀ (by norm_num) b
    have less : (2 : ℚ) ^ a < 2 ^ (b + 1) := by
      rw [next]
      linarith
    have := (zpow_lt_zpow_iff_right₀ (by norm_num)).1 less
    omega
  have upper := below least' most
  rw [exponent]
  obtain least | rfl := least
  · have := below least most'
    omega
  · omega

/-! ## Rounding -/

/-- How far the interval of a number reaches down, in last places. -/
def reach (x : Binary64) : ℚ := if x.narrowBelow then 1 / 4 else 1 / 2

theorem reach_le (x : Binary64) : x.reach ≤ 1 / 2 := by
  unfold reach
  split <;> norm_num

/-- The ratios that a positive number is the nearest one to. -/
def Covers (x : Binary64) (r : ℚ) : Prop :=
  Near x.reach x.significand (r / 2 ^ x.exponent)

namespace Covers
variable {x : Binary64} {r : ℚ}

theorem low (h : x.Covers r) : (x.significand - x.reach) * 2 ^ x.exponent ≤ r :=
  (le_div_iff₀ (two_zpow_pos x.exponent)).1 h.below

theorem high (h : x.Covers r) : r ≤ (x.significand + 1 / 2) * 2 ^ x.exponent :=
  (div_le_iff₀ (two_zpow_pos x.exponent)).1 h.above

theorem half_le (positive : x.significand ≠ 0) (h : x.Covers r) :
    1 / 2 * 2 ^ x.exponent ≤ r := by
  have one : (1 : ℚ) ≤ x.significand := by exact_mod_cast Nat.one_le_iff_ne_zero.2 positive
  have step := two_zpow_pos x.exponent
  have low := h.low
  have reach := x.reach_le
  nlinarith

theorem pos (positive : x.significand ≠ 0) (h : x.Covers r) : 0 < r :=
  lt_of_lt_of_le (mul_pos (by norm_num) (two_zpow_pos x.exponent)) (h.half_le positive)

theorem lt_range (h : x.Covers r) : r < 2 ^ 53 * 2 ^ x.exponent := by
  have fits : (x.significand : ℚ) + 1 ≤ 2 ^ 53 := by
    rw [← cast_twoTo]
    exact_mod_cast x.canonical.1
  have step := two_zpow_pos x.exponent
  have high := h.high
  nlinarith

/-- Only a power of two covers ratios that have a lower exponent. -/
theorem significand_eq (h : x.Covers r) (below : r < 2 ^ 52 * 2 ^ x.exponent)
    (inner : x.exponent ≠ -1074) : x.significand = twoTo 52 := by
  have full : twoTo 52 ≤ x.significand := x.canonical.2.2.2.resolve_right inner
  by_contra other
  have more : (2 : ℚ) ^ 52 + 1 ≤ x.significand := by
    rw [← cast_twoTo]
    exact_mod_cast Nat.lt_of_le_of_ne full (Ne.symm other)
  have step := two_zpow_pos x.exponent
  have low := h.low
  have reach := x.reach_le
  nlinarith

theorem quarter_le (h : x.Covers r) (power : x.significand = twoTo 52)
    (inner : x.exponent ≠ -1074) : (2 ^ 52 - 1 / 4) * 2 ^ x.exponent ≤ r := by
  have above : -1074 < x.exponent := lt_of_le_of_ne x.canonical.2.1 (Ne.symm inner)
  have quarter : x.reach = 1 / 4 := by
    simp only [reach, narrowBelow, power, beq_self_eq_true, Bool.true_and, decide_eq_true above,
      if_true]
  have low := h.low
  rwa [quarter, power, cast_twoTo] at low

end Covers

theorem ofRatio?_of_quotient {num den : Nat} (hnum : num ≠ 0) {e : ℤ} {m : Nat}
    (exponent : exponentOf num den = e)
    (rounded : roundedQuotient (num * twoTo (-e).toNat) (den * twoTo e.toNat) = m)
    (small : m ≠ twoTo 53) (canonical : Canonical m e) (negative : Bool) :
    ofRatio? negative num den = some ⟨negative, m, e, canonical⟩ := by
  unfold ofRatio?
  rw [if_neg hnum]
  dsimp only
  rw [exponent, rounded, if_neg small]
  exact dif_pos canonical

theorem ofRatio?_of_carry {num den : Nat} (hnum : num ≠ 0) {e : ℤ}
    (exponent : exponentOf num den = e)
    (rounded : roundedQuotient (num * twoTo (-e).toNat) (den * twoTo e.toNat) = twoTo 53)
    (canonical : Canonical (twoTo 52) (e + 1)) (negative : Bool) :
    ofRatio? negative num den = some ⟨negative, twoTo 52, e + 1, canonical⟩ := by
  unfold ofRatio?
  rw [if_neg hnum]
  dsimp only
  rw [exponent, rounded, if_pos rfl]
  exact dif_pos canonical

/-- A ratio is rounded to the number whose interval it lies in. -/
theorem ofRatio?_of_covers {x : Binary64} (positive : x.significand ≠ 0) {num den : Nat}
    (hden : den ≠ 0) (covers : x.Covers (num / den)) (negative : Bool) :
    ofRatio? negative num den = some { x with negative } := by
  have hnum : num ≠ 0 := by
    rintro rfl
    have := covers.pos positive
    simp at this
  have scale (e : ℤ) : 0 < den * twoTo e.toNat :=
    Nat.mul_pos (Nat.pos_of_ne_zero hden) (Nat.pow_pos (by decide))
  have range := x.canonical.2.1
  by_cases least : (2 : ℚ) ^ 52 * 2 ^ x.exponent ≤ num / den ∨ x.exponent = -1074
  · -- the ratio has the exponent of the number
    have exponent := exponentOf_eq hnum hden range covers.lt_range least
    have near : Near (1 / 2) x.significand
        ((num * twoTo (-x.exponent).toNat : Nat) / (den * twoTo x.exponent.toNat : Nat)) := by
      rw [scaled_eq]
      exact covers.widen x.reach_le
    exact ofRatio?_of_quotient hnum exponent (roundedQuotient_eq (scale x.exponent) near)
      (Nat.ne_of_lt x.canonical.1) x.canonical negative
  · -- the ratio lies below a power of two, and rounding it carries into one more bit
    obtain ⟨below, inner⟩ := not_or.1 least
    have power := covers.significand_eq (not_le.1 below) inner
    have low := covers.quarter_le power inner
    have half : (2 : ℚ) ^ x.exponent = 2 ^ (x.exponent - 1) * 2 := by
      rw [← zpow_add_one₀ (by norm_num), sub_add_cancel]
    rw [half] at low below
    have step := two_zpow_pos (x.exponent - 1)
    have exponent : exponentOf num den = x.exponent - 1 :=
      exponentOf_eq hnum hden (by omega) (by linarith) (.inl (by linarith))
    have near : Near (1 / 2) (twoTo 53) ((num * twoTo (-(x.exponent - 1)).toNat : Nat) /
        (den * twoTo (x.exponent - 1).toNat : Nat)) := by
      rw [scaled_eq]
      refine ⟨?_, ?_, fun odd => absurd odd (by decide)⟩
      · rw [le_div_iff₀ step, cast_twoTo]
        linarith
      · rw [div_le_iff₀ step, cast_twoTo]
        linarith
    have carried : Canonical (twoTo 52) (x.exponent - 1 + 1) := by
      rw [sub_add_cancel, ← power]
      exact x.canonical
    rw [ofRatio?_of_carry hnum exponent (roundedQuotient_eq (scale (x.exponent - 1)) near) carried]
    simp only [sub_add_cancel, power]

/-! ## The range -/

/-- Half the way from the largest number to the power of two above it. -/
def limit : ℚ := 2 ^ 1024 - 2 ^ 970

theorem limit_eq : limit = (2 ^ 53 - 1 / 2) * 2 ^ (971 : ℤ) := by
  have top : (2 : ℚ) ^ 1024 = 2 ^ 53 * 2 ^ 971 := pow_add 2 53 971
  have half : (2 : ℚ) ^ 971 = 2 ^ 970 * 2 := pow_succ 2 970
  rw [limit, zpow_ofNat, top, half]
  generalize (2 : ℚ) ^ 970 = p
  linarith

theorem lt_limit {r : ℚ} {e : ℤ} (small : e ≤ 970) (below : r < 2 ^ 53 * 2 ^ e) : r < limit := by
  have power : (2 : ℚ) ^ e ≤ 2 ^ (970 : ℤ) := zpow_le_zpow_right₀ (by norm_num) small
  have next : (2 : ℚ) ^ (971 : ℤ) = 2 ^ (970 : ℤ) * 2 := zpow_add_one₀ (by norm_num) 970
  have step := two_zpow_pos 970
  rw [limit_eq, next]
  generalize (2 : ℚ) ^ (970 : ℤ) = p at power step
  linarith only [below, power, step]

theorem limit_le {r : ℚ} {e : ℤ} (large : 972 ≤ e) (above : 2 ^ 52 * 2 ^ e ≤ r) : limit ≤ r := by
  have power : (2 : ℚ) ^ (972 : ℤ) ≤ 2 ^ e := zpow_le_zpow_right₀ (by norm_num) large
  have next : (2 : ℚ) ^ (972 : ℤ) = 2 ^ (971 : ℤ) * 2 := zpow_add_one₀ (by norm_num) 971
  have step := two_zpow_pos 971
  rw [limit_eq]
  rw [next] at power
  generalize (2 : ℚ) ^ (971 : ℤ) = p at power step
  linarith only [above, power, step]

/-- At the largest exponent a significand of 53 bits is left if the ratio is below the limit. -/
theorem ne_carry_iff_lt_limit {r : ℚ} {m : Nat} (near : Near (1 / 2) m (r / 2 ^ (971 : ℤ)))
    (most : m ≤ twoTo 53) : m ≠ twoTo 53 ↔ r < limit := by
  rw [limit_eq, ← div_lt_iff₀ (two_zpow_pos 971)]
  constructor
  · intro other
    obtain last | inner : m = twoTo 53 - 1 ∨ m + 2 ≤ twoTo 53 := by
      have positive : 0 < twoTo 53 := Nat.pow_pos (by decide)
      omega
    · -- the largest number has an odd significand
      have odd : (m : ℚ) + 1 = 2 ^ 53 := by
        rw [← cast_twoTo]
        exact_mod_cast (by omega : m + 1 = twoTo 53)
      have := (near.inside (by rw [last]; rfl)).2
      linarith
    · have fits : (m : ℚ) + 2 ≤ 2 ^ 53 := by
        rw [← cast_twoTo]
        exact_mod_cast inner
      have := near.above
      linarith
  · rintro below rfl
    have := near.below
    rw [cast_twoTo] at this
    linarith

/-- A ratio that has a significand of 53 bits at an exponent, or the least one. It is rounded to a
number exactly if it is below the limit. -/
theorem exponent_le_iff_lt_limit {r : ℚ} {m : Nat} {e : ℤ} (near : Near (1 / 2) m (r / 2 ^ e))
    (least : 2 ^ 52 * 2 ^ e ≤ r ∨ e = -1074) (most : r < 2 ^ 53 * 2 ^ e) (fits : m ≤ twoTo 53) :
    (if m = twoTo 53 then e + 1 else e) ≤ 971 ↔ r < limit := by
  obtain small | rfl | large : e ≤ 970 ∨ e = 971 ∨ 972 ≤ e := by omega
  · refine iff_of_true ?_ (lt_limit small most)
    split <;> omega
  · rw [← ne_carry_iff_lt_limit near fits]
    split <;> simp [*]
  · have normal : (2 : ℚ) ^ 52 * 2 ^ e ≤ r := least.resolve_right (by omega)
    refine iff_of_false ?_ (not_lt.2 (limit_le large normal))
    split <;> omega

/-- The significand fits 53 bits, or the rounding carries into one more. -/
theorem le_carry_of_near {r : ℚ} {m : Nat} {e : ℤ} (near : Near (1 / 2) m (r / 2 ^ e))
    (most : r < 2 ^ 53 * 2 ^ e) : m ≤ twoTo 53 := by
  have below := (div_lt_iff₀ (two_zpow_pos e)).2 most
  have low := near.below
  rw [← Nat.lt_succ_iff, ← Nat.cast_lt (α := ℚ), Nat.cast_succ, cast_twoTo]
  linarith

theorem full_of_near {r : ℚ} {m : Nat} {e : ℤ} (near : Near (1 / 2) m (r / 2 ^ e))
    (least : 2 ^ 52 * 2 ^ e ≤ r) : twoTo 52 ≤ m := by
  have above := (le_div_iff₀ (two_zpow_pos e)).2 least
  have high := near.above
  rw [← Nat.lt_succ_iff, ← Nat.cast_lt (α := ℚ), Nat.cast_succ, cast_twoTo]
  linarith

theorem isSome_dite {p : Prop} [Decidable p] {α : Type} {f : p → α} :
    (if h : p then some (f h) else none).isSome ↔ p := by
  split <;> simp [*]

/-- The exponent at which a ratio is rounded, and the significand that it is near to there. -/
theorem exists_rounded {num den : Nat} (hnum : num ≠ 0) (hden : den ≠ 0) :
    ∃ (m : Nat) (e : ℤ), exponentOf num den = e ∧
      roundedQuotient (num * twoTo (-e).toNat) (den * twoTo e.toNat) = m ∧
      Near (1 / 2) m ((num / den : ℚ) / 2 ^ e) ∧ -1074 ≤ e ∧
      (2 ^ 52 * 2 ^ e ≤ (num / den : ℚ) ∨ e = -1074) ∧ (num / den : ℚ) < 2 ^ 53 * 2 ^ e := by
  obtain ⟨inner, least, most, exponent⟩ := exists_exponentOf_eq hnum hden
  generalize top : max (-1074) inner = e at exponent
  have scale : 0 < den * twoTo e.toNat :=
    Nat.mul_pos (Nat.pos_of_ne_zero hden) (Nat.pow_pos (by decide))
  have near : Near (1 / 2) _ ((num * twoTo (-e).toNat : Nat) / (den * twoTo e.toNat : Nat)) :=
    near_roundedQuotient scale
  rw [scaled_eq] at near
  refine ⟨_, e, exponent, rfl, near, by omega, ?_, ?_⟩
  · by_cases same : inner = e
    · exact .inl (same ▸ least)
    · exact .inr (by omega)
  · have power : (2 : ℚ) ^ inner ≤ 2 ^ e := zpow_le_zpow_right₀ (by norm_num) (by omega)
    linarith

/-- The ratios below the limit are rounded to a number. -/
theorem isSome_ofRatio? {num den : Nat} (hden : den ≠ 0) (negative : Bool) :
    (ofRatio? negative num den).isSome ↔ (num / den : ℚ) < limit := by
  unfold ofRatio?
  by_cases hnum : num = 0
  · subst hnum
    have positive : (0 : ℚ) < limit := lt_limit (e := 0) (by norm_num) (by norm_num)
    simpa using positive
  · obtain ⟨m, e, exponent, rounded, near, range, least, most⟩ := exists_rounded hnum hden
    rw [if_neg hnum]
    dsimp only
    rw [exponent, rounded, ← exponent_le_iff_lt_limit near least most (le_carry_of_near near most)]
    -- a number is canonical if its exponent is not too large
    split
    · dsimp only
      rw [isSome_dite]
      exact ⟨fun canonical => canonical.2.2.1,
        fun top => ⟨by decide, by omega, top, .inl le_rfl⟩⟩
    · next other =>
      have fits := le_carry_of_near near most
      dsimp only
      rw [isSome_dite]
      exact ⟨fun canonical => canonical.2.2.1,
        fun top => ⟨by omega, range, top, least.imp_left (full_of_near near)⟩⟩

theorem isSome_ofInt? {n : ℤ} : (ofInt? n).isSome ↔ (n.natAbs : ℚ) < limit := by
  rw [ofInt?, isSome_ofRatio? one_ne_zero, Nat.cast_one, div_one]

end Binary64
end Dashboard
