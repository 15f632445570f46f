import Dashboard.Proofs.Decimals
import Dashboard.Proofs.Decoding
/-!
# Numbers read back from their texts

The shortest decimal of a number lies in the interval that is rounded to the number. It is laid out
in one of three ways, and each of them spells the same decimal. So a number is read back from its
text, and different numbers have different texts.
-/
namespace Dashboard.Binary64

/-! ## Decimals -/

def Decimal.value (d : Decimal) : ℚ := d.digits * 10 ^ d.exponent

theorem Decimal.value_stripped (d : Decimal) : d.stripped.value = d.value := by
  fun_induction Decimal.stripped d with
  | case1 d more ih =>
    have whole : (d.digits : ℚ) = 10 * (d.digits / 10 : Nat) := by
      have : d.digits = 10 * (d.digits / 10) := by omega
      exact_mod_cast this
    rw [ih, value, value, zpow_add_one₀ (by norm_num), whole]
    ring
  | case2 d last => rfl

theorem value_exactDecimal (x : Binary64) :
    x.exactDecimal.value = x.significand * 2 ^ x.exponent := by
  have least : min x.exponent 0 = -((-x.exponent).toNat : ℤ) := by omega
  have five (n : Nat) : (10 : ℚ) ^ n = 2 ^ n * 5 ^ n := by rw [← mul_pow]; norm_num
  simp only [Decimal.value, exactDecimal, least, zpow_neg, zpow_natCast,
    zpow_eq_div (b := 2) (by norm_num), Nat.pow_eq, Nat.cast_mul, Nat.cast_pow, Nat.cast_ofNat,
    cast_twoTo, five]
  field_simp

section Interval
variable {x : Binary64}

/-- A number is in the interval around itself. -/
theorem covers_self (x : Binary64) : x.Covers (x.significand * 2 ^ x.exponent) := by
  have step := two_zpow_pos x.exponent
  have some : 0 < x.reach := by
    unfold reach
    split <;> norm_num
  rw [Covers, mul_div_assoc, div_self step.ne', mul_one]
  exact ⟨by linarith, by linarith, fun _ => ⟨by linarith, by linarith⟩⟩

/-- The places of the grid are compared with the interval in whole numbers. -/
theorem grid_eq (x : Binary64) (scale : ℤ) (point : Nat) :
    (point : ℚ) * (x.grid scale).den =
      point * 10 ^ scale / 2 ^ x.exponent * (x.grid scale).unit := by
  simp only [grid, Nat.cast_mul, cast_twoTo, cast_tenTo, zpow_eq_div (b := 2) (by norm_num),
    zpow_eq_div (b := 10) (by norm_num)]
  field_simp

theorem cast_le_iff_of_unit {unit : Nat} (step : 0 < unit) {m n : Nat} {a b : ℚ}
    (left : (m : ℚ) = 4 * a * unit) (right : (n : ℚ) = 4 * b * unit) : m ≤ n ↔ a ≤ b := by
  have pos : (0 : ℚ) < unit := by exact_mod_cast step
  rw [← Nat.cast_le (α := ℚ), left, right, mul_le_mul_iff_of_pos_right pos,
    mul_le_mul_iff_of_pos_left (by norm_num)]

theorem covers_of_readsBack (positive : x.significand ≠ 0) {scale : ℤ} {point : Nat}
    (reads : x.readsBack scale point = true) : x.Covers (point * 10 ^ scale) := by
  have step := x.grid_unit_pos scale
  have num : (x.grid scale).num = x.significand * (x.grid scale).unit := rfl
  have whole := grid_unit_le_num positive scale
  have place := x.grid_eq scale point
  unfold readsBack at reads
  unfold Covers reach
  generalize x.grid scale = g at *
  generalize (point * 10 ^ scale / 2 ^ x.exponent : ℚ) = s at *
  have here : ((4 * point * g.den : Nat) : ℚ) = 4 * s * g.unit := by
    push_cast
    linarith
  have low : ((4 * g.num - (if x.narrowBelow then 1 else 2) * g.unit : Nat) : ℚ) =
      4 * (x.significand - if x.narrowBelow then 1 / 4 else 1 / 2) * g.unit := by
    split
    · rw [Nat.cast_sub (by omega), num]
      push_cast
      ring
    · rw [Nat.cast_sub (by omega), num]
      push_cast
      ring
  have high : ((4 * g.num + 2 * g.unit : Nat) : ℚ) = 4 * (x.significand + 1 / 2) * g.unit := by
    rw [num]
    push_cast
    ring
  have below := cast_le_iff_of_unit step low here
  have above := cast_le_iff_of_unit step here high
  have below' := cast_le_iff_of_unit step here low
  have above' := cast_le_iff_of_unit step high here
  dsimp only at reads
  split at reads
  · next even =>
    rw [Bool.and_eq_true, decide_eq_true_eq, decide_eq_true_eq] at reads
    exact ⟨below.1 reads.1, above.1 reads.2, fun odd => by omega⟩
  · rw [Bool.and_eq_true, decide_eq_true_eq, decide_eq_true_eq] at reads
    have inside := And.intro (not_le.1 fun h => Nat.not_lt.2 (below'.2 h) reads.1)
      (not_le.1 fun h => Nat.not_lt.2 (above'.2 h) reads.2)
    exact ⟨inside.1.le, inside.2.le, fun _ => inside⟩

theorem covers_shortest (positive : x.significand ≠ 0) : x.Covers x.shortest.value := by
  obtain ⟨d, same, rfl | reads⟩ := x.exists_shortest_eq
  · rw [same, Decimal.value_stripped, value_exactDecimal]
    exact x.covers_self
  · rw [same, Decimal.value_stripped]
    exact covers_of_readsBack positive reads

end Interval

/-! ## Reading decimals -/

theorem tenth_lt_least : (10 : ℚ) ^ (-331 : ℤ) < 2 ^ (-1075 : ℤ) := by
  have least := range_lt_tenTo.1
  rw [← Nat.cast_lt (α := ℚ), cast_twoTo, cast_tenTo] at least
  rw [zpow_neg, zpow_neg, zpow_ofNat, zpow_ofNat]
  exact inv_strictAnti₀ (by positivity) least

/-- The range of numbers in powers of ten. -/
theorem Covers.bounds {x : Binary64} (positive : x.significand ≠ 0) {r : ℚ} (h : x.Covers r) :
    (10 : ℚ) ^ (-331 : ℤ) < r ∧ r < 10 ^ (310 : ℤ) := by
  obtain ⟨-, range, limit, -⟩ := x.canonical
  constructor
  · calc (10 : ℚ) ^ (-331 : ℤ) < 2 ^ (-1075 : ℤ) := tenth_lt_least
      _ ≤ 2 ^ (x.exponent - 1) := zpow_le_zpow_right₀ (by norm_num) (by omega)
      _ = 1 / 2 * 2 ^ x.exponent := by rw [zpow_sub_one₀ (by norm_num)]; ring
      _ ≤ r := h.half_le positive
  · calc r < 2 ^ 53 * 2 ^ x.exponent := h.lt_range
      _ ≤ 2 ^ 53 * 2 ^ (971 : ℤ) := by gcongr; norm_num
      _ < 10 ^ (310 : ℤ) := most_lt_ten

/-- A decimal is read as the number whose interval it lies in. -/
theorem ofDecimal?_of_covers {x : Binary64} (positive : x.significand ≠ 0) {digits : Nat}
    {exponent : ℤ} (covers : x.Covers (digits * 10 ^ exponent)) (negative : Bool) :
    ofDecimal? negative digits exponent = some { x with negative } := by
  have some : digits ≠ 0 := by
    rintro rfl
    have := covers.pos positive
    simp at this
  obtain ⟨low, high⟩ := covers.bounds positive
  obtain ⟨first, last⟩ := bounds_of_toDigits some
  have step : (0 : ℚ) < 10 ^ exponent := zpow_pos (by norm_num) exponent
  unfold ofDecimal?
  dsimp only
  generalize ((Nat.toDigits 10 digits).length : ℤ) = count at first last
  have notSmall : ¬ exponent + count < -330 := by
    intro small
    have : (digits : ℚ) * 10 ^ exponent < 10 ^ (-331 : ℤ) := by
      calc (digits : ℚ) * 10 ^ exponent < 10 ^ count * 10 ^ exponent := by gcongr
        _ = 10 ^ (count + exponent) := (zpow_add₀ (by norm_num) _ _).symm
        _ ≤ 10 ^ (-331 : ℤ) := zpow_le_zpow_right₀ (by norm_num) (by omega)
    linarith
  have notLarge : ¬ 310 < exponent + count := by
    intro large
    have : (10 : ℚ) ^ (310 : ℤ) ≤ digits * 10 ^ exponent := by
      calc (10 : ℚ) ^ (310 : ℤ) ≤ 10 ^ (count - 1 + exponent) :=
            zpow_le_zpow_right₀ (by norm_num) (by omega)
        _ = 10 ^ (count - 1) * 10 ^ exponent := zpow_add₀ (by norm_num) _ _
        _ ≤ digits * 10 ^ exponent := by gcongr
    linarith
  rw [if_neg (not_or.2 ⟨some, notSmall⟩), if_neg notLarge]
  have den : tenTo (-exponent).toNat ≠ 0 := Nat.ne_of_gt (Nat.pow_pos (by decide))
  apply ofRatio?_of_covers positive den
  rw [Nat.cast_mul, cast_tenTo, cast_tenTo, mul_div_assoc, ← zpow_eq_div (by norm_num)]
  exact covers

/-! ## Reading texts -/

open Json

theorem natOf_append (xs ys : List Char) :
    natOf (xs ++ ys) = natOf xs * 10 ^ ys.length + natOf ys := by
  have rest : Nat.ofDigitChars 10 ys (natOf xs) = _ := Nat.ofDigitChars_eq_ofDigitChars_zero
  rw [mul_comm]
  exact (Nat.ofDigitChars_append 0).trans rest

theorem natOf_zeros (n : Nat) : natOf (zeros n).toList = 0 := by
  rw [zeros, String.toList_ofList]
  exact Nat.ofDigitChars_replicate_zero

theorem length_zeros (n : Nat) : (zeros n).toList.length = n := by
  simp [zeros]

theorem natOf_toDigits (n : Nat) : natOf (Nat.toDigits 10 n) = n :=
  Nat.ofDigitChars_ten_toDigits

/-- What follows the whole digits. -/
def fractionText (fraction mark : List Char) : List Char :=
  (if fraction = [] then [] else '.' :: fraction) ++ mark

/-- What a text without a sign says: whole digits, perhaps a point and more of them, and perhaps an
exponent. A point or an exponent is there. -/
inductive Spells : List Char → Nat → ℤ → Prop
  | mk {whole fraction mark : List Char} {exponent : ℤ} :
      whole ≠ [] → Digits whole → Digits fraction → IsPower mark exponent →
      fraction ≠ [] ∨ mark ≠ [] →
      Spells (whole ++ fractionText fraction mark) (natOf (whole ++ fraction))
        (exponent - fraction.length)

theorem isSign_minus (negative : Bool) : IsSign (if negative then ['-'] else []) negative := by
  cases negative with
  | true => exact .minus
  | false => exact .none

theorem signOf_signed (negative : Bool) {c : Char} (digit : c.isDigit = true) (cs : List Char) :
    signOf ((if negative then ['-'] else []) ++ c :: cs) = (negative, c :: cs) := by
  apply (isSign_minus negative).signOf_eq
  rintro _ ⟨⟩
  exact unsigned_of_digits (List.forall_mem_singleton.2 digit) c rfl

section Spells
variable {unsigned : List Char} {n : Nat} {e : ℤ}

theorem Spells.signOf_eq (h : Spells unsigned n e) (negative : Bool) :
    signOf ((if negative then ['-'] else []) ++ unsigned) = (negative, unsigned) := by
  cases h with
  | mk some all _ _ _ =>
    obtain ⟨c, cs, rfl⟩ := List.exists_cons_of_ne_nil some
    exact signOf_signed negative (all c (.head cs)) _

/-- A point or a mark is no digit. -/
theorem Spells.not_digits (h : Spells unsigned n e) : unsigned.all Char.isDigit = false := by
  cases h with
  | @mk whole fraction mark exponent _ _ _ ends either =>
    suffices ∃ c ∈ fractionText fraction mark, c.isDigit = false by
      obtain ⟨c, inside, other⟩ := this
      exact List.all_eq_false.2 ⟨c, List.mem_append_right whole inside, by simp [other]⟩
    unfold fractionText
    by_cases none : fraction = []
    · obtain ⟨c, cs, rfl⟩ :=
        List.exists_cons_of_ne_nil (either.resolve_left (not_not.2 none))
      exact ⟨c, List.mem_append_right _ (.head cs), ends.stops c rfl⟩
    · rw [if_neg none]
      exact ⟨'.', .head _, rfl⟩

theorem Spells.isDecimal (h : Spells unsigned n e) (negative : Bool) :
    IsDecimal ((if negative then ['-'] else []) ++ unsigned) negative n e := by
  cases h with
  | @mk whole fraction mark exponent some all all' ends _ =>
    have shape : IsFraction (if fraction = [] then [] else '.' :: fraction) fraction := by
      split
      · next none => exact none ▸ .none
      · exact .point all'
    exact .mk (isSign_minus negative) all shape
      (List.append_ne_nil_of_left_ne_nil some fraction) ends

/-- A text is read as the decimal that it spells. -/
theorem Spells.ofText?_eq {text : String} {negative : Bool} (h : Spells unsigned n e)
    (written : text.toList = (if negative then ['-'] else []) ++ unsigned) :
    ofText? text = ofDecimal? negative n e := by
  have bare : text.toList =
      [] ++ (((if negative then ['-'] else []) ++ unsigned) ++ []) := by
    rw [written, List.nil_append, List.append_nil]
  exact ofText?_of_isDecimal bare nofun nofun (h.isDecimal negative)

end Spells

/-! ## The three ways to lay out digits -/

theorem isPower_lead (lead : ℤ) :
    IsPower ("e" ++ (if lead < 0 then "-" else "+") ++ toString lead.natAbs).toList lead := by
  have written : (toString lead.natAbs).toList = Nat.toDigits 10 lead.natAbs := Nat.toList_repr
  have digits := digits_toDigits lead.natAbs
  have some := toDigits_ne_nil lead.natAbs
  rw [String.toList_append, String.toList_append, written]
  by_cases below : lead < 0
  · have power := IsPower.some (.inl rfl) .minus some digits
    rw [Nat.ofDigitChars_ten_toDigits, if_pos rfl] at power
    have value : -(lead.natAbs : ℤ) = lead := by omega
    rw [value] at power
    rw [if_pos below]
    exact power
  · have power := IsPower.some (.inl rfl) .plus some digits
    rw [Nat.ofDigitChars_ten_toDigits, if_neg Bool.false_ne_true] at power
    have value : (lead.natAbs : ℤ) = lead := by omega
    rw [value] at power
    rw [if_neg below]
    exact power

section LayOut
variable {d : Char} {ds : List Char} {lead : ℤ}

theorem spells_below (all : Digits (d :: ds)) (below : -5 ≤ lead ∧ lead < 0) :
    ∃ n e, Spells (layOut (d :: ds) lead).toList n e ∧
      (n * 10 ^ e : ℚ) = natOf (d :: ds) * 10 ^ (lead - ds.length) := by
  let fraction := (zeros (-lead - 1).toNat).toList ++ d :: ds
  have some : fraction ≠ [] := List.append_ne_nil_of_right_ne_nil _ (List.cons_ne_nil _ _)
  have shape : (layOut (d :: ds) lead).toList = ['0'] ++ fractionText fraction [] := by
    rw [toList_layOut_below _ below, fractionText, if_neg some]
  rw [shape]
  refine ⟨_, _, .mk (List.cons_ne_nil _ _) digits_zero ((digits_zeros _).append all) .none
    (.inl some), ?_⟩
  have value : natOf (['0'] ++ fraction) = natOf (d :: ds) := by
    have zero : natOf ['0'] = 0 := rfl
    rw [natOf_append, natOf_append, natOf_zeros, zero, zero_mul, zero_mul, zero_add, zero_add]
  have length : (0 : ℤ) - fraction.length = lead - ds.length := by
    rw [List.length_append, length_zeros, List.length_cons]
    omega
  rw [value, length]

theorem spells_among (all : Digits (d :: ds)) (among : 0 ≤ lead ∧ lead < 16) :
    ∃ n e, Spells (layOut (d :: ds) lead).toList n e ∧
      (n * 10 ^ e : ℚ) = natOf (d :: ds) * 10 ^ (lead - ds.length) := by
  obtain ⟨k, leads⟩ := Int.eq_ofNat_of_zero_le among.1
  have shape : (layOut (d :: ds) lead).toList =
      (d :: ds.take k ++ (zeros (k - ds.length)).toList) ++
        fractionText (fractionDigits k ds) [] := by
    rw [toList_layOut_among leads (by omega), fractionText, if_neg (fractionDigits_ne_nil k ds)]
  rw [shape]
  refine ⟨_, _, .mk (List.cons_ne_nil _ _) (digits_beforePoint all k) (digits_fractionDigits all k)
    .none (.inl (fractionDigits_ne_nil k ds)), ?_⟩
  rw [leads]
  unfold fractionDigits
  split
  · next last =>
    -- zeros fill up to the point, and one more follows it
    have short : ds.length ≤ k := List.drop_eq_nil_iff.1 last
    have value : natOf (d :: ds.take k ++ (zeros (k - ds.length)).toList ++ ['0']) =
        natOf (d :: ds) * 10 ^ (k - ds.length) * 10 := by
      have zero : natOf ['0'] = 0 := rfl
      rw [List.take_of_length_le short, natOf_append, natOf_append, natOf_zeros, length_zeros, zero,
        add_zero, add_zero, List.length_singleton, pow_one]
    have power : (10 : ℚ) ^ (k - ds.length : ℤ) = 10 ^ (k - ds.length) := by
      rw [← Nat.cast_sub short, zpow_natCast]
    rw [value, power]
    push_cast
    norm_num
    ring
  · next more =>
    have long : k ≤ ds.length := by
      by_contra short
      exact more (List.drop_eq_nil_iff.2 (by omega))
    have none : zeros (k - ds.length) = "" := by
      rw [Nat.sub_eq_zero_of_le long]
      rfl
    have value : d :: ds.take k ++ (zeros (k - ds.length)).toList ++ ds.drop k = d :: ds := by
      rw [none, String.toList_empty, List.append_nil, List.cons_append, List.take_append_drop]
    have length : (0 : ℤ) - (ds.drop k).length = k - ds.length := by
      rw [List.length_drop]
      omega
    rw [value, length]

theorem spells_beyond (all : Digits (d :: ds)) (low : ¬(-5 ≤ lead ∧ lead < 0))
    (high : ¬(0 ≤ lead ∧ lead < 16)) :
    ∃ n e, Spells (layOut (d :: ds) lead).toList n e ∧
      (n * 10 ^ e : ℚ) = natOf (d :: ds) * 10 ^ (lead - ds.length) := by
  have first : Digits [d] := fun c inside => all c (List.mem_of_mem_take (i := 1) inside)
  rw [toList_layOut_beyond low high]
  refine ⟨_, _, .mk (List.cons_ne_nil _ _) first (fun c inside => all c (.tail d inside))
    (isPower_lead lead) (.inr ?_), rfl⟩
  rw [String.toList_append, String.toList_append]
  exact List.cons_ne_nil _ _

theorem spells_layOut (all : Digits (d :: ds)) (lead : ℤ) :
    ∃ n e, Spells (layOut (d :: ds) lead).toList n e ∧
      (n * 10 ^ e : ℚ) = natOf (d :: ds) * 10 ^ (lead - ds.length) := by
  by_cases below : -5 ≤ lead ∧ lead < 0
  · exact spells_below all below
  · by_cases among : 0 ≤ lead ∧ lead < 16
    · exact spells_among all among
    · exact spells_beyond all below among

end LayOut

/-! ## Texts of numbers -/

theorem eq_zero_of_isZero {x : Binary64} (h : x.isZero = true) : x = zero x.negative := by
  obtain ⟨negative, m, e, canonical⟩ := x
  obtain rfl : m = 0 := by simpa [isZero] using h
  have least : e = -1074 := canonical.2.2.2.resolve_left (by decide)
  subst least
  rfl

/-- The text of a number spells a decimal that is rounded to the number. -/
theorem spells_text (x : Binary64) : ∃ unsigned n e,
    x.text.toList = (if x.negative then ['-'] else []) ++ unsigned ∧ Spells unsigned n e ∧
      ofDecimal? x.negative n e = some x := by
  unfold text
  cases empty : x.isZero with
  | true =>
    refine ⟨['0'] ++ fractionText ['0'] [], _, _, ?_, .mk (List.cons_ne_nil _ _) digits_zero
      digits_zero .none (.inl (List.cons_ne_nil _ _)), ?_⟩
    · cases x.negative <;> simp [fractionText]
    · have read : ofDecimal? x.negative 0 (0 - (['0'] : List Char).length) =
          some (zero x.negative) := rfl
      rw [← eq_zero_of_isZero empty] at read
      exact read
  | false =>
    have positive : x.significand ≠ 0 := by simpa [isZero] using empty
    obtain ⟨d, ds, digits⟩ := List.exists_cons_of_ne_nil (toDigits_ne_nil x.shortest.digits)
    have all : Digits (d :: ds) := digits ▸ digits_toDigits x.shortest.digits
    obtain ⟨n, e, spells, value⟩ := spells_layOut all (x.shortest.exponent + (d :: ds).length - 1)
    refine ⟨_, n, e, ?_, spells, ?_⟩
    · dsimp only
      rw [digits]
      cases x.negative <;> simp
    · have same : (n * 10 ^ e : ℚ) = x.shortest.value := by
        have exponent : x.shortest.exponent + (d :: ds).length - 1 - ds.length =
            x.shortest.exponent := by
          rw [List.length_cons]
          push_cast
          ring
        rw [value, exponent, ← digits, natOf_toDigits, Decimal.value]
      exact ofDecimal?_of_covers positive (same ▸ covers_shortest positive) x.negative

theorem ofText?_text (x : Binary64) : ofText? x.text = some x := by
  obtain ⟨unsigned, n, e, written, spells, read⟩ := x.spells_text
  rw [spells.ofText?_eq written, read]

end Dashboard.Binary64

namespace Dashboard.Number
open Binary64 Json

/-- The number that a text spells: an integer if it is all digits. -/
def ofText? (text : String) : Option Number :=
  let (negative, unsigned) := signOf text.toList
  if unsigned.all Char.isDigit then
    some (.integer (if negative then -(natOf unsigned : ℤ) else natOf unsigned))
  else (Binary64.ofText? text).map .real

/-- A number is read back from its text. -/
theorem ofText?_text (n : Number) : ofText? n.text = some n := by
  unfold ofText?
  cases n with
  | real x =>
    obtain ⟨unsigned, _, _, written, spells, -⟩ := x.spells_text
    have text : (Number.real x).text = x.text := rfl
    rw [text, written, spells.signOf_eq]
    dsimp only
    rw [spells.not_digits, if_neg Bool.false_ne_true, x.ofText?_text, Option.map_some]
  | integer n =>
    have all : (Nat.toDigits 10 n.natAbs).all Char.isDigit = true :=
      List.all_eq_true.2 (digits_toDigits n.natAbs)
    obtain ⟨c, cs, written⟩ := List.exists_cons_of_ne_nil (toDigits_ne_nil n.natAbs)
    have sign := signOf_signed (decide (n < 0)) (digits_toDigits n.natAbs c (written ▸ .head cs)) cs
    rw [← written] at sign
    simp only [decide_eq_true_eq] at sign
    rw [toList_text_integer, sign]
    dsimp only
    rw [all, if_pos rfl, natOf_toDigits]
    by_cases below : n < 0
    · have value : -(n.natAbs : ℤ) = n := by omega
      rw [if_pos (decide_eq_true below), value]
    · have value : (n.natAbs : ℤ) = n := by omega
      rw [if_neg (by simpa using below), value]

theorem text_injective {m n : Number} (same : m.text = n.text) : m = n := by
  have back := m.ofText?_text
  rw [same, n.ofText?_text] at back
  exact (Option.some.inj back).symm

end Dashboard.Number
