import Dashboard.Number.Decimal
import Dashboard.Proofs.Numerals
import Dashboard.Proofs.Rounding
import Mathlib.Data.List.TakeWhile
import Mathlib.Tactic.Ring
/-!
# Decimals

A text spells a decimal number if it is a sign, digits, a point, more digits and a power of ten, in
this order. Only digits on one side of the point have to be there. Each such text is read as the
number nearest to the decimal, and no other text is read. A decimal has a nearest number if it lies
below the limit.
-/
namespace Dashboard.Binary64
open Json

/-! ## The grammar -/

inductive IsSign : List Char → Bool → Prop
  | none : IsSign [] false
  | plus : IsSign ['+'] false
  | minus : IsSign ['-'] true

/-- What stands after the whole digits: nothing, or a point and digits. -/
inductive IsFraction : List Char → List Char → Prop
  | none : IsFraction [] []
  | point {digits : List Char} : Digits digits → IsFraction ('.' :: digits) digits

/-- What stands at the end: nothing, or a mark, a sign and digits. -/
inductive IsPower : List Char → ℤ → Prop
  | none : IsPower [] 0
  | some {mark : Char} {sign digits : List Char} {negative : Bool} :
      mark = 'e' ∨ mark = 'E' → IsSign sign negative → digits ≠ [] → Digits digits →
      IsPower (mark :: (sign ++ digits))
        (if negative then -(Nat.ofDigitChars 10 digits 0 : ℤ) else Nat.ofDigitChars 10 digits 0)

/-- What spells `± digits * 10 ^ exponent`. -/
inductive IsDecimal : List Char → Bool → Nat → ℤ → Prop
  | mk {sign whole point fraction power : List Char} {negative : Bool} {exponent : ℤ} :
      IsSign sign negative → Digits whole → IsFraction point fraction → whole ++ fraction ≠ [] →
      IsPower power exponent →
      IsDecimal (sign ++ (whole ++ (point ++ power))) negative
        (Nat.ofDigitChars 10 (whole ++ fraction) 0) (exponent - fraction.length)

/-! ## Trimming -/

def Blanks (cs : List Char) : Prop :=
  ∀ c ∈ cs, Text.isBlank c = true

/-- Blanks around a text without blanks are trimmed. -/
theorem trim_blanks {before text after : List Char} (blanks : Blanks before)
    (plain : ∀ c ∈ text, Text.isBlank c = false) (blanks' : Blanks after) :
    Text.trim (before ++ (text ++ after)) = text := by
  have last : Blanks after.reverse := fun c inside => blanks' c (List.mem_reverse.1 inside)
  unfold Text.trim
  cases text with
  | nil =>
    have all : Blanks (before ++ after) := fun c inside =>
      (List.mem_append.1 inside).elim (blanks c) (blanks' c)
    rw [List.nil_append, List.dropWhile_eq_nil_iff.2 all]
    rfl
  | cons c cs =>
    have first : ∀ d ∈ (c :: cs ++ after).head?, Text.isBlank d = false := by
      rintro d ⟨⟩
      exact plain c (.head cs)
    have ends : ∀ d ∈ (c :: cs).reverse.head?, Text.isBlank d = false := fun d here =>
      plain d (List.mem_reverse.1 (List.mem_of_mem_head? here))
    rw [dropWhile_stop blanks first, List.reverse_append, dropWhile_stop last ends,
      List.reverse_reverse]

theorem exists_trim (cs : List Char) :
    ∃ before after, cs = before ++ (Text.trim cs ++ after) ∧ Blanks before ∧ Blanks after := by
  have blanks (ds : List Char) : Blanks (ds.takeWhile Text.isBlank) := fun _ inside =>
    List.mem_takeWhile_imp inside
  let rest := (cs.dropWhile Text.isBlank).reverse
  refine ⟨cs.takeWhile Text.isBlank, (rest.takeWhile Text.isBlank).reverse, ?_, blanks cs,
    fun c inside => blanks rest c (List.mem_reverse.1 inside)⟩
  have split : Text.trim cs ++ (rest.takeWhile Text.isBlank).reverse =
      cs.dropWhile Text.isBlank := by
    rw [Text.trim, ← List.reverse_append, List.takeWhile_append_dropWhile, List.reverse_reverse]
  rw [split, List.takeWhile_append_dropWhile]

/-! ## Parts of a decimal -/

/-- No digit stands first. -/
def Stops (cs : List Char) : Prop :=
  ∀ c ∈ cs.head?, c.isDigit = false

theorem IsSign.signOf_eq {sign : List Char} {negative : Bool} (h : IsSign sign negative)
    {rest : List Char} (unsigned : ∀ c ∈ rest.head?, c ≠ '+' ∧ c ≠ '-') :
    signOf (sign ++ rest) = (negative, rest) := by
  cases h with
  | plus => rfl
  | minus => rfl
  | none =>
    cases rest with
    | nil => rfl
    | cons c rest =>
      obtain ⟨noPlus, noMinus⟩ := unsigned c rfl
      simp only [List.nil_append, signOf]
      split <;> simp_all

theorem exists_sign (cs : List Char) :
    ∃ sign, cs = sign ++ (signOf cs).2 ∧ IsSign sign (signOf cs).1 := by
  unfold signOf
  split
  · exact ⟨['-'], rfl, .minus⟩
  · exact ⟨['+'], rfl, .plus⟩
  · exact ⟨[], rfl, .none⟩

theorem IsFraction.fractionOf_eq {point fraction rest : List Char} (h : IsFraction point fraction)
    (stop : Stops rest) (noPoint : ∀ c ∈ rest.head?, c ≠ '.') :
    fractionOf (point ++ rest) = (fraction, rest) := by
  cases h with
  | none =>
    cases rest with
    | nil => rfl
    | cons c rest =>
      have other := noPoint c rfl
      simp only [List.nil_append, fractionOf]
      split <;> simp_all
  | point all =>
    show (List.takeWhile _ (fraction ++ rest), List.dropWhile _ (fraction ++ rest)) = _
    rw [takeWhile_stop all stop, dropWhile_stop all stop]

theorem digits_takeWhile (cs : List Char) : Digits (cs.takeWhile Char.isDigit) :=
  fun _ inside => List.mem_takeWhile_imp inside

theorem exists_fraction (cs : List Char) :
    ∃ point, cs = point ++ (fractionOf cs).2 ∧ IsFraction point (fractionOf cs).1 := by
  unfold fractionOf
  split
  · next rest =>
    refine ⟨'.' :: rest.takeWhile Char.isDigit, ?_, .point (digits_takeWhile rest)⟩
    rw [List.cons_append, List.takeWhile_append_dropWhile]
  · exact ⟨[], rfl, .none⟩

theorem unsigned_of_digits {digits : List Char} (all : Digits digits) :
    ∀ c ∈ digits.head?, c ≠ '+' ∧ c ≠ '-' := by
  intro c here
  have digit := all c (List.mem_of_mem_head? here)
  constructor <;> rintro rfl <;> exact absurd digit (by decide)

/-- The end of a text is read exactly if it is a power. -/
theorem exponentOf?_eq_some {cs : List Char} {exponent : ℤ} :
    exponentOf? cs = some exponent ↔ IsPower cs exponent := by
  constructor
  · intro read
    cases cs with
    | nil =>
      obtain rfl := Option.some.inj read
      exact .none
    | cons mark rest =>
      obtain ⟨sign, written, signed⟩ := exists_sign rest
      simp only [exponentOf?] at read
      generalize signOf rest = parts at written signed read
      obtain ⟨negative, digits⟩ := parts
      subst written
      split at read
      · next fits =>
        obtain rfl := Option.some.inj read
        exact .some fits.1 signed fits.2.1 (List.all_eq_true.1 fits.2.2)
      · cases read
  · intro shape
    cases shape with
    | none => rfl
    | @some mark sign digits negative marked signed some all =>
      have split := signed.signOf_eq (unsigned_of_digits all)
      simp only [exponentOf?, split]
      exact if_pos ⟨marked, some, List.all_eq_true.2 all⟩

theorem IsPower.stops {cs : List Char} {exponent : ℤ} (h : IsPower cs exponent) : Stops cs := by
  cases h with
  | none => nofun
  | some marked _ _ _ =>
    rintro c ⟨⟩
    obtain rfl | rfl := marked <;> rfl

theorem IsPower.noPoint {cs : List Char} {exponent : ℤ} (h : IsPower cs exponent) :
    ∀ c ∈ cs.head?, c ≠ '.' := by
  cases h with
  | none => nofun
  | some marked _ _ _ =>
    rintro c ⟨⟩
    obtain rfl | rfl := marked <;> decide

theorem IsFraction.stops {point fraction rest : List Char} (h : IsFraction point fraction)
    (stop : Stops rest) : Stops (point ++ rest) := by
  cases h with
  | none => exact stop
  | point _ =>
    rintro c ⟨⟩
    rfl

/-- What a decimal starts with behind its sign. -/
theorem IsFraction.unsigned {whole point fraction rest : List Char} (all : Digits whole)
    (h : IsFraction point fraction) (some : whole ++ fraction ≠ []) :
    ∀ c ∈ (whole ++ (point ++ rest)).head?, c ≠ '+' ∧ c ≠ '-' := by
  cases whole with
  | cons d ds =>
    rintro c ⟨⟩
    exact unsigned_of_digits all _ rfl
  | nil =>
    cases h with
    | none => exact absurd rfl some
    | point _ =>
      rintro c ⟨⟩
      decide

/-- The characters of decimals. -/
def isDecimalChar (c : Char) : Bool :=
  c.isDigit || c == '+' || c == '-' || c == '.' || c == 'e' || c == 'E'

theorem not_isBlank_of_isDecimalChar {c : Char} (part : isDecimalChar c = true) :
    Text.isBlank c = false := by
  simp only [isDecimalChar, Bool.or_eq_true, beq_iff_eq] at part
  obtain ((((digit | rfl) | rfl) | rfl) | rfl) | rfl := part
  · have low : 48 ≤ c.toNat ∧ c.toNat ≤ 57 := by
      simpa [Char.isDigit, UInt32.le_iff_toNat_le] using digit
    simp only [Text.isBlank, Bool.or_eq_false_iff, Bool.and_eq_false_iff, decide_eq_false_iff_not]
    omega
  all_goals rfl

theorem IsDecimal.plain {text : List Char} {negative : Bool} {n : Nat} {e : ℤ}
    (h : IsDecimal text negative n e) : ∀ c ∈ text, Text.isBlank c = false := by
  have digits {cs : List Char} (all : Digits cs) : ∀ c ∈ cs, isDecimalChar c = true := by
    intro c here
    simp [isDecimalChar, all c here]
  have signs {cs : List Char} {negative : Bool} (h : IsSign cs negative) :
      ∀ c ∈ cs, isDecimalChar c = true := by
    intro c here
    cases h <;> simp_all [isDecimalChar]
  cases h with
  | @mk sign whole point fraction power negative exponent signed all shape some ends =>
    intro c here
    refine not_isBlank_of_isDecimalChar ?_
    simp only [List.mem_append] at here
    obtain here | here | here | here := here
    · exact signs signed c here
    · exact digits all c here
    · cases shape with
      | none => cases here
      | point all' =>
        obtain rfl | here := List.mem_cons.1 here
        · rfl
        · exact digits all' c here
    · cases ends with
      | none => cases here
      | some marked signed' _ all' =>
        obtain rfl | here := List.mem_cons.1 here
        · obtain rfl | rfl := marked <;> rfl
        · exact (List.mem_append.1 here).elim (signs signed' c) (digits all' c)

/-! ## Reading texts -/

/-- A decimal is read, whatever blanks are around it. -/
theorem ofText?_of_isDecimal {text : String} {before spelled after : List Char} {negative : Bool}
    {n : Nat} {e : ℤ} (written : text.toList = before ++ (spelled ++ after))
    (blanks : Blanks before) (blanks' : Blanks after) (h : IsDecimal spelled negative n e) :
    ofText? text = ofDecimal? negative n e := by
  have plain := h.plain
  unfold ofText?
  rw [written, trim_blanks blanks plain blanks']
  cases h with
  | mk signed all shape some ends =>
    have stop := shape.stops ends.stops
    rw [signed.signOf_eq (shape.unsigned all some)]
    dsimp only
    rw [takeWhile_stop all stop, dropWhile_stop all stop,
      shape.fractionOf_eq ends.stops ends.noPoint]
    dsimp only
    rw [if_neg fun none => some (List.append_eq_nil_iff.2 none), exponentOf?_eq_some.2 ends]
    rfl

/-- What is read is a decimal with blanks around it. -/
theorem exists_isDecimal_of_ofText? {text : String} {x : Binary64}
    (read : ofText? text = some x) : ∃ before spelled after negative n e,
      text.toList = before ++ (spelled ++ after) ∧ Blanks before ∧ Blanks after ∧
        IsDecimal spelled negative n e ∧ ofDecimal? negative n e = some x := by
  obtain ⟨before, after, written, blanks, blanks'⟩ := exists_trim text.toList
  unfold ofText? at read
  generalize Text.trim text.toList = spelled at written read
  obtain ⟨sign, split, signed⟩ := exists_sign spelled
  generalize signOf spelled = parts at split signed read
  obtain ⟨negative, unsigned⟩ := parts
  dsimp only at read split signed
  have all := digits_takeWhile unsigned
  have parts := List.takeWhile_append_dropWhile (p := Char.isDigit) (l := unsigned)
  generalize unsigned.takeWhile Char.isDigit = whole at all parts read
  generalize unsigned.dropWhile Char.isDigit = rest at parts read
  obtain ⟨point, split', shape⟩ := exists_fraction rest
  generalize fractionOf rest = parts' at split' shape read
  obtain ⟨fraction, power⟩ := parts'
  dsimp only at read split' shape
  subst split split' parts
  split at read
  · cases read
  · next some =>
    obtain ⟨exponent, ends, done⟩ := Option.bind_eq_some_iff.1 read
    exact ⟨before, _, after, negative, _, _, written, blanks, blanks',
      .mk signed all shape (fun none => some (List.append_eq_nil_iff.1 none))
        (exponentOf?_eq_some.1 ends), done⟩

/-! ## The range of decimals -/

theorem range_lt_tenTo : twoTo 1075 < tenTo 331 ∧ twoTo 53 * twoTo 971 < tenTo 310 := by
  decide +kernel

theorem most_lt_ten : (2 : ℚ) ^ 53 * 2 ^ (971 : ℤ) < 10 ^ (310 : ℤ) := by
  have most := range_lt_tenTo.2
  rw [← Nat.cast_lt (α := ℚ), Nat.cast_mul, cast_twoTo, cast_twoTo, cast_tenTo] at most
  rw [zpow_ofNat, zpow_ofNat]
  exact most

/-- The first digit of a number weighs less than the number. -/
theorem bounds_of_toDigits {n : Nat} (positive : n ≠ 0) :
    (10 : ℚ) ^ ((Nat.toDigits 10 n).length - 1 : ℤ) ≤ n ∧
      (n : ℚ) < 10 ^ ((Nat.toDigits 10 n).length : ℤ) := by
  have some : 0 < (Nat.toDigits 10 n).length := Nat.length_toDigits_pos
  have fits {k : Nat} (pos : 0 < k) := Nat.length_toDigits_le_iff (b := 10) (n := n) (by decide) pos
  generalize (Nat.toDigits 10 n).length = count at some fits
  obtain ⟨k, rfl⟩ := Nat.exists_eq_succ_of_ne_zero some.ne'
  have high : n < 10 ^ (k + 1) := (fits some).1 le_rfl
  have low : 10 ^ k ≤ n := by
    cases k with
    | zero => exact Nat.one_le_iff_ne_zero.2 positive
    | succ k => exact not_lt.1 fun less => by have := (fits (Nat.succ_pos k)).2 less; omega
  have last : ((k.succ : Nat) : ℤ) - 1 = (k : Nat) := by push_cast; ring
  rw [last, zpow_natCast, zpow_natCast]
  exact ⟨by exact_mod_cast low, by exact_mod_cast high⟩

theorem one_le_limit : 1 ≤ limit :=
  (lt_limit (e := 0) (by norm_num) (by norm_num)).le

theorem limit_le_ten : limit ≤ 10 ^ (310 : ℤ) := by
  have step := two_zpow_pos 971
  have most := most_lt_ten
  rw [limit_eq]
  generalize (2 : ℚ) ^ (971 : ℤ) = p at step most
  generalize (10 : ℚ) ^ (310 : ℤ) = q at most
  linarith only [step, most]

/-- The decimals below the limit are read as a number. -/
theorem isSome_ofDecimal? (negative : Bool) (n : Nat) (e : ℤ) :
    (ofDecimal? negative n e).isSome ↔ (n * 10 ^ e : ℚ) < limit := by
  unfold ofDecimal?
  dsimp only
  by_cases none : n = 0
  · rw [if_pos (.inl none)]
    have : (0 : ℚ) < limit := lt_of_lt_of_le (by norm_num) one_le_limit
    simp [none, this]
  · obtain ⟨first, last⟩ := bounds_of_toDigits none
    have step : (0 : ℚ) < 10 ^ e := zpow_pos (by norm_num) e
    generalize ((Nat.toDigits 10 n).length : ℤ) = count at first last
    split
    · next small =>
      have below : (n : ℚ) * 10 ^ e < 1 := by
        calc (n : ℚ) * 10 ^ e < 10 ^ count * 10 ^ e := by gcongr
          _ = 10 ^ (count + e) := (zpow_add₀ (by norm_num) _ _).symm
          _ ≤ 10 ^ (0 : ℤ) := zpow_le_zpow_right₀ (by norm_num) (by omega)
      exact iff_of_true rfl (lt_of_lt_of_le below one_le_limit)
    · split
      · next large =>
        have above : (10 : ℚ) ^ (310 : ℤ) ≤ n * 10 ^ e := by
          calc (10 : ℚ) ^ (310 : ℤ) ≤ 10 ^ (count - 1 + e) :=
                zpow_le_zpow_right₀ (by norm_num) (by omega)
            _ = 10 ^ (count - 1) * 10 ^ e := zpow_add₀ (by norm_num) _ _
            _ ≤ n * 10 ^ e := by gcongr
        exact iff_of_false nofun (not_lt.2 (limit_le_ten.trans above))
      · have den : tenTo (-e).toNat ≠ 0 := Nat.ne_of_gt (Nat.pow_pos (by decide))
        rw [isSome_ofRatio? den, Nat.cast_mul, cast_tenTo, cast_tenTo, mul_div_assoc,
          ← zpow_eq_div (by norm_num)]

end Dashboard.Binary64
