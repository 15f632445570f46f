import Dashboard.Json.Printer
import Dashboard.Json.Reader
/-!
# Numerals

The text of a number is a numeral: digits, perhaps a point with digits, perhaps an exponent. A
numeral ends where no character can continue it. So what a reader makes of it does not depend on
what follows.
-/
namespace Dashboard.Json
variable {α β : Type}

/-! ## What readers find -/

/-- A reader has found a value and left the rest, or has failed if there is nothing to find. -/
def Yields (found : Option α) (rest : List Char) (reads : Reads α) : Prop :=
  match found with
  | some a => reads = .ok (a, rest)
  | none => ∃ e, reads = .error e

theorem yields_ok (a : α) (rest : List Char) : Yields (some a) rest (.ok (a, rest)) := rfl

theorem yields_error (e : Stop) (rest : List Char) : Yields (none : Option α) rest (.error e) :=
  ⟨e, rfl⟩

theorem Yields.map {found : Option α} {rest : List Char} {reads : Reads α}
    (h : Yields found rest reads) (f : α → β) :
    Yields (found.map f) rest (reads.map fun (a, rest) => (f a, rest)) := by
  cases found with
  | some a =>
    obtain rfl : reads = .ok (a, rest) := h
    rfl
  | none =>
    obtain ⟨e, rfl⟩ := h
    exact yields_error e rest

/-- Whether a character can continue a numeral. -/
def continuesNumeral (c : Char) : Bool :=
  c.isDigit || c == '.' || c == 'e' || c == 'E'

/-- A text that does not continue a numeral. -/
def Delimited (rest : List Char) : Prop :=
  ∀ c ∈ rest.head?, continuesNumeral c = false

theorem delimited_nil : Delimited [] := nofun

theorem delimited_cons {c : Char} (other : continuesNumeral c = false) (rest : List Char) :
    Delimited (c :: rest) := by
  intro first here
  obtain rfl := Option.some.inj here
  exact other

/-- What a reader finds in a text, whatever follows. -/
def Finds (reader : List Char → Reads α) (text : List Char) (found : Option α) : Prop :=
  ∀ rest, Delimited rest → Yields found rest (reader (text ++ rest))

theorem Delimited.notDigit {rest : List Char} (h : Delimited rest) :
    ∀ c ∈ rest.head?, c.isDigit = false := by
  intro c here
  have other := h c here
  simp only [continuesNumeral, Bool.or_eq_false_iff] at other
  exact other.1.1.1

theorem Delimited.noMark {c : Char} {rest : List Char} (h : Delimited (c :: rest)) :
    c ≠ '.' ∧ c ≠ 'e' ∧ c ≠ 'E' := by
  have other := h c rfl
  refine ⟨?_, ?_, ?_⟩ <;> rintro rfl <;> exact absurd other (by decide)

/-! ## Digits -/

def Digits (cs : List Char) : Prop :=
  ∀ c ∈ cs, c.isDigit = true

theorem Digits.append {cs ds : List Char} (h : Digits cs) (k : Digits ds) : Digits (cs ++ ds) :=
  fun c inside => (List.mem_append.mp inside).elim (h c) (k c)

theorem digits_zero : Digits ['0'] :=
  List.forall_mem_singleton.mpr rfl

theorem takeWhile_stop {p : Char → Bool} {cs rest : List Char} (all : ∀ c ∈ cs, p c = true)
    (stop : ∀ c ∈ rest.head?, p c = false) : (cs ++ rest).takeWhile p = cs := by
  rw [List.takeWhile_append_of_pos all]
  cases rest with
  | nil => rw [List.takeWhile_nil, List.append_nil]
  | cons c rest => rw [List.takeWhile_cons, stop c rfl]; exact List.append_nil cs

theorem dropWhile_stop {p : Char → Bool} {cs rest : List Char} (all : ∀ c ∈ cs, p c = true)
    (stop : ∀ c ∈ rest.head?, p c = false) : (cs ++ rest).dropWhile p = rest := by
  rw [List.dropWhile_append_of_pos all]
  cases rest with
  | nil => rfl
  | cons c rest => rw [List.dropWhile_cons, stop c rfl]; rfl

/-! ## Numerals -/

/-- What ends a numeral: nothing, or a mark, a sign and digits. -/
inductive IsExponent : List Char → Prop
  | none : IsExponent []
  | some {sign : Char} {digits : List Char} :
      sign = '+' ∨ sign = '-' → digits ≠ [] → Digits digits → IsExponent ('e' :: sign :: digits)

/-- What follows the first digits: perhaps a point with digits, and an exponent. -/
inductive IsTail : List Char → Prop
  | exponent {text : List Char} : IsExponent text → IsTail text
  | point {digits text : List Char} :
      digits ≠ [] → Digits digits → IsExponent text → IsTail ('.' :: digits ++ text)

/-- Digits without superfluous zeros before them, and a tail. -/
inductive IsNumeral : List Char → Prop
  | mk {whole tail : List Char} :
      whole ≠ [] → Digits whole → (∀ digits, whole = '0' :: digits → digits = []) →
      IsTail tail → IsNumeral (whole ++ tail)

theorem IsNumeral.exists_digit {text : List Char} (shape : IsNumeral text) :
    ∃ c cs, text = c :: cs ∧ c.isDigit = true := by
  cases shape with
  | @mk whole tail some all _ _ =>
    obtain ⟨c, cs, rfl⟩ := List.exists_cons_of_ne_nil some
    exact ⟨c, cs ++ tail, rfl, all c (.head cs)⟩

theorem finish_yields (negative : Bool) (significand : Nat) (exponent : Int) :
    ∃ found, ∀ rest, Yields found rest (finish negative significand exponent rest) := by
  unfold finish
  cases (Binary64.ofRatio? false significand 1).bind (scale? · exponent) with
  | some x => exact ⟨_, fun rest => yields_ok _ rest⟩
  | none => exact ⟨none, fun rest => yields_error _ rest⟩

section Finding
variable (negative : Bool) (significand : Nat)

theorem readExponent_signed (start : Int) {sign : Char} {digits rest : List Char}
    (signed : sign = '+' ∨ sign = '-') (some : digits ≠ []) (all : Digits digits)
    (ends : Delimited rest) :
    readExponent negative significand start (sign :: digits ++ rest) =
      match collect (twoTo 31) 0 digits with
      | (exponent, []) =>
        finish negative significand
          (if sign = '-' then start - exponent else start + exponent) rest
      | (_, _ :: leftOver) =>
        if significand ≠ 0 ∧ sign = '+' then .error (.here .numberOutOfRange (leftOver ++ rest))
        else .ok (.real (.zero negative), rest) := by
  have taken := takeWhile_stop all ends.notDigit
  have left := dropWhile_stop all ends.notDigit
  rcases collected : collect (twoTo 31) 0 digits with ⟨exponent, _ | ⟨d, leftOver⟩⟩
  all_goals obtain rfl | rfl := signed
  all_goals simp [readExponent, taken, left, some, collected]

theorem readExponent_finds (start : Int) {sign : Char} {digits : List Char}
    (signed : sign = '+' ∨ sign = '-') (some : digits ≠ []) (all : Digits digits) :
    ∃ found, Finds (readExponent negative significand start) (sign :: digits) found := by
  have run {rest : List Char} (ends : Delimited rest) :=
    readExponent_signed negative significand start signed some all ends
  rcases collected : collect (twoTo 31) 0 digits with ⟨exponent, _ | ⟨d, leftOver⟩⟩
  · obtain ⟨found, finds⟩ := finish_yields negative significand
      (if sign = '-' then start - exponent else start + exponent)
    refine ⟨found, fun rest ends => ?_⟩
    rw [run ends, collected]
    exact finds rest
  · by_cases large : significand ≠ 0 ∧ sign = '+'
    · refine ⟨none, fun rest ends => ?_⟩
      rw [run ends, collected]
      simpa only [if_pos large] using yields_error _ rest
    · refine ⟨Option.some (.real (.zero negative)), fun rest ends => ?_⟩
      rw [run ends, collected]
      simpa only [if_neg large] using yields_ok _ rest

theorem readEnd_delimited (start : Int) {rest : List Char} (ends : Delimited rest) :
    readEnd negative significand start rest = finish negative significand start rest := by
  cases rest with
  | nil => rfl
  | cons c rest =>
    obtain ⟨-, noMark, noMark'⟩ := ends.noMark
    unfold readEnd
    split
    · next same => exact absurd (List.cons.inj same).1 noMark
    · next same => exact absurd (List.cons.inj same).1 noMark'
    · rfl

theorem readEnd_finds (start : Int) {text : List Char} (shape : IsExponent text) :
    ∃ found, Finds (readEnd negative significand start) text found := by
  cases shape with
  | none =>
    obtain ⟨found, finds⟩ := finish_yields negative significand start
    refine ⟨found, fun rest ends => ?_⟩
    rw [List.nil_append, readEnd_delimited negative significand start ends]
    exact finds rest
  | some signed some all => exact readExponent_finds negative significand start signed some all

theorem IsExponent.notDigit {text rest : List Char} (shape : IsExponent text)
    (ends : Delimited rest) : ∀ c ∈ (text ++ rest).head?, c.isDigit = false := by
  cases shape with
  | none => exact ends.notDigit
  | some _ _ _ =>
    intro c here
    obtain rfl := Option.some.inj here
    rfl

theorem readFraction_finds (start : Int) {digits text : List Char} (some : digits ≠ [])
    (all : Digits digits) (shape : IsExponent text) :
    ∃ found, Finds (readFraction negative significand start) (digits ++ text) found := by
  rcases collected : collect (twoTo 64) significand digits with ⟨longer, leftOver⟩
  obtain ⟨found, finds⟩ := readEnd_finds negative longer
    (start - (digits.length - leftOver.length : Nat)) shape
  refine ⟨found, fun rest ends => ?_⟩
  have taken := takeWhile_stop all (shape.notDigit ends)
  have left := dropWhile_stop all (shape.notDigit ends)
  simpa [readFraction, taken, left, some, collected] using finds rest ends

theorem IsTail.notDigit {text rest : List Char} (shape : IsTail text)
    (ends : Delimited rest) : ∀ c ∈ (text ++ rest).head?, c.isDigit = false := by
  cases shape with
  | exponent shape => exact shape.notDigit ends
  | point _ _ _ =>
    intro c here
    obtain rfl := Option.some.inj here
    rfl

/-- How a numeral is read on after its first digits. -/
def readTail (leftOver : List Char) (rest : List Char) : Reads Number :=
  match rest with
  | '.' :: rest => readFraction negative significand leftOver.length rest
  | rest =>
    match rest, leftOver.isEmpty, wordInteger? negative significand with
    | 'e' :: _, _, _ => readEnd negative significand leftOver.length rest
    | 'E' :: _, _, _ => readEnd negative significand leftOver.length rest
    | _, true, some n => .ok (.integer n, rest)
    | _, _, _ => finish negative significand leftOver.length rest

theorem readNumber_whole {whole rest : List Char} (some : whole ≠ []) (all : Digits whole)
    (canonical : ∀ digits, whole = '0' :: digits → digits = [])
    (stop : ∀ c ∈ rest.head?, c.isDigit = false) :
    readNumber negative (whole ++ rest) =
      readTail negative (collect (twoTo 64) 0 whole).1 (collect (twoTo 64) 0 whole).2 rest := by
  have taken := takeWhile_stop all stop
  have left := dropWhile_stop all stop
  unfold readNumber
  rw [taken, left]
  split
  · exact absurd rfl some
  · exact absurd (canonical _ rfl) (List.cons_ne_nil _ _)
  · rfl

/-- How a numeral ends that is all digits. -/
def readWhole (leftOver rest : List Char) : Reads Number :=
  match leftOver.isEmpty, wordInteger? negative significand with
  | true, some n => .ok (.integer n, rest)
  | _, _ => finish negative significand leftOver.length rest

theorem readTail_delimited (leftOver : List Char) {rest : List Char} (ends : Delimited rest) :
    readTail negative significand leftOver rest =
      readWhole negative significand leftOver rest := by
  unfold readTail readWhole
  cases rest with
  | nil => cases leftOver.isEmpty <;> cases wordInteger? negative significand <;> rfl
  | cons c rest =>
    obtain ⟨noPoint, noMark, noMark'⟩ := ends.noMark
    cases leftOver.isEmpty <;> cases wordInteger? negative significand <;>
      simp [noPoint, noMark, noMark']

theorem readWhole_yields (leftOver : List Char) :
    ∃ found, ∀ rest, Yields found rest (readWhole negative significand leftOver rest) := by
  unfold readWhole
  cases leftOver.isEmpty with
  | false => exact finish_yields negative significand leftOver.length
  | true =>
    cases wordInteger? negative significand with
    | none => exact finish_yields negative significand leftOver.length
    | some n => exact ⟨_, fun rest => yields_ok (Number.integer n) rest⟩

theorem readTail_finds (leftOver : List Char) {text : List Char} (shape : IsTail text) :
    ∃ found, Finds (readTail negative significand leftOver) text found := by
  cases shape with
  | point some all shape =>
    exact readFraction_finds negative significand leftOver.length some all shape
  | exponent shape =>
    cases shape with
    | some signed some all =>
      exact readEnd_finds negative significand leftOver.length (.some signed some all)
    | none =>
      obtain ⟨found, finds⟩ := readWhole_yields negative significand leftOver
      refine ⟨found, fun rest ends => ?_⟩
      rw [List.nil_append, readTail_delimited negative significand leftOver ends]
      exact finds rest

end Finding

/-- A numeral is read in full, and what is found does not depend on what follows. -/
theorem readNumber_finds (negative : Bool) {text : List Char} (shape : IsNumeral text) :
    ∃ found, Finds (readNumber negative) text found := by
  cases shape with
  | @mk whole tail some all canonical shape =>
    obtain ⟨found, finds⟩ := readTail_finds negative (collect (twoTo 64) 0 whole).1
      (collect (twoTo 64) 0 whole).2 shape
    refine ⟨found, fun rest ends => ?_⟩
    rw [List.append_assoc, readNumber_whole negative some all canonical (shape.notDigit ends)]
    exact finds rest ends

/-! ## Decimal digits -/

theorem digits_toDigits (n : Nat) : Digits (Nat.toDigits 10 n) :=
  fun _ inside => Nat.isDigit_of_mem_toDigits (by decide) (Nat.le_refl 10) inside

theorem toDigits_ne_nil (n : Nat) : Nat.toDigits 10 n ≠ [] := by
  rw [Nat.toDigits_eq_if (by decide)]
  split
  · exact List.cons_ne_nil _ _
  · exact List.append_ne_nil_of_right_ne_nil _ (List.cons_ne_nil _ _)

theorem eq_zero_of_digitChar : ∀ n < 10, Nat.digitChar n = '0' → n = 0 := by
  decide

/-- No number but zero begins with a zero. -/
theorem eq_zero_of_head_toDigits (n : Nat) (zero : (Nat.toDigits 10 n).head? = some '0') :
    n = 0 := by
  induction n using Nat.strongRecOn with
  | ind n ih =>
    rw [Nat.toDigits_eq_if (by decide)] at zero
    split at zero
    · next small => exact eq_zero_of_digitChar n small (Option.some.inj zero)
    · next large =>
      rw [List.head?_append, List.head?_eq_some_head (toDigits_ne_nil _), Option.some_or,
        ← List.head?_eq_some_head] at zero
      have none := ih (n / 10) (by omega) zero
      omega

theorem canonical_toDigits (n : Nat) :
    ∀ digits, Nat.toDigits 10 n = '0' :: digits → digits = [] := by
  intro digits same
  obtain rfl := eq_zero_of_head_toDigits n (by rw [same]; rfl)
  exact (List.cons.inj same).2.symm

theorem isNumeral_toDigits (n : Nat) : IsNumeral (Nat.toDigits 10 n) := by
  rw [← List.append_nil (Nat.toDigits 10 n)]
  exact .mk (toDigits_ne_nil n) (digits_toDigits n) (canonical_toDigits n) (.exponent .none)

end Dashboard.Json

namespace Dashboard.Binary64
variable {x : Binary64}

/-! ## Shortest decimals -/

theorem grid_unit_pos (x : Binary64) (scale : Int) : 0 < (x.grid scale).unit :=
  Nat.mul_pos (Nat.pow_pos (by decide)) (Nat.pow_pos (by decide))

theorem grid_unit_le_num (positive : x.significand ≠ 0) (scale : Int) :
    (x.grid scale).unit ≤ (x.grid scale).num :=
  Nat.le_mul_of_pos_left _ (Nat.pos_of_ne_zero positive)

theorem readsBack_zero (positive : x.significand ≠ 0) (scale : Int) :
    x.readsBack scale 0 = false := by
  have step := x.grid_unit_pos scale
  have whole := grid_unit_le_num positive scale
  unfold readsBack
  generalize x.grid scale = g at step whole
  have low : 0 < 4 * g.num - (if x.narrowBelow then 1 else 2) * g.unit := by
    split <;> omega
  have place : 4 * 0 * g.den = 0 := by rw [Nat.mul_zero, Nat.zero_mul]
  dsimp only
  rw [place]
  split
  · rw [decide_eq_false (Nat.not_le_of_lt low), Bool.false_and]
  · rw [decide_eq_false (Nat.not_lt_zero _), Bool.false_and]

theorem roundedQuotient_eq_or (num den : Nat) :
    roundedQuotient num den = num / den ∨ roundedQuotient num den = num / den + 1 := by
  unfold roundedQuotient
  dsimp only
  split
  · exact .inr rfl
  · exact .inl rfl

theorem readsBack_of_nearestOnGrid {scale : Int} {point : Nat}
    (found : x.nearestOnGrid? scale = some point) : x.readsBack scale point = true := by
  unfold nearestOnGrid? at found
  dsimp only at found
  split at found
  · next below above =>
    obtain rfl := Option.some.inj found
    obtain same | same := roundedQuotient_eq_or (x.grid scale).num (x.grid scale).den
    · rwa [same]
    · rwa [same]
  · next below _ =>
    obtain rfl := Option.some.inj found
    exact below
  · next _ above =>
    obtain rfl := Option.some.inj found
    exact above
  · cases found

theorem stripped_ne_zero (d : Decimal) (positive : d.digits ≠ 0) : d.stripped.digits ≠ 0 := by
  fun_induction Decimal.stripped d with
  | case1 d more ih =>
    have quotient : d.digits / 10 ≠ 0 := by omega
    exact ih quotient
  | case2 d last => exact positive

theorem exactDecimal_ne_zero (positive : x.significand ≠ 0) : x.exactDecimal.digits ≠ 0 :=
  Nat.mul_ne_zero
    (Nat.mul_ne_zero positive (Nat.ne_of_gt (Nat.pow_pos (by decide))))
    (Nat.ne_of_gt (Nat.pow_pos (by decide)))

/-- The shortest decimal reads back, or it is the exact one, but for zeros at its end. -/
theorem exists_shortest_eq (x : Binary64) : ∃ d : Decimal, x.shortest = d.stripped ∧
    (d = x.exactDecimal ∨ x.readsBack d.exponent d.digits = true) := by
  refine ⟨_, rfl, ?_⟩
  cases found : (List.range 17).findSome? fun n =>
      (x.nearestOnGrid? (x.decimalTop - (n + 1 : Nat))).map
        (Decimal.mk · (x.decimalTop - (n + 1 : Nat))) with
  | none => exact .inl rfl
  | some d =>
    obtain ⟨n, -, here⟩ := List.exists_of_findSome?_eq_some found
    obtain ⟨point, nearest, rfl⟩ := Option.map_eq_some_iff.mp here
    exact .inr (readsBack_of_nearestOnGrid nearest)

theorem shortest_ne_zero (positive : x.significand ≠ 0) : x.shortest.digits ≠ 0 := by
  obtain ⟨d, same, rfl | reads⟩ := x.exists_shortest_eq
  · rw [same]
    exact stripped_ne_zero _ (exactDecimal_ne_zero positive)
  · rw [same]
    apply stripped_ne_zero
    intro zero
    rw [zero, readsBack_zero positive] at reads
    exact Bool.false_ne_true reads

/-! ## Texts of numbers -/

open Json

theorem digits_zeros (n : Nat) : Digits (zeros n).toList := by
  intro c inside
  rw [zeros, String.toList_ofList] at inside
  obtain rfl := List.eq_of_mem_replicate inside
  rfl

theorem isExponent_of_lead (lead : Int) :
    IsExponent ("e" ++ (if lead < 0 then "-" else "+") ++ toString lead.natAbs).toList := by
  have written : (toString lead.natAbs).toList = Nat.toDigits 10 lead.natAbs :=
    Nat.toList_repr
  rw [String.toList_append, String.toList_append, written]
  split
  · exact .some (.inr rfl) (toDigits_ne_nil _) (digits_toDigits _)
  · exact .some (.inl rfl) (toDigits_ne_nil _) (digits_toDigits _)

section LayOut
variable {digits : List Char} {d : Char} {ds : List Char} {lead : Int}

/-- The point stands before the digits. -/
theorem toList_layOut_below (digits : List Char) (below : -5 ≤ lead ∧ lead < 0) :
    (layOut digits lead).toList =
      ['0'] ++ ('.' :: ((zeros (-lead - 1).toNat).toList ++ digits) ++ []) := by
  simp [layOut, below]

theorem isNumeral_layOut_below (some : digits ≠ []) (all : Digits digits)
    (below : -5 ≤ lead ∧ lead < 0) : IsNumeral (layOut digits lead).toList := by
  have fraction : Digits ((zeros (-lead - 1).toNat).toList ++ digits) :=
    (digits_zeros _).append all
  rw [toList_layOut_below digits below]
  exact .mk (List.cons_ne_nil _ _) digits_zero (fun _ same => (List.cons.inj same).2.symm)
    (.point (List.append_ne_nil_of_right_ne_nil _ some) fraction .none)

/-- The digits behind the point, of which there is at least one. -/
def fractionDigits (n : Nat) (ds : List Char) : List Char :=
  if ds.drop n = [] then ['0'] else ds.drop n

/-- The point stands among the digits, or behind them and some zeros. -/
theorem toList_layOut_among {n : Nat} (leads : lead = n) (high : n < 16) :
    (layOut (d :: ds) lead).toList =
      (d :: ds.take n ++ (zeros (n - ds.length)).toList) ++ ('.' :: fractionDigits n ds ++ []) := by
  have notBelow : ¬(-5 ≤ lead ∧ lead < 0) := by omega
  have among : 0 ≤ lead ∧ lead < 16 := by omega
  have first : (lead + 1).toNat = n + 1 := by omega
  have missing : (lead + 1 - (d :: ds).length).toNat = n - ds.length := by
    rw [List.length_cons]
    omega
  unfold layOut fractionDigits
  rw [if_neg notBelow, if_pos among, first, missing]
  by_cases last : ds.drop n = []
  · simp [last]
  · simp [last]

theorem digits_fractionDigits (all : Digits (d :: ds)) (n : Nat) :
    Digits (fractionDigits n ds) := by
  unfold fractionDigits
  split
  · exact digits_zero
  · exact fun c inside => all c (.tail d (List.mem_of_mem_drop inside))

theorem fractionDigits_ne_nil (n : Nat) (ds : List Char) : fractionDigits n ds ≠ [] := by
  unfold fractionDigits
  split
  · exact List.cons_ne_nil _ _
  · assumption

theorem digits_beforePoint (all : Digits (d :: ds)) (n : Nat) :
    Digits (d :: ds.take n ++ (zeros (n - ds.length)).toList) :=
  Digits.append (fun c inside => all c (List.mem_of_mem_take (i := n + 1) inside)) (digits_zeros _)

theorem isNumeral_layOut_among (all : Digits (d :: ds)) (canonical : d ≠ '0')
    (among : 0 ≤ lead ∧ lead < 16) : IsNumeral (layOut (d :: ds) lead).toList := by
  obtain ⟨n, leads⟩ := Int.eq_ofNat_of_zero_le among.1
  rw [toList_layOut_among leads (by omega)]
  exact .mk (List.cons_ne_nil _ _) (digits_beforePoint all n)
    (fun _ same => absurd (List.cons.inj same).1 canonical)
    (.point (fractionDigits_ne_nil n ds) (digits_fractionDigits all n) .none)

/-- The point stands behind the first digit, and an exponent follows. -/
theorem toList_layOut_beyond (low : ¬(-5 ≤ lead ∧ lead < 0)) (high : ¬(0 ≤ lead ∧ lead < 16)) :
    (layOut (d :: ds) lead).toList =
      [d] ++ ((if ds = [] then [] else '.' :: ds) ++
        ("e" ++ (if lead < 0 then "-" else "+") ++ toString lead.natAbs).toList) := by
  unfold layOut
  rw [if_neg low, if_neg high]
  by_cases single : ds = []
  · simp [single]
  · simp [single]

theorem isNumeral_layOut_beyond (all : Digits (d :: ds)) (low : ¬(-5 ≤ lead ∧ lead < 0))
    (high : ¬(0 ≤ lead ∧ lead < 16)) : IsNumeral (layOut (d :: ds) lead).toList := by
  have first : Digits [d] := fun c inside => all c (List.mem_of_mem_take (i := 1) inside)
  have exponent := isExponent_of_lead lead
  rw [toList_layOut_beyond low high]
  refine .mk (List.cons_ne_nil _ _) first (fun _ same => (List.cons.inj same).2.symm) ?_
  split
  · exact .exponent exponent
  · next more => exact .point more (fun c inside => all c (.tail d inside)) exponent

theorem isNumeral_layOut (all : Digits (d :: ds)) (canonical : d ≠ '0') (lead : Int) :
    IsNumeral (layOut (d :: ds) lead).toList := by
  by_cases below : -5 ≤ lead ∧ lead < 0
  · exact isNumeral_layOut_below (List.cons_ne_nil d ds) all below
  · by_cases among : 0 ≤ lead ∧ lead < 16
    · exact isNumeral_layOut_among all canonical among
    · exact isNumeral_layOut_beyond all below among

end LayOut

/-- A number is written as a numeral, after a sign if it is negative. -/
theorem exists_numeral_text (x : Binary64) :
    ∃ numeral, IsNumeral numeral ∧
      x.text.toList = (if x.negative then ['-'] else []) ++ numeral := by
  unfold text
  cases zero : x.isZero with
  | true =>
    refine ⟨['0'] ++ ('.' :: ['0'] ++ []), ?_, ?_⟩
    · exact .mk (List.cons_ne_nil _ _) digits_zero (fun _ same => (List.cons.inj same).2.symm)
        (.point (List.cons_ne_nil _ _) digits_zero .none)
    · cases x.negative <;> simp
  | false =>
    have positive : x.significand ≠ 0 := by simpa [isZero] using zero
    have nonzero := shortest_ne_zero positive
    obtain ⟨d, ds, written⟩ := List.exists_cons_of_ne_nil (toDigits_ne_nil x.shortest.digits)
    have all : Digits (d :: ds) := written ▸ digits_toDigits x.shortest.digits
    have canonical : d ≠ '0' := by
      rintro rfl
      exact nonzero (eq_zero_of_head_toDigits _ (by rw [written]; rfl))
    refine ⟨_, isNumeral_layOut all canonical
      (x.shortest.exponent + (d :: ds).length - 1), ?_⟩
    dsimp only
    rw [written]
    cases x.negative <;> simp

end Dashboard.Binary64

namespace Dashboard
open Json

theorem Number.toList_text_integer (n : Int) : (Number.integer n).text.toList =
    (if n < 0 then ['-'] else []) ++ Nat.toDigits 10 n.natAbs := by
  cases n with
  | ofNat n => exact Nat.toList_repr
  | negSucc n =>
    have written : (Number.integer (.negSucc n)).text = "-" ++ Nat.repr (n + 1) := rfl
    rw [written, String.toList_append, Nat.toList_repr, if_pos (Int.negSucc_lt_zero n)]
    rfl

theorem Number.exists_numeral_text (n : Number) :
    ∃ (negative : Bool) (numeral : List Char), IsNumeral numeral ∧
      n.text.toList = (if negative then ['-'] else []) ++ numeral := by
  cases n with
  | real x =>
    obtain ⟨numeral, shape, written⟩ := x.exists_numeral_text
    exact ⟨x.negative, numeral, shape, written⟩
  | integer n =>
    refine ⟨decide (n < 0), Nat.toDigits 10 n.natAbs, isNumeral_toDigits n.natAbs, ?_⟩
    simp only [Number.toList_text_integer, decide_eq_true_eq]

end Dashboard
