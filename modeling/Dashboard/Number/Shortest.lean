import Dashboard.Number.Binary64
/-!
# Shortest decimal text of a number

A number is written with the fewest significant digits that read back as the same number, and
among those with the ones nearest to it. The point stands among the digits when the first digit
weighs between `10 ^ -5` and `10 ^ 15`; beyond that an exponent with its sign follows.
-/
namespace Dashboard.Binary64

/-- The value of a positive number and its distance to the neighbours, as multiples of one unit:
`num / den` is the value on the decimal grid `10 ^ scale`, and `unit / den` one last place. -/
structure Grid where
  num : Nat
  den : Nat
  unit : Nat

def grid (x : Binary64) (scale : Int) : Grid :=
  let unit := twoTo x.exponent.toNat * tenTo (-scale).toNat
  ⟨x.significand * unit, twoTo (-x.exponent).toNat * tenTo scale.toNat, unit⟩

/-- Below a power of two the next number is only half as far away as above it. -/
def narrowBelow (x : Binary64) : Bool :=
  x.significand == twoTo 52 && -1074 < x.exponent

/-- Whether `point * 10 ^ scale` rounds to `x`. The ends of the interval, halfway to the
neighbours, belong to an even significand. -/
def readsBack (x : Binary64) (scale : Int) (point : Nat) : Bool :=
  let g := x.grid scale
  let low := 4 * g.num - (if x.narrowBelow then 1 else 2) * g.unit
  let high := 4 * g.num + 2 * g.unit
  let place := 4 * point * g.den
  if x.significand % 2 = 0 then low ≤ place && place ≤ high else low < place && place < high

/-- The point of the grid that reads back, the nearer one if both neighbours of the value do, and
the even one if they are equally near. -/
def nearestOnGrid? (x : Binary64) (scale : Int) : Option Nat :=
  let g := x.grid scale
  let below := g.num / g.den
  match x.readsBack scale below, x.readsBack scale (below + 1) with
  | true, true => some (roundedQuotient g.num g.den)
  | true, false => some below
  | false, true => some (below + 1)
  | false, false => none

/-- The least `k` with `x < 10 ^ k`, for a positive `x`. -/
def decimalTop (x : Binary64) : Int :=
  let (num, den) := x.ratio
  if den ≤ num then (Nat.toDigits 10 (num / den)).length
  else 1 - (Nat.toDigits 10 ((den - 1) / num)).length

/-- A decimal `digits * 10 ^ exponent`. -/
structure Decimal where
  digits : Nat
  exponent : Int
  deriving DecidableEq, Repr

/-- Moves trailing zeros of the digits into the exponent. -/
def Decimal.stripped (d : Decimal) : Decimal :=
  if h : d.digits ≠ 0 ∧ d.digits % 10 = 0 then
    Decimal.stripped ⟨d.digits / 10, d.exponent + 1⟩
  else d
termination_by d.digits
decreasing_by omega

/-- The value of a positive number as a decimal, digit for digit. -/
def exactDecimal (x : Binary64) : Decimal :=
  ⟨x.significand * twoTo x.exponent.toNat * Nat.pow 5 (-x.exponent).toNat, min x.exponent 0⟩

/-- The shortest decimal that reads back as the positive number `x`. Seventeen digits always
suffice. -/
def shortest (x : Binary64) : Decimal :=
  let top := x.decimalTop
  let found := (List.range 17).findSome? fun n =>
    let scale := top - (n + 1 : Nat)
    (x.nearestOnGrid? scale).map (⟨·, scale⟩)
  (found.getD x.exactDecimal).stripped

def zeros (n : Nat) : String :=
  String.ofList (List.replicate n '0')

/-- Digits with the first of them weighing `10 ^ lead`. -/
def layOut (digits : List Char) (lead : Int) : String :=
  if -5 ≤ lead ∧ lead < 0 then
    "0." ++ zeros (-lead - 1).toNat ++ String.ofList digits
  else if 0 ≤ lead ∧ lead < 16 then
    let whole := digits.take (lead + 1).toNat
    let fraction := digits.drop (lead + 1).toNat
    String.ofList whole ++ zeros (lead + 1 - digits.length).toNat ++ "." ++
      (if fraction = [] then "0" else String.ofList fraction)
  else
    String.ofList (digits.take 1) ++
      (if digits.length = 1 then "" else "." ++ String.ofList (digits.drop 1)) ++
      "e" ++ (if lead < 0 then "-" else "+") ++ toString lead.natAbs

/-- The text of a number, with its sign also when it is zero. -/
def text (x : Binary64) : String :=
  let sign := if x.negative then "-" else ""
  if x.isZero then sign ++ "0.0"
  else
    let d := x.shortest
    let digits := Nat.toDigits 10 d.digits
    sign ++ layOut digits (d.exponent + digits.length - 1)

end Dashboard.Binary64
