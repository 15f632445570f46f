import Dashboard.Json.Basic
import Dashboard.Json.Problem
/-!
# Numbers in JSON text

A literal without point and exponent that fits a signed or an unsigned 64-bit word is an integer;
minus zero is none. Every other literal is a real. Its digits are collected into a significand as
long as that fits 64 bits, and the significand, rounded to a real, is then multiplied or divided by
a power of ten that is itself a real. So the last place may differ from that of the nearest real.
-/
namespace Dashboard.Json

/-- Appends decimal digits to `value` while it stays below `bound`, and returns those left over. -/
def collect (bound : Nat) : Nat → List Char → Nat × List Char
  | value, [] => (value, [])
  | value, c :: cs =>
    let longer := 10 * value + (c.toNat - '0'.toNat)
    if longer < bound then collect bound longer cs else (value, c :: cs)

/-- `x * 10 ^ exponent`, in steps of at most 308 powers, each rounded; `none` beyond the range. -/
def scale? (x : Binary64) (exponent : Int) : Option Binary64 :=
  if exponent.natAbs ≤ 308 then
    (Binary64.ofRatio? false (tenTo exponent.natAbs) 1).bind fun power =>
      if 0 ≤ exponent then x.mul? power else x.div? power
  else if x.isZero then some x
  else if 0 ≤ exponent then none
  else
    ((Binary64.ofRatio? false (tenTo 308) 1).bind x.div?).bind fun y => scale? y (exponent + 308)
termination_by exponent.natAbs
decreasing_by omega

/-- The real with this significand and exponent, at the end of its literal. -/
def finish (negative : Bool) (significand : Nat) (exponent : Int) (rest : List Char) :
    Reads Number :=
  match (Binary64.ofRatio? false significand 1).bind (scale? · exponent) with
  | some x => .ok (.real (if negative then x.neg else x), rest)
  | none => .error (.here .numberOutOfRange rest)

/-- Reads what follows the exponent mark. -/
def readExponent (negative : Bool) (significand : Nat) (start : Int) (cs : List Char) :
    Reads Number :=
  let (down, cs) :=
    match cs with
    | '+' :: r => (false, r)
    | '-' :: r => (true, r)
    | r => (false, r)
  let digits := cs.takeWhile Char.isDigit
  let rest := cs.dropWhile Char.isDigit
  if digits.isEmpty then
    .error (if cs.isEmpty then .here .endInValue cs else .peeking .invalidNumber cs)
  else
    match collect (twoTo 31) 0 digits with
    | (exponent, []) =>
      finish negative significand (if down then start - exponent else start + exponent) rest
    | (_, _ :: leftOver) =>
      -- an exponent of more than 31 bits is refused at the digit that makes it one
      if significand ≠ 0 ∧ !down then .error (.here .numberOutOfRange (leftOver ++ rest))
      else .ok (.real (.zero negative), rest)

/-- Reads an exponent, if the literal has one. -/
def readEnd (negative : Bool) (significand : Nat) (exponent : Int) : List Char → Reads Number
  | 'e' :: rest => readExponent negative significand exponent rest
  | 'E' :: rest => readExponent negative significand exponent rest
  | rest => finish negative significand exponent rest

/-- Reads what follows the point. -/
def readFraction (negative : Bool) (significand : Nat) (exponent : Int) (cs : List Char) :
    Reads Number :=
  let digits := cs.takeWhile Char.isDigit
  let rest := cs.dropWhile Char.isDigit
  if digits.isEmpty then
    .error (.peeking (if rest.isEmpty then .endInValue else .invalidNumber) rest)
  else
    let (longer, leftOver) := collect (twoTo 64) significand digits
    readEnd negative longer (exponent - (digits.length - leftOver.length : Nat)) rest

/-- The integer of a sign and digits, if a word holds it. -/
def wordInteger? (negative : Bool) (significand : Nat) : Option Int :=
  if !negative then some significand
  else if 0 < significand ∧ significand ≤ twoTo 63 then some (-significand)
  else none

/-- Reads a number after its sign. -/
def readNumber (negative : Bool) (cs : List Char) : Reads Number :=
  let rest := cs.dropWhile Char.isDigit
  match cs.takeWhile Char.isDigit with
  | [] => .error (if cs.isEmpty then .here .endInValue cs else .peeking .invalidNumber cs)
  | '0' :: d :: ds => .error (.peeking .invalidNumber (d :: ds ++ rest))
  | digits =>
    let (significand, leftOver) := collect (twoTo 64) 0 digits
    match rest with
    | '.' :: rest => readFraction negative significand leftOver.length rest
    | rest =>
      match rest, leftOver.isEmpty, wordInteger? negative significand with
      | 'e' :: _, _, _ => readEnd negative significand leftOver.length rest
      | 'E' :: _, _, _ => readEnd negative significand leftOver.length rest
      | _, true, some n => .ok (.integer n, rest)
      | _, _, _ => finish negative significand leftOver.length rest

end Dashboard.Json
