import Dashboard.Number.Binary64
import Dashboard.Text.Blank
/-!
# Reading a decimal number

A decimal number is a sign, digits with at most one point among or beside them, and an exponent;
sign and exponent may be missing, and so may the digits on one side of the point. Blanks around it
do not count. It is read as the nearest number.
-/
namespace Dashboard.Binary64

def signOf : List Char → Bool × List Char
  | '-' :: rest => (true, rest)
  | '+' :: rest => (false, rest)
  | rest => (false, rest)

def natOf (digits : List Char) : Nat :=
  digits.foldl (fun n c => 10 * n + (c.toNat - '0'.toNat)) 0

/-- The exponent that ends a decimal number: nothing, or a mark, a sign and digits. -/
def exponentOf? : List Char → Option Int
  | [] => some 0
  | mark :: rest =>
    let (negative, digits) := signOf rest
    if (mark = 'e' ∨ mark = 'E') ∧ digits ≠ [] ∧ digits.all Char.isDigit then
      some (if negative then -(natOf digits : Int) else natOf digits)
    else none

/-- The fraction digits after a point, if there is one, and what follows them. -/
def fractionOf : List Char → List Char × List Char
  | '.' :: rest => (rest.takeWhile Char.isDigit, rest.dropWhile Char.isDigit)
  | rest => ([], rest)

/-- The number nearest to a decimal number, if the text is one and lies in the range. -/
def ofText? (text : String) : Option Binary64 :=
  let (negative, unsigned) := signOf (Text.trim text.toList)
  let whole := unsigned.takeWhile Char.isDigit
  let (fraction, rest) := fractionOf (unsigned.dropWhile Char.isDigit)
  if whole = [] ∧ fraction = [] then none
  else
    (exponentOf? rest).bind fun exponent =>
      ofDecimal? negative (natOf (whole ++ fraction)) (exponent - fraction.length)

end Dashboard.Binary64
