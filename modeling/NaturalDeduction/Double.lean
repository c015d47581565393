/-! Double-precision numbers as exact values: a significand of at most 53 bits times a power of two
that is not below the least one. A decimal stands for the number nearest to it, and of two that
are equally near for the one with an even significand. A number is written with the fewest digits
that read back to it, and of those with the ones nearest to it; with a point when the first of
them stands for a power of ten from -4 to 15, and otherwise with an exponent of at least two
digits. -/
namespace NaturalDeduction

inductive Double where
  /-- The value is the significand times two to the exponent, with a sign. -/
  | finite (negative : Bool) (significand : Nat) (exponent : Int)
  | infinite (negative : Bool)
  | undefined
  deriving DecidableEq, Repr

namespace Double

/-- A power of two; below the zeroth it is one. -/
def twoTo (k : Int) : Nat := Nat.pow 2 k.toNat

def tenTo (k : Int) : Nat := Nat.pow 10 k.toNat

def leastExponent : Int := -1074

def precision : Int := 53

def exponentBound : Int := 1024

def zero (negative : Bool) : Double := finite negative 0 leastExponent

/-- The integer nearest to a quotient, the even one of two. -/
def nearestQuotient (numerator denominator : Nat) : Nat :=
  let quotient := numerator / denominator
  let twice := 2 * (numerator % denominator)
  if twice < denominator then quotient
  else if denominator < twice then quotient + 1
  else quotient + quotient % 2

def binaryOrder (numerator denominator : Nat) : Int :=
  let order : Int := numerator.log2 - denominator.log2
  if denominator * twoTo order ≤ numerator * twoTo (-order) then order else order - 1

def ofQuotient (negative : Bool) (numerator denominator : Nat) : Double :=
  let least := binaryOrder numerator denominator + 1 - precision
  let exponent := if least < leastExponent then leastExponent else least
  let significand :=
    nearestQuotient (numerator * twoTo (-exponent)) (denominator * twoTo exponent)
  let (significand, exponent) :=
    if significand = twoTo precision then (twoTo (precision - 1), exponent + 1)
    else (significand, exponent)
  if exponentBound < exponent + precision then infinite negative
  else finite negative significand exponent

def digitCount (n : Nat) : Nat := (Nat.toDigits 10 n).length

/-- The number nearest to digits times a power of ten. Beyond 400 places on either side of the point
nothing is left to compute. -/
def ofDecimal (negative : Bool) (digits : Nat) (exponent : Int) : Double :=
  let magnitude := exponent + digitCount digits
  if digits = 0 ∨ magnitude < -400 then zero negative
  else if 400 < magnitude then infinite negative
  else ofQuotient negative (digits * tenTo exponent) (tenTo (-exponent))

def isZero : Double → Bool
  | finite _ significand _ => significand = 0
  | _ => false

def isBelow (bound : Int) : Double → Bool
  | finite negative significand exponent =>
      let signed : Int := if negative then -significand else significand
      signed * twoTo exponent < bound * twoTo (-exponent)
  | infinite negative => negative
  | undefined => false

def whole? : Double → Option Int
  | finite negative significand exponent =>
      if significand % twoTo (-exponent) = 0 then
        let value : Int := significand * twoTo exponent / twoTo (-exponent)
        some (if negative then -value else value)
      else none
  | _ => none

structure Decimal where
  digits : Nat
  exponent : Int
  deriving DecidableEq, Repr

def compareDecimal (decimal : Decimal) (significand : Nat) (exponent : Int) : Ordering :=
  compare (decimal.digits * tenTo decimal.exponent * twoTo (-exponent))
    (significand * twoTo exponent * tenTo (-decimal.exponent))

/-- Whether a decimal reads back to a number: it lies between the points halfway to the neighbours,
which belong to the number if its significand is even. -/
def readsBack (significand : Nat) (exponent : Int) (decimal : Decimal) : Bool :=
  let isLowest := significand = twoTo (precision - 1) ∧ leastExponent < exponent
  let low := if isLowest then 4 * significand - 1 else 4 * significand - 2
  let above := compareDecimal decimal low (exponent - 2)
  let below := compareDecimal decimal (4 * significand + 2) (exponent - 2)
  let isEven := significand % 2 = 0
  (above = .gt || (isEven && above = .eq)) && (below = .lt || (isEven && below = .eq))

def decimalOrder (significand : Nat) (exponent : Int) : Int :=
  let whole := significand * twoTo exponent / twoTo (-exponent)
  if 0 < whole then digitCount whole else 1 - digitCount (twoTo (-exponent) / significand)

def neighbours (significand : Nat) (exponent order : Int) : List Decimal :=
  let numerator := significand * twoTo exponent * tenTo (-order)
  let denominator := twoTo (-exponent) * tenTo order
  let below := numerator / denominator
  let nearest := nearestQuotient numerator denominator
  [⟨nearest, order⟩, ⟨2 * below + 1 - nearest, order⟩]

def search (significand : Nat) (exponent order : Int) : Nat → Option Decimal
  | 0 => none
  | turns + 1 =>
      ((neighbours significand exponent order).find? (readsBack significand exponent)).or
        (search significand exponent (order - 1) turns)

def strip : Nat → Decimal → Decimal
  | 0, decimal => decimal
  | bound + 1, ⟨digits, exponent⟩ =>
      if digits ≠ 0 ∧ digits % 10 = 0 then strip bound ⟨digits / 10, exponent + 1⟩
      else ⟨digits, exponent⟩

/-- The fewest digits that read back; seventeen are always enough. -/
def shortest (significand : Nat) (exponent : Int) : Decimal :=
  let order := decimalOrder significand exponent
  let found := (search significand exponent (order - 1) 17).getD
    ⟨significand * Nat.pow 5 (-exponent).toNat * twoTo exponent, min exponent 0⟩
  strip (digitCount found.digits) found

def zeros (count : Int) : List Char := List.replicate count.toNat '0'

def exponentChars (exponent : Int) : List Char :=
  let digits := Nat.toDigits 10 exponent.natAbs
  'e' :: (if exponent < 0 then '-' else '+') :: (zeros (2 - digits.length) ++ digits)

def layout (decimal : Decimal) : List Char :=
  let digits := Nat.toDigits 10 decimal.digits
  let lead := decimal.exponent + digits.length - 1
  if -4 ≤ lead ∧ lead < 16 then
    if 0 ≤ decimal.exponent then digits ++ zeros decimal.exponent ++ ['.', '0']
    else if 0 ≤ lead then
      let whole := (lead + 1).toNat
      digits.take whole ++ '.' :: digits.drop whole
    else '0' :: '.' :: (zeros (-1 - lead) ++ digits)
  else
    let part := digits.drop 1
    digits.take 1 ++ (if part.isEmpty then [] else '.' :: part) ++ exponentChars lead

def signChars (negative : Bool) : List Char := if negative then ['-'] else []

structure Spelling where
  infinity : List Char
  undefined : List Char

def chars (spelling : Spelling) : Double → List Char
  | finite negative significand exponent =>
      signChars negative ++
        if significand = 0 then ['0', '.', '0'] else layout (shortest significand exponent)
  | infinite negative => signChars negative ++ spelling.infinity
  | undefined => spelling.undefined

end Double
end NaturalDeduction
