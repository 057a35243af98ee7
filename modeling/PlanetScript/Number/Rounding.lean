import PlanetScript.Number.Basic

/-! # Rounding to a number

A decimal names the number nearest to it, ties going to the even mantissa, and an
infinity when it lies too far out.  All of it is exact arithmetic on naturals: the
last place that the number can hold is found from binary logarithms, and the quotient
by that place is rounded to an integer once.
-/
namespace PlanetScript

/-- A decimal magnitude, `digits * 10 ^ exponent`. -/
structure Decimal where
  digits : Nat
  exponent : Int
deriving DecidableEq, Repr

namespace Number

/-- The quotient rounded to the nearest integer, a half going to the even one. -/
def roundQuotient (num den : Nat) : Nat :=
  let quotient := num / den
  let remainder := num % den
  if 2 * remainder < den then quotient
  else if den < 2 * remainder then quotient + 1
  else if quotient % 2 = 0 then quotient else quotient + 1

/-- The exponent of the leading binary digit of a positive quotient. -/
def leadingPlace (num den : Nat) : Int :=
  let guess : Int := (num.log2 : Int) - (den.log2 : Int)
  if den * power 2 guess ≤ num * power 2 (-guess) then guess else guess - 1

/-- The exponent of the last binary digit that the number nearest to a positive
quotient can hold. -/
def lastPlace (num den : Nat) : Int := max (leadingPlace num den - 52) (-1074)

/-- The number of a sign, a mantissa and an exponent; what is too large is infinite. -/
def ofParts (negative : Bool) (mantissa : Nat) (exponent : Int) : Number :=
  if h : CanonicalMagnitude mantissa exponent then .finite ⟨negative, mantissa, exponent, h⟩
  else .infinite negative

/-- The number nearest to a quotient of naturals. -/
def ofQuotient (negative : Bool) (num den : Nat) : Number :=
  if num = 0 then signedZero negative
  else
    let place := lastPlace num den
    let mantissa := roundQuotient (num * power 2 (-place)) (den * power 2 place)
    if mantissa = mantissaLimit then ofParts negative leastMantissa (place + 1)
    else ofParts negative mantissa place

/-- The number nearest to a decimal.  Magnitudes from 10 ^ 401 on are infinite and those
below 10 ^ -400 are zero without further arithmetic, which keeps the powers small. -/
def ofDecimal (negative : Bool) (d : Decimal) : Number :=
  if d.digits = 0 then signedZero negative
  else if 400 < d.exponent then .infinite negative
  else if d.exponent + (d.digits.log2 + 1 : Nat) < -400 then signedZero negative
  else ofQuotient negative (d.digits * power 10 d.exponent) (power 10 (-d.exponent))

/-- The number nearest to an integer. -/
def ofInt (n : Int) : Number := ofDecimal (n < 0) ⟨n.natAbs, 0⟩

end Number
end PlanetScript
