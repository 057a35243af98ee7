/-! # Numbers

Coordinates and gravity are binary64 numbers.  The program reads them from decimal
text, stores them and prints them; it never computes with them.  So a number is kept
as the sign, the mantissa and the exponent that it stands for, with the condition
that makes them unique, and equality of numbers is equality of values (the two zeros
are told apart by their sign).
-/
namespace PlanetScript

/-- A power whose exponent is an integer, and 1 when that is negative.  A factor
`base ^ exponent` is `power base exponent` above a line and `power base (-exponent)` below. -/
def power (base : Nat) (exponent : Int) : Nat := Nat.pow base exponent.toNat

/-- The least mantissa that has 53 bits. -/
def leastMantissa : Nat := 0x10000000000000

/-- The least mantissa that has 54 bits. -/
def mantissaLimit : Nat := 0x20000000000000

/-- The pairs that name a finite binary64 magnitude `mantissa * 2 ^ exponent`: fewer
than 54 bits, and exactly 53 unless the exponent is the least one. -/
def CanonicalMagnitude (mantissa : Nat) (exponent : Int) : Prop :=
  mantissa < mantissaLimit ∧ -1074 ≤ exponent ∧ exponent ≤ 971 ∧
    (leastMantissa ≤ mantissa ∨ exponent = -1074)

instance (mantissa : Nat) (exponent : Int) : Decidable (CanonicalMagnitude mantissa exponent) := by
  unfold CanonicalMagnitude; infer_instance

/-- A finite binary64 number. -/
structure FiniteNumber where
  negative : Bool
  mantissa : Nat
  exponent : Int
  canonical : CanonicalMagnitude mantissa exponent
deriving DecidableEq

/-- A binary64 number. -/
inductive Number where
  | finite (value : FiniteNumber)
  | infinite (negative : Bool)
  | nan
deriving DecidableEq

namespace Number

/-- The zero of a sign. -/
def signedZero (negative : Bool) : Number := .finite ⟨negative, 0, -1074, by decide⟩

/-- Positive zero, the value of a coordinate that was never set. -/
def zero : Number := signedZero false

instance : Inhabited Number := ⟨zero⟩

/-- Neither infinite nor NaN. -/
def IsFinite : Number → Prop
  | .finite _ => True
  | _ => False

instance : DecidablePred IsFinite
  | .finite _ => .isTrue trivial
  | .infinite _ => .isFalse id
  | .nan => .isFalse id

theorem isFinite_zero : zero.IsFinite := trivial

end Number
end PlanetScript
