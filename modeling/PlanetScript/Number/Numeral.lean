import PlanetScript.Number.Rounding
import PlanetScript.Text.DecimalDigit

/-! # Numerals

The decimal literals of field values: digits with an optional point and an optional
exponent, `12`, `5.`, `.5`, `1e-3`.  `Numeral.scan?` cuts the longest one off the head
of a text, and `Numeral.value?` is the decimal that it names.  Digits of every script
belong to a numeral, but only ASCII digits name a value.

`Number.read?` reads a whole text as a signed numeral, or as one of the names of
infinity and NaN.
-/
namespace PlanetScript

/-- A decimal literal without its sign, cut into its parts. -/
structure Numeral where
  whole : Text
  fraction : Text
  exponentNegative : Bool
  exponent : Text
deriving DecidableEq, Repr

namespace Numeral
open Text

/-- The digits at the head of a text, and what follows them. -/
def splitDigits (t : Text) : Text × Text := (t.takeWhile isDigit, t.dropWhile isDigit)

/-- The digits after a point at the head of a text, and what follows them. -/
def splitFraction : Text → Text × Text
  | '.' :: t => splitDigits t
  | t => ([], t)

/-- An exponent at the head of a text, as sign and digits, and what follows it.  A mark
without digits is no exponent and stays where it is. -/
def splitExponent : Text → (Bool × Text) × Text
  | [] => ((false, []), [])
  | mark :: t =>
    if mark = 'e' ∨ mark = 'E' then
      let (negative, digits) := splitSign t
      match splitDigits digits with
      | ([], _) => ((false, []), mark :: t)
      | (exponent, rest) => ((negative, exponent), rest)
    else ((false, []), mark :: t)

/-- The longest numeral at the head of a text, and what follows it. -/
def scan? (t : Text) : Option (Numeral × Text) :=
  let (whole, afterWhole) := splitDigits t
  let (fraction, afterFraction) := splitFraction afterWhole
  if whole = [] ∧ fraction = [] then none
  else
    let ((negative, exponent), rest) := splitExponent afterFraction
    some (⟨whole, fraction, negative, exponent⟩, rest)

/-- The value of a numeral, if all its digits are ASCII. -/
def value? (n : Numeral) : Option Decimal :=
  if (n.whole ++ n.fraction ++ n.exponent).all isAsciiDigit then
    let power : Int := digitsValue n.exponent
    some ⟨digitsValue (n.whole ++ n.fraction),
      (if n.exponentNegative then -power else power) - n.fraction.length⟩
  else none

end Numeral

namespace Number
open Text

/-- The names of infinity and NaN, in any case. -/
def ofName? (negative : Bool) (t : Text) : Option Number :=
  let name := t.map Char.toLower
  if name = "inf".toList ∨ name = "infinity".toList then some (.infinite negative)
  else if name = "nan".toList then some .nan
  else none

/-- The number that a whole text names. -/
def read? (t : Text) : Option Number :=
  let (negative, body) := splitSign t
  match Numeral.scan? body with
  | some (numeral, []) => numeral.value?.map (ofDecimal negative)
  | _ => ofName? negative body

end Number
end PlanetScript
