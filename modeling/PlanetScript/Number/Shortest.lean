import PlanetScript.Number.Numeral

/-! # Number text

A finite number is written with the fewest digits that read back as the same number,
and of the decimals with so few digits the nearest.  The search is the definition: a
finite number is an integer over a power of ten, so for 1, 2, … digits its two
neighbours on that decimal grid are cut from its exact digits and tried by rounding
them back.  The full digits come last, and they are exact.
-/
namespace PlanetScript
namespace FiniteNumber

/-- The exact decimal value of the magnitude: a halving is a fifth of a tenth. -/
def exact (x : FiniteNumber) : Decimal :=
  if 0 ≤ x.exponent then ⟨x.mantissa * power 2 x.exponent, 0⟩
  else ⟨x.mantissa * power 5 (-x.exponent), x.exponent⟩

/-- Whether a decimal rounds to this number. -/
def readsBack (x : FiniteNumber) (d : Decimal) : Bool :=
  Number.ofDecimal x.negative d = .finite x

/-- The exact decimal cut after all but its last `dropped` digits, or its upper neighbour
there: the nearer of those that read back, and on a tie the one whose last digit is even. -/
def cutTo? (x : FiniteNumber) (dropped : Nat) : Option Decimal :=
  let unit := power 10 dropped
  let kept := x.exact.digits / unit
  let cut := x.exact.digits % unit
  let below : Decimal := ⟨kept, x.exact.exponent + dropped⟩
  let above : Decimal := ⟨kept + 1, x.exact.exponent + dropped⟩
  match x.readsBack below, x.readsBack above with
  | true, true =>
    if 2 * cut < unit ∨ 2 * cut = unit ∧ kept % 2 = 0 then some below else some above
  | true, false => some below
  | false, true => some above
  | false, false => none

/-- The decimal with the fewest digits that reads back, and of those the nearest. -/
def shortest (x : FiniteNumber) : Decimal :=
  let count := (Text.ofNat x.exact.digits).length
  ((List.range count).findSome? fun i => x.cutTo? (count - (i + 1))).getD x.exact

/-! ### Layout -/

/-- Digits with a decimal exponent, laid out: positionally, with a digit on either side of
the point, when the leading digit stands between 10 ^ -5 and 10 ^ 15, and with a signed
exponent after one leading digit otherwise. -/
def layout (digits : Text) (exponent : Int) : Text :=
  let leading : Int := exponent + digits.length - 1
  if -5 ≤ leading ∧ leading < 16 then
    if 0 ≤ exponent then digits ++ List.replicate exponent.toNat '0' ++ ".0".toList
    else if 0 ≤ leading then
      digits.take (leading + 1).toNat ++ '.' :: digits.drop (leading + 1).toNat
    else "0.".toList ++ List.replicate (-leading - 1).toNat '0' ++ digits
  else
    let tail := digits.drop 1
    digits.take 1 ++ (if tail = [] then [] else '.' :: tail) ++
      'e' :: (if leading < 0 then '-' else '+') :: Text.ofNat leading.natAbs

/-- The digits of a positive decimal without the zeros at their end, which go into the
exponent. -/
def significand (d : Decimal) : Text × Int :=
  let all := Text.ofNat d.digits
  let digits := Text.dropEnd (· == '0') all
  (digits, d.exponent + (all.length - digits.length : Nat))

/-- The text of a finite number. -/
def text (x : FiniteNumber) : Text :=
  let sign : Text := if x.negative then ['-'] else []
  if x.mantissa = 0 then sign ++ "0.0".toList
  else
    let (digits, exponent) := significand x.shortest
    sign ++ layout digits exponent

end FiniteNumber

/-- The text of a number. -/
def Number.text : Number → Text
  | .finite x => x.text
  | .infinite false => "inf".toList
  | .infinite true => "-inf".toList
  | .nan => "NaN".toList

end PlanetScript
