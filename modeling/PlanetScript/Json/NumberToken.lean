import PlanetScript.Json.Reader
import PlanetScript.Number.Shortest

/-! # The value of a JSON number

A number without point and exponent that fits 64 bits is an integer; every other one is a
binary64 number.  It is read by scaling: the digits that fit 64 bits are rounded once,
and then multiplied or divided by powers of ten up to 10 ^ 308, each product or quotient
being rounded again.  A product out of range is no number.
-/
namespace PlanetScript
namespace FiniteNumber

/-- The magnitude as a quotient of naturals. -/
def quotient (x : FiniteNumber) : Nat × Nat :=
  (x.mantissa * power 2 x.exponent, power 2 (-x.exponent))

/-- The product, rounded once, with the sign of the first factor. -/
def scaleUp (x y : FiniteNumber) : Number :=
  .ofQuotient x.negative (x.quotient.1 * y.quotient.1) (x.quotient.2 * y.quotient.2)

/-- The quotient, rounded once, with the sign of the dividend. -/
def scaleDown (x y : FiniteNumber) : Number :=
  .ofQuotient x.negative (x.quotient.1 * y.quotient.2) (x.quotient.2 * y.quotient.1)

end FiniteNumber

namespace Json
open Text

/-- The value of a number token. -/
inductive NumberValue where
  | integer (value : Int)
  | float (value : Number)
deriving DecidableEq

/-- Digits taken from the head of a text as long as the number that they write fits 64
bits, and the digits left over. -/
def takeWord : Nat → Text → Nat × Text
  | n, [] => (n, [])
  | n, c :: t =>
    if 10 * n + digitValue c ≤ 0xFFFFFFFFFFFFFFFF then takeWord (10 * n + digitValue c) t
    else (n, c :: t)

/-- The number nearest to a power of ten. -/
def powerOfTen (exponent : Nat) : Number := .ofDecimal false ⟨1, exponent⟩

/-- Scales a number by a power of ten, in at most `steps` divisions by 10 ^ 308 before the
last step. -/
def scale : Nat → Number → Int → Except Fault Number
  | steps, x, exponent =>
    match x, powerOfTen (min exponent.natAbs 308) with
    | .finite x, .finite power =>
      if exponent.natAbs ≤ 308 then
        if 0 ≤ exponent then
          match x.scaleUp power with
          | .infinite _ => .error .malformed
          | y => .ok y
        else .ok (x.scaleDown power)
      else if x.mantissa = 0 then .ok (.finite x)
      else if 0 ≤ exponent then .error .malformed
      else
        match steps with
        | 0 => .ok (.signedZero x.negative)
        | steps + 1 => scale steps (x.scaleDown power) (exponent + 308)
    | x, _ => .ok x

/-- The number of a sign, 64 bits of digits and a power of ten.  Two divisions by 10 ^ 308
leave nothing of a number of 64 bits. -/
def scaled (negative : Bool) (digits : Nat) (exponent : Int) : Except Fault Number :=
  scale 3 (.ofDecimal negative ⟨digits, 0⟩) exponent

/-- The largest exponent that is taken at its value. -/
def exponentLimit : Nat := 0x7FFFFFFF

/-- The rest of a number after the mark of its exponent. -/
def afterExponentMark (negative : Bool) (digits : Nat) (start : Int) (t : Text) :
    Except Fault (NumberValue × Text) := do
  let (below, t) := splitSign t
  let run := t.takeWhile isAsciiDigit
  let rest := t.dropWhile isAsciiDigit
  if run = [] then .error (faultAt t)
  else if exponentLimit < digitsValue run then
    if digits ≠ 0 ∧ below = false then .error .malformed
    else .ok (.float (.signedZero negative), rest)
  else
    let power : Int := digitsValue run
    let x ← scaled negative digits (if below then start - power else start + power)
    .ok (.float x, rest)

/-- The rest of a number after its digits, or the number that they write. -/
def afterDigits (negative : Bool) (digits : Nat) (start : Int) : Text →
    Except Fault (NumberValue × Text)
  | [] => do .ok (.float (← scaled negative digits start), [])
  | c :: t =>
    if c = 'e' ∨ c = 'E' then afterExponentMark negative digits start t
    else do .ok (.float (← scaled negative digits start), c :: t)

/-- The rest of a number after its point. -/
def afterPoint (negative : Bool) (digits : Nat) (start : Int) (t : Text) :
    Except Fault (NumberValue × Text) :=
  let run := t.takeWhile isAsciiDigit
  let rest := t.dropWhile isAsciiDigit
  if run = [] then .error (faultAt rest)
  else
    let (all, unused) := takeWord digits run
    afterDigits negative all (start - (run.length - unused.length : Nat)) rest

/-- An integer that fits 64 bits, and else the float nearest to it.  A negative zero is a
float, since integers have none. -/
def ofInteger (negative : Bool) (digits : Nat) : NumberValue :=
  if negative = false then .integer digits
  else if 0 < digits ∧ digits ≤ 0x8000000000000000 then .integer (-digits)
  else .float (.ofDecimal true ⟨digits, 0⟩)

/-- The value of a number token after its sign, and what follows it. -/
def magnitudeValue (negative : Bool) (t : Text) : Except Fault (NumberValue × Text) :=
  let run := t.takeWhile isAsciiDigit
  let rest := t.dropWhile isAsciiDigit
  if run = [] then .error (faultAt t)
  else if run.head? = some '0' ∧ run ≠ ['0'] then .error .malformed
  else
    let (digits, unused) := takeWord 0 run
    match rest with
    | '.' :: rest => afterPoint negative digits unused.length rest
    | 'e' :: _ | 'E' :: _ => afterDigits negative digits unused.length rest
    | _ =>
      if unused = [] then .ok (ofInteger negative digits, rest)
      else afterDigits negative digits unused.length rest

end Json
end PlanetScript
