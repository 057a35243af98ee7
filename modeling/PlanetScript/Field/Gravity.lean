import PlanetScript.Json.Basic
import PlanetScript.Number.Shortest

/-! # Gravity

The text after `gravity:` is read as far as it is a number: blanks, a sign, and then the
longest numeral or the word `Infinity`.  A text that does not start so is kept apart from
gravity that was never given.
-/
namespace PlanetScript
open Text

/-- The gravity of an object. -/
inductive Gravity where
  /-- No gravity was given. -/
  | unset
  /-- The number that was given. -/
  | value (x : Number)
  /-- What was given is no number. -/
  | unreadable
deriving DecidableEq

/-- The number that a text starts with, after blanks. -/
def Number.readStart? (raw : Text) : Option Number :=
  let (negative, body) := splitSign (trimStart raw)
  if startsWith "Infinity".toList body then some (.infinite negative)
  else
    match Numeral.scan? body with
    | some (numeral, _) => numeral.value?.map (ofDecimal negative)
    | none => none

/-- A number in a document: JSON has none for the infinities and NaN. -/
def Number.json : Number → Json
  | .finite x => .number x.text
  | _ => .null

namespace Gravity

/-- The gravity that the text of a field gives. -/
def read (raw : Text) : Gravity :=
  match Number.readStart? raw with
  | some x => .value x
  | none => .unreadable

/-- Whether gravity was given at all. -/
def isGiven : Gravity → Bool
  | .unset => false
  | _ => true

/-- The number that was given. -/
def number? : Gravity → Option Number
  | .value x => some x
  | _ => none

/-- Gravity in a document. -/
def json : Gravity → Json
  | .value x => x.json
  | _ => .null

end Gravity
end PlanetScript
