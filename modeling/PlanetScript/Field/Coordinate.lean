import PlanetScript.Settings.Basic
import PlanetScript.Number.Numeral

/-! # Coordinates

The text after `x:` or `y:` is read up to the first comma or semicolon.  Reading never
fails: what is no number of the chosen style is 0.
-/
namespace PlanetScript
open Text

/-- The part of a coordinate's text that counts. -/
def coordinateText (raw : Text) : Text := trim (raw.takeWhile fun c => !(c == ',' || c == ';'))

/-- An optional sign and digits of any script. -/
def isSignedInteger (t : Text) : Bool :=
  let digits := (splitSign t).2
  !digits.isEmpty && digits.all isDigit

/-- The coordinate that a trimmed text names in a style. -/
def NumberStyle.number (style : NumberStyle) (t : Text) : Number :=
  match style with
  | .strictInteger => if isSignedInteger t then (Number.read? t).getD .zero else .zero
  | .lenient =>
    match Number.read? t with
    | some (.finite x) => .finite x
    | _ => .zero

/-- The coordinate that the text of a field gives. -/
def NumberStyle.coordinate (style : NumberStyle) (raw : Text) : Number :=
  style.number (coordinateText raw)

end PlanetScript
