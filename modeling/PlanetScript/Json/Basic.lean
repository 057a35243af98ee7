import PlanetScript.Text.Basic

/-! # JSON documents

A document keeps a number as the token that writes it, and the members of an object in
the order in which they stand, so that printing and reading lose nothing.
-/
namespace PlanetScript

/-- A JSON value. -/
inductive Json where
  | null
  | bool (value : Bool)
  | number (token : Text)
  | string (value : Text)
  | array (items : List Json)
  | object (members : List (Text × Json))
deriving Repr

end PlanetScript
