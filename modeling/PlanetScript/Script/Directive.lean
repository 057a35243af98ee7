import PlanetScript.Text.Basic

/-! # Directives

A line of a script is a directive, which names what it does and mostly an id, or content
for the block that is open.
-/
namespace PlanetScript

/-- What an id can stand for. -/
inductive Kind where
  | object
  | background
deriving DecidableEq, Repr

/-- What a line says.  An id is missing when the line has none in its place. -/
inductive Directive where
  /-- The line that makes a planet valid. -/
  | signature
  /-- Opens the fields of the thumbnail. -/
  | thumbnail
  /-- Opens the fields of the spawn point. -/
  | spawn
  /-- Declares a background, anew if it is known. -/
  | newBackground (id : Option Text)
  /-- Declares an object, unless it is known. -/
  | newObject (id : Option Text)
  /-- Makes one background the active one. -/
  | switchBackground (id : Option Text)
  /-- Opens the position of an object. -/
  | setPosition (id : Option Text)
  /-- Opens the texture of an object or background. -/
  | setTexture (id : Option Text) (kind : Option Kind)
  /-- Opens the size of an object. -/
  | setSize (id : Option Text)
  /-- Opens the properties of an object. -/
  | properties (id : Option Text)
  /-- Opens what a click on an object does. -/
  | onClick (id : Option Text)
  /-- Says, in a click block, that the click removes the object. -/
  | remove
  /-- A field of the open block, or noise. -/
  | content
deriving DecidableEq, Repr

end PlanetScript
