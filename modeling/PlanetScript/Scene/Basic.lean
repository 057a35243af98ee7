import PlanetScript.Script.Directive
import PlanetScript.Field.Gravity
import PlanetScript.Registry

/-! # Scenes

A scene is what a script describes: one planet with its thumbnail and spawn point, and
the backgrounds and objects that were declared, in the order of their declaration.  An
id may name an object and a background at once; where a directive does not say which is
meant, the object is.
-/
namespace PlanetScript

/-- A position in the plane. -/
structure Point where
  x : Number := .zero
  y : Number := .zero
deriving DecidableEq

/-- The centre of the plane. -/
def Point.origin : Point := {}

/-- A background of the planet. -/
structure Background where
  texture : Text := []
  active : Bool := false
deriving DecidableEq

/-- An object on the planet. -/
structure Object where
  position : Point := {}
  texture : Text := []
  /-- A word for the size, kept as it was written. -/
  size : Text := []
  gravity : Gravity := .unset
  /-- Whether a click removes the object. -/
  removedByClick : Bool := false
deriving DecidableEq

/-- What a script describes. -/
structure Scene where
  /-- Whether the script has the signature line. -/
  valid : Bool := false
  thumbnail : Text := []
  spawn : Point := {}
  backgrounds : Registry Background := .empty
  objects : Registry Object := .empty
deriving DecidableEq

namespace Scene

/-- The scene before the first line. -/
def empty : Scene := {}

/-- What an id stands for, objects first. -/
def kind? (scene : Scene) (id : Text) : Option Kind :=
  if scene.objects.contains id then some .object
  else if scene.backgrounds.contains id then some .background
  else none

/-- The texture of an id, the object's before the background's. -/
def texture? (scene : Scene) (id : Text) : Option Text :=
  match scene.objects.get? id with
  | some object => some object.texture
  | none => (scene.backgrounds.get? id).map (·.texture)

/-- The first active background. -/
def active? (scene : Scene) : Option Text :=
  (scene.backgrounds.keysWhere (·.active)).head?

/-- Puts a background at an id, in place of the one that is there. -/
def putBackground (scene : Scene) (id : Text) (background : Background) : Scene :=
  { scene with backgrounds := scene.backgrounds.insert id background }

/-- Declares a background; one that was declared before starts again. -/
def declareBackground (scene : Scene) (id : Text) : Scene := scene.putBackground id {}

/-- Declares an object; one that was declared before stays as it is. -/
def declareObject (scene : Scene) (id : Text) : Scene :=
  { scene with objects := scene.objects.insertIfNew id {} }

/-- Makes every background inactive. -/
def deactivateAll (scene : Scene) : Scene :=
  { scene with
    backgrounds :=
      scene.backgrounds.mapValues fun background => { background with active := false } }

/-- Makes one background active and every other one inactive. -/
def activate (scene : Scene) (id : Text) : Scene :=
  { scene with
    backgrounds :=
      scene.deactivateAll.backgrounds.modify id fun background =>
        { background with active := true } }

/-- Changes an object, if it was declared. -/
def modifyObject (scene : Scene) (id : Text) (f : Object → Object) : Scene :=
  { scene with objects := scene.objects.modify id f }

/-- Changes a background, if it was declared. -/
def modifyBackground (scene : Scene) (id : Text) (f : Background → Background) : Scene :=
  { scene with backgrounds := scene.backgrounds.modify id f }

end Scene
end PlanetScript
