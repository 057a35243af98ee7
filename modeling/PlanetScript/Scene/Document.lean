import PlanetScript.Json.Printer
import PlanetScript.Scene.Basic

/-! # Scenes as documents

The snapshot of a scene is a JSON object.  Backgrounds and objects are arrays of pairs, an
id and a record, in the order of declaration.  A number that is infinite or NaN, and
gravity that is unset or unreadable, are null.
-/
namespace PlanetScript

/-- A point in a document. -/
def Point.json (p : Point) : Json := .object [("x".toList, p.x.json), ("y".toList, p.y.json)]

/-- A background in a document. -/
def Background.json (b : Background) : Json :=
  .object [("texture_url".toList, .string b.texture), ("active".toList, .bool b.active)]

/-- An object in a document. -/
def Object.json (o : Object) : Json :=
  .object
    [("position".toList, o.position.json), ("texture_url".toList, .string o.texture),
      ("size".toList, .string o.size), ("gravity".toList, o.gravity.json),
      ("onclick".toList, .bool o.removedByClick)]

/-- A registry in a document: pairs of a key and a value. -/
def Registry.json {α : Type} (f : α → Json) (r : Registry α) : Json :=
  .array (r.entries.map fun entry => .array [.string entry.1, f entry.2])

/-- The properties of an object that were given. -/
def Object.propertiesJson (o : Object) : Json :=
  .object (if o.gravity.isGiven then [("gravity".toList, o.gravity.json)] else [])

namespace Scene

/-- The snapshot of a scene. -/
def json (scene : Scene) : Json :=
  .object
    [("valid".toList, .bool scene.valid),
      ("planet".toList,
        .object
          [("thumbnail_url".toList, .string scene.thumbnail),
            ("spawn".toList, scene.spawn.json)]),
      ("backgrounds".toList, scene.backgrounds.json Background.json),
      ("objects".toList, scene.objects.json Object.json)]

/-- The text of the snapshot. -/
def snapshot (scene : Scene) : Text := scene.json.compact

end Scene
end PlanetScript
