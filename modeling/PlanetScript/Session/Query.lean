import PlanetScript.Scene.Document
import PlanetScript.Session.Basic

/-! # Queries

What a session answers about its scene.  Only one query has an effect: asking for the data
of a texture makes a request.
-/
namespace PlanetScript
open Text

/-- The answer to a query for the data of a texture that is no vector graphic. -/
def rasterMarker : Text := "[non-SVG texture]".toList

namespace Session

/-- The ids of the objects, in the order of declaration. -/
def objectList (s : Session) : Text := commaJoin s.scene.objects.keys

/-- The ids of the backgrounds, in the order of declaration. -/
def backgroundList (s : Session) : Text := commaJoin s.scene.backgrounds.keys

/-- The position of an object, the origin for an unknown one. -/
def objectPosition (s : Session) (id : Text) : Point :=
  ((s.scene.objects.get? id).map (·.position)).getD .origin

/-- The properties of an object that were given, as a document. -/
def propertiesText (s : Session) (id : Text) : Text :=
  match s.scene.objects.get? id with
  | some object => object.propertiesJson.compact
  | none => (Json.object []).compact

/-- Whether an id was clicked. -/
def isClicked (s : Session) (id : Text) : Bool := s.clicks.isClicked id

/-- The data of a fetched texture, and what is told about it. -/
def dataOf (url : Text) : FetchResult → Text × Option Notice
  | .error failure => ([], some (.fetchFailed failure))
  | .ok texture =>
    match texture.contentType with
    | none => ([], some (.untypedTexture url))
    | some _ => (if texture.isVector then decodeLossy texture.bytes else rasterMarker, none)

/-- The data of the texture of an id: its text if it is a vector graphic, a marker if it is
not, and nothing if there is none to be had. -/
def textureText (s : Session) (id : Text) : Session × Text :=
  match (s.scene.texture? id).bind nonEmpty? with
  | none => (s, [])
  | some url =>
    let (result, source) := s.source.ask url
    let (data, notice) := dataOf url result
    let s := { s with source }
    (notice.elim s s.tell, data)

end Session
end PlanetScript
