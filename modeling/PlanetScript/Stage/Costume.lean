import PlanetScript.Digest.Sha256
import PlanetScript.Scene.Basic

/-! # Costumes

A costume is a texture as a sprite wears it.  Its asset id is made from the digest of its
bytes and the format that its URL announces.
-/
namespace PlanetScript
open Text

/-- The two flavours of a texture. -/
inductive Graphic where
  | vector
  | raster
deriving DecidableEq, Repr

namespace Graphic

/-- A URL that ends in `.svg` announces a vector texture, every other one a raster texture. -/
def ofUrl (url : Text) : Graphic := if endsWith ".svg".toList url then .vector else .raster

/-- The data format of a flavour. -/
def format : Graphic → Text
  | .vector => "svg".toList
  | .raster => "png".toList

end Graphic

/-- A texture as a sprite wears it. -/
structure Costume where
  name : Text
  kind : Graphic
  bytes : Bytes
  url : Text
  assetId : Text
  center : Point
deriving DecidableEq

namespace Costume

/-- The name of the costume that shows the texture of an id. -/
def nameOf (id : Text) : Text := id ++ "-texture".toList

/-- The asset id of bytes of a flavour. -/
def assetIdOf (kind : Graphic) (bytes : Bytes) : Text :=
  Sha256.hexDigest bytes ++ '.' :: kind.format

/-- A costume that turns about its origin. -/
def make (name : Text) (kind : Graphic) (bytes : Bytes) (url : Text) : Costume :=
  ⟨name, kind, bytes, url, assetIdOf kind bytes, .origin⟩

end Costume
end PlanetScript
