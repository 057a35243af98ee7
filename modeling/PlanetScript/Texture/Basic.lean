import PlanetScript.Text.DecimalDigit
import PlanetScript.Text.Utf8

/-! # Textures

A texture is what a URL answers: bytes and perhaps a content type.  Asking for one can
fail in three ways.  A source says what each URL answers and remembers which URLs were
asked for.  The answer to a request is fixed when it is made.
-/
namespace PlanetScript
open Text

/-- Bytes and content type of a texture. -/
structure Texture where
  bytes : Bytes
  contentType : Option Text
deriving DecidableEq

/-- Whether the content type announces vector graphics. -/
def Texture.isVector (texture : Texture) : Bool :=
  texture.contentType.any (contains "svg".toList)

/-- Why there is no texture. -/
inductive FetchFailure where
  /-- The request could not be made or was not answered. -/
  | request (url message : Text)
  /-- The answer has a status outside of success. -/
  | status (url : Text) (code : Nat)
  /-- Nothing is known at the URL. -/
  | notFound (url : Text)
deriving DecidableEq

/-- A failure in words. -/
def FetchFailure.message : FetchFailure → Text
  | .request url message => "request to ".toList ++ url ++ " failed: ".toList ++ message
  | .status url code => url ++ " answered with HTTP status ".toList ++ Text.ofNat code
  | .notFound url => "no texture available at ".toList ++ url

/-- What asking for a texture gives. -/
abbrev FetchResult := Except FetchFailure Texture

/-- Where textures come from. -/
structure TextureSource where
  /-- What each URL answers. -/
  answer : Text → FetchResult
  /-- The URLs that were asked for, in order. -/
  requests : List Text := []

namespace TextureSource

/-- A source that knows no URL. -/
def empty : TextureSource := { answer := fun url => .error (.notFound url) }

/-- The source with another answer at one URL. -/
def supply (source : TextureSource) (url : Text) (result : FetchResult) : TextureSource :=
  { source with answer := fun u => if u = url then result else source.answer u }

/-- The source after a request. -/
def record (source : TextureSource) (url : Text) : TextureSource :=
  { source with requests := source.requests ++ [url] }

/-- Asks for a URL. -/
def ask (source : TextureSource) (url : Text) : FetchResult × TextureSource :=
  (source.answer url, source.record url)

end TextureSource
end PlanetScript
