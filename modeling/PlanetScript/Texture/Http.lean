import PlanetScript.Texture.Basic

/-! # Textures over HTTP

How the reply to an HTTP request becomes the result of asking for a texture.
-/
namespace PlanetScript
open Text

/-- What a request over HTTP comes to. -/
inductive HttpReply where
  /-- No response came, with the reason in words. -/
  | none (reason : Text)
  | response (status : Nat) (contentType : Option Bytes) (body : Bytes)
deriving DecidableEq

namespace HttpReply

/-- The bytes that a header's text may hold: a tab and the visible ones of ASCII. -/
def isHeaderByte (b : UInt8) : Bool := b == 9 || (32 ≤ b && b < 127)

/-- The text of a header without the blanks around it, if it is plain ASCII. -/
def headerText? (bytes : Bytes) : Option Text :=
  if bytes.all isHeaderByte then some (trim (bytes.map fun b => Char.ofNat b.toNat))
  else Option.none

/-- The texture of a reply, or why there is none: no response, or a status outside of 200 to
299.  A response of status 204 has no body. -/
def result (url : Text) : HttpReply → FetchResult
  | .none reason => .error (.request url reason)
  | .response status contentType body =>
    if 200 ≤ status ∧ status < 300 then
      .ok ⟨if status = 204 then [] else body, contentType.bind headerText?⟩
    else .error (.status url status)

end HttpReply

/-- The source of textures that asks a network for every URL. -/
def TextureSource.ofNetwork (network : Text → HttpReply) : TextureSource :=
  { answer := fun url => (network url).result url }

end PlanetScript
