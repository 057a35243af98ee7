import PlanetScript.Texture.Sync

/-! # Notices

What a session has to tell is told as notices.  Each has a level and one line of text.  Two
records that only show how far a session has come are no notices: what each line of a script was
taken for, and the table of bindings before a name is bound.
-/
namespace PlanetScript

/-- How much a notice matters. -/
inductive Level where
  | error
  | warn
  | info
  | debug
deriving DecidableEq, Repr

/-- The name of a level. -/
def Level.name : Level → Text
  | .error => "error".toList
  | .warn => "warn".toList
  | .info => "info".toList
  | .debug => "debug".toList

/-- Something that a session tells. -/
inductive Notice where
  /-- A content line stands outside any block. -/
  | ignoredLine (line : Text)
  /-- A script was read. -/
  | parsed (valid : Bool) (objects backgrounds pending : Nat)
  /-- The sprite that an id is bound to is not on the stage. -/
  | noSprite (sprite id : Text)
  /-- A texture was installed. -/
  | textureApplied (id url : Text)
  /-- The sprite left the stage while its texture was on the way. -/
  | spriteGone (sprite url : Text)
  /-- A texture could not be fetched for a sprite. -/
  | textureFailed (id : Text) (failure : FetchFailure)
  /-- A texture that was asked for has no content type. -/
  | untypedTexture (url : Text)
  /-- A texture that was asked for could not be fetched. -/
  | fetchFailed (failure : FetchFailure)
  /-- Pending syncs have landed. -/
  | flushed (report : FlushReport)
  /-- A sprite wears a costume. -/
  | wears (sprite costume assetId : Text)
deriving DecidableEq

namespace Notice
open Text

/-- The level of a notice. -/
def level : Notice → Level
  | .ignoredLine _ | .parsed .. | .noSprite .. => .debug
  | .textureApplied .. | .flushed _ | .wears .. => .info
  | .spriteGone .. => .warn
  | .textureFailed .. | .untypedTexture _ | .fetchFailed _ => .error

/-- The text of a notice. -/
def message : Notice → Text
  | .ignoredLine line => "ignored line outside any block: ".toList ++ line
  | .parsed valid objects backgrounds pending =>
    "parsed planet: valid=".toList ++ (if valid then "true".toList else "false".toList) ++
      ", ".toList ++ ofNat objects ++ " objects, ".toList ++ ofNat backgrounds ++
      " backgrounds, ".toList ++ ofNat pending ++ " syncs pending".toList
  | .noSprite sprite id => "no entity named ".toList ++ sprite ++ " for ".toList ++ id
  | .textureApplied id url => "Parsed texture for ".toList ++ id ++ ": ".toList ++ url
  | .spriteGone sprite url =>
    "entity ".toList ++ sprite ++ " vanished before texture ".toList ++ url ++ " landed".toList
  | .textureFailed id failure =>
    "Failed to apply texture for ".toList ++ id ++ ": ".toList ++ failure.message
  | .untypedTexture url => "Failed to fetch texture: no content type for ".toList ++ url
  | .fetchFailed failure => "Failed to fetch texture: ".toList ++ failure.message
  | .flushed report =>
    "texture syncs: ".toList ++ ofNat report.applied ++ " applied, ".toList ++
      ofNat report.failed ++ " failed, ".toList ++ ofNat report.skipped ++ " skipped".toList
  | .wears sprite costume assetId =>
    sprite ++ " wears ".toList ++ costume ++ " (".toList ++ assetId ++ [')']

end Notice
end PlanetScript
