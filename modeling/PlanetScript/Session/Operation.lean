import PlanetScript.Session.Flush
import PlanetScript.Session.Query

/-! # Operations

What can happen to a session, as values: scripts are read, sprites are bound and clicked,
syncs land, and the stage and the source of textures change under it.  A run is a list of
operations, each applied to what the ones before have left.
-/
namespace PlanetScript

/-- One thing that happens to a session. -/
inductive Operation where
  | read (script : Text)
  | clear
  | bindObject (sprite id : Text)
  | bindBackground (sprite id : Text)
  | click (sprite : Text)
  | showTexture (id : Text)
  | followPosition (id : Text)
  | flush
  | askTexture (id : Text)
  /-- A sprite comes to the stage. -/
  | addSprite (sprite : Sprite)
  /-- The sprites of a name leave the stage. -/
  | removeSprites (name : Text)
  /-- A URL answers differently from now on. -/
  | supplyTexture (url : Text) (result : FetchResult)

/-- What an operation answers. -/
inductive Answer where
  | done
  /-- Whether a sync was issued. -/
  | issued (yes : Bool)
  /-- How many sprites were moved. -/
  | moved (sprites : Nat)
  /-- How the pending syncs landed. -/
  | landed (report : FlushReport)
  /-- The data of a texture. -/
  | data (text : Text)
deriving DecidableEq, Repr

namespace Session

/-- A sprite comes to the stage, behind all others. -/
def addSprite (s : Session) (sprite : Sprite) : Session := { s with stage := s.stage.add sprite }

/-- The sprites of a name leave the stage. -/
def removeSprites (s : Session) (name : Text) : Session := { s with stage := s.stage.remove name }

/-- A URL answers differently from now on; the answers to earlier requests stay. -/
def supplyTexture (s : Session) (url : Text) (result : FetchResult) : Session :=
  { s with source := s.source.supply url result }

/-- What an operation leaves and what it answers. -/
def apply (s : Session) : Operation → Session × Answer
  | .read script => (s.read script, .done)
  | .clear => (s.clear, .done)
  | .bindObject sprite id => (s.bindObject sprite id, .done)
  | .bindBackground sprite id => (s.bindBackground sprite id, .done)
  | .click sprite => (s.click sprite, .done)
  | .showTexture id =>
    let (s, yes) := s.showTexture id
    (s, .issued yes)
  | .followPosition id =>
    let (s, sprites) := s.followPosition id
    (s, .moved sprites)
  | .flush =>
    let (s, report) := s.flush
    (s, .landed report)
  | .askTexture id =>
    let (s, text) := s.textureText id
    (s, .data text)
  | .addSprite sprite => (s.addSprite sprite, .done)
  | .removeSprites name => (s.removeSprites name, .done)
  | .supplyTexture url result => (s.supplyTexture url result, .done)

/-- What a list of operations leaves. -/
def run (s : Session) (operations : List Operation) : Session :=
  operations.foldl (fun s operation => (s.apply operation).1) s

@[simp] theorem run_nil (s : Session) : s.run [] = s := rfl

@[simp] theorem run_cons (s : Session) (operation : Operation) (operations : List Operation) :
    s.run (operation :: operations) = (s.apply operation).1.run operations := rfl

theorem run_append (s : Session) (before after : List Operation) :
    s.run (before ++ after) = (s.run before).run after := List.foldl_append

end Session
end PlanetScript
