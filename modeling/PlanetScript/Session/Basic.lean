import PlanetScript.Clicks
import PlanetScript.Notice
import PlanetScript.Script.Reading

/-! # Sessions

A session keeps a stage in step with a scene.  It owns the scene, the bindings of sprite
names to ids, the clicks, the stage, the source of textures, the syncs on their way, and
the notices it has given.

Showing the texture of an id issues a sync to the first name that is bound to it; the
request is made at once, and the costume changes when the sync lands.  Following a
position moves every sprite whose name is bound to the id at once.
-/
namespace PlanetScript
open Text

/-- The state between two operations. -/
structure Session where
  settings : Settings := {}
  scene : Scene := {}
  /-- The id that each sprite name stands for. -/
  bindings : Registry Text := .empty
  clicks : Clicks := .none
  stage : Stage := []
  source : TextureSource := .empty
  pending : Backlog := []
  notices : List Notice := []

/-- What showing the texture of an id comes to. -/
inductive Dispatch where
  /-- There is no texture or no name is bound. -/
  | nothing
  /-- The name that is bound is not on the stage. -/
  | noSprite (sprite : Text)
  /-- The texture goes to a sprite. -/
  | send (sprite url : Text)
deriving DecidableEq, Repr

namespace Session

/-- A session before its first operation. -/
def fresh (settings : Settings) (stage : Stage) (source : TextureSource) : Session :=
  { settings, stage, source }

/-- Gives a notice. -/
def tell (s : Session) (notice : Notice) : Session := { s with notices := s.notices ++ [notice] }

/-- The names that are bound to an id, in the order in which they were first bound. -/
def namesOf (s : Session) (id : Text) : List Text := s.bindings.keysWhere (· = id)

/-! ### Keeping the stage in step -/

/-- Where the texture of an id has to go. -/
def dispatch (s : Session) (id : Text) : Dispatch :=
  match (s.scene.texture? id).bind nonEmpty?, (s.namesOf id).head? with
  | some url, some sprite => if s.stage.has sprite then .send sprite url else .noSprite sprite
  | _, _ => .nothing

theorem dispatch_eq_send_iff {s : Session} {id sprite url : Text} :
    s.dispatch id = .send sprite url ↔
      (s.scene.texture? id = some url ∧ url ≠ []) ∧ (s.namesOf id).head? = some sprite ∧
        s.stage.has sprite = true := by
  have hurl : (s.scene.texture? id).bind nonEmpty? = some url ↔
      s.scene.texture? id = some url ∧ url ≠ [] := by
    simp only [Option.bind_eq_some_iff, nonEmpty?_eq_some_iff]
    constructor
    · rintro ⟨shown, ht, rfl, hne⟩
      exact ⟨ht, hne⟩
    · rintro ⟨ht, hne⟩
      exact ⟨url, ht, rfl, hne⟩
  rw [← hurl]
  unfold dispatch
  cases (s.scene.texture? id).bind nonEmpty? with
  | none => simp
  | some shown =>
    cases (s.namesOf id).head? with
    | none => simp
    | some first =>
      by_cases hs : first = sprite
      · subst hs
        cases hh : s.stage.has first <;> simp [hh]
      · cases hh : s.stage.has first <;> simp [hh, hs]

/-- Issues a sync of a texture to a sprite. -/
def send (s : Session) (id sprite url : Text) : Session :=
  let (result, source) := s.source.ask url
  { s with source, pending := s.pending.push (.issue id sprite url result) }

/-- Shows the texture of an id; the truth value says whether a sync was issued. -/
def showTexture (s : Session) (id : Text) : Session × Bool :=
  match s.dispatch id with
  | .nothing => (s, false)
  | .noSprite sprite => (s.tell (.noSprite sprite id), false)
  | .send sprite url => (s.send id sprite url, true)

/-- Moves the sprites of an object to its position, for one name after the other that is bound to
the object; the number says how many were moved. -/
def followPosition (s : Session) (id : Text) : Session × Nat :=
  match s.scene.objects.get? id with
  | some object =>
    let placed := (s.namesOf id).foldl (Stage.placeNamed object.position) (s.stage, 0)
    ({ s with stage := placed.1 }, placed.2)
  | none => (s, 0)

/-- Does what a line of a script asks for. -/
def perform (s : Session) : Effect → Session
  | .ignored line => s.tell (.ignoredLine line)
  | .showTexture id => (s.showTexture id).1
  | .followPosition id => (s.followPosition id).1

/-! ### Reading a script -/

/-- Clears the scene and the clicks.  Bindings and pending syncs stay. -/
def clear (s : Session) : Session := { s with scene := {}, clicks := .none }

/-- Reads one line with the focus that the lines before have left. -/
def readLine (state : Session × Focus) (line : Text) : Session × Focus :=
  let (s, focus) := state
  let (reading, effect) := Reading.step s.settings ⟨s.scene, focus⟩ line
  let s := { s with scene := reading.scene }
  (effect.elim s s.perform, reading.focus)

/-- The notice that a script was read. -/
def parsedNotice (s : Session) : Notice :=
  .parsed s.scene.valid s.scene.objects.size s.scene.backgrounds.size s.pending.length

/-- Reads a script into a new scene, and keeps the stage in step with it on the way. -/
def read (s : Session) (script : Text) : Session :=
  let s := ((contentLines script).foldl readLine (s.clear, {})).1
  s.tell s.parsedNotice

/-! ### Bindings and clicks -/

/-- Binds a sprite name to an object, which then counts as not clicked, and shows the
object's texture. -/
def bindObject (s : Session) (sprite id : Text) : Session :=
  let bound := { s with bindings := s.bindings.insert sprite id, clicks := s.clicks.unmark id }
  (bound.showTexture id).1

/-- Binds a sprite name to a background, and shows its texture if the background has one. -/
def bindBackground (s : Session) (sprite id : Text) : Session :=
  let bound := { s with bindings := s.bindings.insert sprite id }
  match (s.scene.backgrounds.get? id).bind fun background => nonEmpty? background.texture with
  | some _ => (bound.showTexture id).1
  | none => bound

/-- A sprite was clicked; the id that its name is bound to is marked. -/
def click (s : Session) (sprite : Text) : Session :=
  match s.bindings.get? sprite with
  | some id => { s with clicks := s.clicks.mark id }
  | none => s

end Session
end PlanetScript
