import PlanetScript.Script.Form
import PlanetScript.Field.Coordinate
import PlanetScript.Scene.Basic

/-! # Reading a script

A script is read line by line.  The state between two lines is the scene so far and a
focus: the block that is open, and the id and kind that its fields are about.  A line
changes both, and may have an effect outside the scene: a texture or a position that the
stage has to follow, or a line that was ignored.  The effects are returned, not performed,
so a scene depends on the script and the settings alone.

Reading never fails.  A field of an unknown id, a malformed value and a line outside any
block leave the scene as it is.
-/
namespace PlanetScript
open Text

/-- The blocks whose fields follow on lines of their own. -/
inductive Block where
  | thumbnail
  | spawn
  | texture
  | position
  | size
  | properties
  | onClick
deriving DecidableEq, Repr

/-- What the next content line is about. -/
structure Focus where
  block : Option Block := none
  id : Option Text := none
  kind : Option Kind := none
deriving DecidableEq, Repr

/-- What a line asks of the world outside the scene. -/
inductive Effect where
  /-- A content line stands outside any block. -/
  | ignored (line : Text)
  /-- The texture of an id is to be shown. -/
  | showTexture (id : Text)
  /-- The position of an object is to be followed. -/
  | followPosition (id : Text)
deriving DecidableEq, Repr

/-- The state between two lines. -/
structure Reading where
  scene : Scene := {}
  focus : Focus := {}
deriving DecidableEq

namespace Focus

/-- Opens a block about an id. -/
def openAt (block : Block) (id : Option Text) (kind : Option Kind) : Focus := ⟨some block, id, kind⟩

/-- Opens a block about the planet; the id stays. -/
def openPlanet (focus : Focus) (block : Block) : Focus := { focus with block := some block }

/-- Points an open block at what was just declared. -/
def retarget (focus : Focus) (id : Text) (kind : Kind) : Focus :=
  { focus with id := some id, kind := some kind }

/-- The focus after a content line: a block that is not sticky closes. -/
def afterContent (focus : Focus) : BlockScope → Focus
  | .sticky => focus
  | .resetAfterContent => { focus with block := none, kind := none }

end Focus

namespace Scene

/-- The scene with a texture stored on the object or background that takes it, if there is
one: the kind that is named, and else the kind of the id. -/
def storeTexture? (scene : Scene) (kind : Option Kind) (id url : Text) : Option Scene :=
  match kind.or (scene.kind? id) with
  | some .object =>
    if scene.objects.contains id then
      some (scene.modifyObject id fun object => { object with texture := url })
    else none
  | some .background =>
    if scene.backgrounds.contains id then
      some (scene.modifyBackground id fun background => { background with texture := url })
    else none
  | none => none

end Scene

namespace Point

/-- The point with the coordinates that were given. -/
def update (p : Point) (style : NumberStyle) (x y : Option Text) : Point :=
  ⟨(x.map style.coordinate).getD p.x, (y.map style.coordinate).getD p.y⟩

end Point

namespace Reading

/-- Reads a line that is a directive. -/
def directive (r : Reading) : Directive → Reading × Option Effect
  | .signature => ({ r with scene := { r.scene with valid := true } }, none)
  | .thumbnail => ({ r with focus := r.focus.openPlanet .thumbnail }, none)
  | .spawn => ({ r with focus := r.focus.openPlanet .spawn }, none)
  | .newBackground (some id) =>
    (⟨r.scene.declareBackground id, r.focus.retarget id .background⟩, none)
  | .newObject (some id) => (⟨r.scene.declareObject id, r.focus.retarget id .object⟩, none)
  | .newBackground none | .newObject none => (r, none)
  | .switchBackground (some id) =>
    if r.scene.backgrounds.contains id then
      ({ r with scene := r.scene.activate id }, some (.showTexture id))
    else (r, none)
  | .switchBackground none => (r, none)
  | .setPosition id => ({ r with focus := .openAt .position id (some .object) }, none)
  | .setTexture id kind => ({ r with focus := .openAt .texture id kind }, none)
  | .setSize id => ({ r with focus := .openAt .size id (some .object) }, none)
  | .properties id => ({ r with focus := .openAt .properties id (some .object) }, none)
  | .onClick id => ({ r with focus := .openAt .onClick id (some .object) }, none)
  | .remove =>
    match r.focus.block, r.focus.id with
    | some .onClick, some id =>
      let scene := r.scene.modifyObject id fun object => { object with removedByClick := true }
      ({ r with scene }, none)
    | _, _ => (r, none)
  | .content => (r, none)

/-- Reads a content line in an open block. -/
def field (style : NumberStyle) (line : Text) (focus : Focus) (scene : Scene) :
    Block → Scene × Option Effect
  | .thumbnail =>
    match rest? "url:".toList line with
    | some url => ({ scene with thumbnail := stored url }, none)
    | none => (scene, none)
  | .spawn =>
    ({ scene with
        spawn := scene.spawn.update style (rest? "x:".toList line) (rest? "y:".toList line) },
      none)
  | .texture =>
    match focus.id, restAfter? "url:".toList line with
    | some id, some url =>
      match scene.storeTexture? focus.kind id (stored url) with
      | some scene => (scene, some (.showTexture id))
      | none => (scene, none)
    | _, _ => (scene, none)
  | .position =>
    let x := restAfter? "x:".toList line
    let y := restAfter? "y:".toList line
    match focus.id with
    | some id =>
      if scene.objects.contains id ∧ (x.isSome ∨ y.isSome) then
        (scene.modifyObject id fun object =>
            { object with position := object.position.update style x y },
          some (.followPosition id))
      else (scene, none)
    | none => (scene, none)
  | .size =>
    match focus.id with
    | some id => (scene.modifyObject id fun object => { object with size := stored line }, none)
    | none => (scene, none)
  | .properties =>
    match focus.id, rest? "gravity:".toList line with
    | some id, some raw =>
      (scene.modifyObject id fun object => { object with gravity := .read raw }, none)
    | _, _ => (scene, none)
  | .onClick => (scene, none)

/-- Reads a line that is content. -/
def content (settings : Settings) (line : Text) (r : Reading) : Reading × Option Effect :=
  let (scene, effect) :=
    match r.focus.block with
    | none => (r.scene, some (.ignored line))
    | some block => field settings.numberStyle line r.focus r.scene block
  (⟨scene, r.focus.afterContent settings.blockScope⟩, effect)

/-- Reads one line. -/
def step (settings : Settings) (r : Reading) (line : Text) : Reading × Option Effect :=
  match Directive.ofLine line with
  | .content => r.content settings line
  | d => r.directive d

/-- Reads lines one after the other. -/
def run (settings : Settings) (r : Reading) (lines : List Text) : Reading :=
  lines.foldl (fun r line => (r.step settings line).1) r

end Reading

/-- The scene that a script describes. -/
def Scene.ofScript (settings : Settings) (script : Text) : Scene :=
  (Reading.run settings {} (contentLines script)).scene

end PlanetScript
