import PlanetScript.Command.Invocation
import PlanetScript.Settings.Reader
import PlanetScript.Session.Flush
import PlanetScript.Session.Query
import PlanetScript.Texture.Http

/-! # Running a command

A command reads its files, plays a session and answers with the text that it prints, or
with the reason why it prints none.  Files and network are given as functions, so a run is
a value.
-/
namespace PlanetScript
open Text

/-- What reading a path gives. -/
inductive FileContent where
  | missing
  /-- There is something at the path, but it cannot be read. -/
  | unreadable
  | bytes (content : Bytes)
deriving DecidableEq

/-- The world that a command runs in. -/
structure World where
  file : Text → FileContent
  network : Text → HttpReply

/-- Why a command prints nothing. -/
inductive CommandFault where
  | cannotOpen (path : Text)
  | cannotRead (path : Text)
  | invalidSettings (path : Text)
  | noTexture (id : Text)
deriving DecidableEq

/-- A fault in words. -/
def CommandFault.message : CommandFault → Text
  | .cannotOpen path => "failed to open ".toList ++ path
  | .cannotRead path => "failed to read ".toList ++ path
  | .invalidSettings path => "invalid config ".toList ++ path
  | .noTexture id => "no texture data for ".toList ++ quote id

/-- What a command comes to. -/
structure Outcome where
  /-- The text that is printed. -/
  result : Except CommandFault Text
  notices : List Notice := []

/-- The text of a file, which has to be UTF-8. -/
def World.text (world : World) (path : Text) : Except CommandFault Text :=
  match world.file path with
  | .missing => .error (.cannotOpen path)
  | .unreadable => .error (.cannotRead path)
  | .bytes content =>
    match decode? content with
    | some text => .ok text
    | none => .error (.cannotRead path)

/-- The settings of a run: a file's or the default one, with the flags over it. -/
def ReadOptions.settings (options : ReadOptions) (world : World) :
    Except CommandFault Settings := do
  let settings ←
    match options.settingsFile with
    | none => .ok {}
    | some path =>
      match Settings.read (← world.text path) with
      | .ok settings => .ok settings
      | .error _ => .error (.invalidSettings path)
  .ok (settings.override options.blockScope options.numberStyle)

/-- The stage with a sprite of this name, behind all others if there was none. -/
def Stage.withName (stage : Stage) (name : Text) : Stage :=
  if stage.has name then stage else stage.add { name }

/-- A stage with one sprite for every name that is bound. -/
def Stage.ofBindings (bindings : List (Text × Text)) : Stage :=
  bindings.foldl (fun stage binding => Stage.withName stage binding.1) []

namespace Session

/-- Binds a sprite name to a background if there is one with this id, and else to an object. -/
def bindEither (s : Session) (sprite id : Text) : Session :=
  if s.scene.backgrounds.contains id then s.bindBackground sprite id else s.bindObject sprite id

/-- The session that reads a script, binds sprites and lands their textures. -/
def inspected (settings : Settings) (network : Text → HttpReply) (script : Text)
    (bindings : List (Text × Text)) : Session × FlushReport :=
  let s := (fresh settings (.ofBindings bindings) (.ofNetwork network)).read script
  (bindings.foldl (fun s binding => s.bindEither binding.1 binding.2) s).flush

/-- What is told of a stage: the costume that each sprite wears. -/
def wornNotices (stage : Stage) : List Notice :=
  stage.filterMap fun sprite =>
    sprite.worn?.map fun costume => .wears sprite.name costume.name costume.assetId

end Session

namespace Command

/-- Prints the snapshot of a script. -/
def inspectOutcome (settings : Settings) (network : Text → HttpReply) (script : Text)
    (bindings : List (Text × Text)) : Outcome :=
  let (s, report) := Session.inspected settings network script bindings
  let summary := if 0 < report.total then [Notice.flushed report] else []
  { result := .ok (s.scene.json.pretty ++ ['\n'])
    notices := s.notices ++ summary ++ Session.wornNotices s.stage }

/-- Prints the texture of an id. -/
def textureOutcome (settings : Settings) (network : Text → HttpReply) (script id : Text) :
    Outcome :=
  let s := (Session.fresh settings [] (.ofNetwork network)).read script
  let (s, data) := s.textureText id
  { result := if data = [] then .error (.noTexture id) else .ok (data ++ ['\n'])
    notices := s.notices }

/-- Runs a command: first the settings are settled, then the script is read. -/
def run (world : World) : Command → Outcome
  | .inspect script options bindings =>
    match options.settings world, world.text script with
    | .error fault, _ => { result := .error fault }
    | .ok _, .error fault => { result := .error fault }
    | .ok settings, .ok text => inspectOutcome settings world.network text bindings
  | .texture script id options =>
    match options.settings world, world.text script with
    | .error fault, _ => { result := .error fault }
    | .ok _, .error fault => { result := .error fault }
    | .ok settings, .ok text => textureOutcome settings world.network text id

end Command
end PlanetScript
