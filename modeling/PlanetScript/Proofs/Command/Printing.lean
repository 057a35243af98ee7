import PlanetScript.Proofs.Command.Inspecting
import PlanetScript.Proofs.Text.Encoding

/-! # What an inspection prints

An inspection reads two files, binds sprites, asks a network for textures and dresses the sprites
before it prints.  Only the files decide what it prints: binding and flushing leave the scene that
the script has left, and none of them can stop the command.  So the text is the snapshot of the
script under the settings that the options and the settings file give
(`Command.result_inspect`), for every list of bindings and every network, also one that answers
the same request differently from one time to the next (`Session.reanswered`).
-/
namespace PlanetScript
open Text

/-- A file holds a text: it can be read, and its bytes are the UTF-8 of the text. -/
def Holds (file : Text → FileContent) (path text : Text) : Prop :=
  file path = .bytes (text.flatMap String.utf8EncodeChar)

/-- The options give these settings: those of the settings file, which holds them, or the default
ones, with the flags over them. -/
def ReadOptions.Give (options : ReadOptions) (file : Text → FileContent) (settings : Settings) :
    Prop :=
  ∃ base : Settings,
    (match options.settingsFile with
      | none => base = ⟨.sticky, .strictInteger⟩
      | some path => ∃ text, Holds file path text ∧ Settings.read text = .ok base) ∧
    settings =
      ⟨options.blockScope.getD base.blockScope, options.numberStyle.getD base.numberStyle⟩

/-! ### Reading the files -/

theorem bind_eq_ok_iff {ε α β : Type} {x : Except ε α} {f : α → Except ε β} {b : β} :
    x.bind f = .ok b ↔ ∃ a, x = .ok a ∧ f a = .ok b := by
  cases x with
  | error fault => exact iff_of_false nofun nofun
  | ok a =>
    constructor
    · intro h
      exact ⟨a, rfl, h⟩
    · rintro ⟨a', ha, h⟩
      cases ha
      exact h

section Files
variable {world : World}

theorem World.text_eq_ok_iff {path text : Text} :
    world.text path = .ok text ↔ Holds world.file path text := by
  unfold World.text Holds
  rw [← encode_eq_flatMap]
  cases world.file path with
  | missing => exact iff_of_false nofun nofun
  | unreadable => exact iff_of_false nofun nofun
  | bytes content =>
    rw [FileContent.bytes.injEq, ← decode?_eq_some_iff]
    simp only
    cases decode? content with
    | none => exact iff_of_false nofun nofun
    | some decoded => rw [Except.ok.injEq, Option.some.injEq]

theorem ReadOptions.settings_eq_ok_iff {options : ReadOptions} {settings : Settings} :
    options.settings world = .ok settings ↔ options.Give world.file settings := by
  unfold ReadOptions.settings Give
  cases options.settingsFile with
  | none => simp [bind, Except.bind, Settings.override, eq_comm]
  | some path =>
    simp only [← World.text_eq_ok_iff]
    cases world.text path with
    | error fault => simp [bind, Except.bind]
    | ok text =>
      cases hread : Settings.read text with
      | error fault => simp [bind, Except.bind, hread]
      | ok base => simp [bind, Except.bind, hread, Settings.override, eq_comm]

end Files

namespace Session

/-! ### The scene of an inspection -/

/-- The session of an inspection with its sprites bound and its syncs on their way. -/
def prepared (settings : Settings) (network : Text → HttpReply) (script : Text)
    (bindings : List (Text × Text)) : Session :=
  bindings.foldl (fun s binding => s.bindEither binding.1 binding.2)
    ((fresh settings (.ofBindings bindings) (.ofNetwork network)).read script)

/-- The session with other answers to the requests that are on their way, one for each. -/
def reanswered (s : Session) (answer : Nat → FetchResult) : Session :=
  { s with pending := s.pending.mapIdx fun index sync => { sync with result := answer index } }

theorem scene_flush (s : Session) : s.flush.1.scene = s.scene := by
  obtain ⟨stage, notices, h⟩ := s.flush_eq
  rw [h]

theorem scene_bindEither (s : Session) (name id : Text) :
    (s.bindEither name id).scene = s.scene := by
  obtain ⟨clicks, requests, pending, notices, h⟩ := s.bindEither_eq name id
  rw [h]
  rfl

theorem scene_foldl_bindEither (s : Session) (bindings : List (Text × Text)) :
    (bindings.foldl (fun s binding => s.bindEither binding.1 binding.2) s).scene = s.scene := by
  induction bindings generalizing s with
  | nil => rfl
  | cons binding bindings ih => rw [List.foldl_cons, ih, scene_bindEither]

/-- Whatever is bound, the scene is that of the script. -/
theorem scene_prepared (settings : Settings) (network : Text → HttpReply) (script : Text)
    (bindings : List (Text × Text)) :
    (prepared settings network script bindings).scene =
      ((fresh settings [] .empty).read script).scene := by
  rw [prepared, scene_foldl_bindEither, scene_read, scene_read]
  rfl

end Session

namespace Command

/-- Once its files are read, an inspection prints the snapshot of the script. -/
theorem result_inspectOutcome (settings : Settings) (network : Text → HttpReply) (script : Text)
    (bindings : List (Text × Text)) :
    (inspectOutcome settings network script bindings).result =
      .ok (((Session.fresh settings [] .empty).read script).scene.json.pretty ++ ['\n']) := by
  rw [← Session.scene_prepared settings network script bindings, ← Session.scene_flush]
  rfl

/-- The result of an inspection, in which neither bindings nor network occur. -/
theorem result_run_inspect (file : Text → FileContent) (network : Text → HttpReply) (script : Text)
    (options : ReadOptions) (bindings : List (Text × Text)) :
    ((inspect script options bindings).run ⟨file, network⟩).result =
      (options.settings ⟨file, network⟩).bind fun settings =>
        (World.text ⟨file, network⟩ script).bind fun text =>
          .ok (((Session.fresh settings [] .empty).read text).scene.json.pretty ++ ['\n']) := by
  simp only [run]
  cases options.settings ⟨file, network⟩ with
  | error fault => rfl
  | ok settings =>
    cases World.text ⟨file, network⟩ script with
    | error fault => rfl
    | ok text => exact result_inspectOutcome settings network text bindings

/-- **What an inspection prints is decided by its files and options alone.**  It prints a text if
and only if the settings file, where one is named, and the script are UTF-8 that can be read and
the settings file holds settings; and the text is then the snapshot of the script, read under
these settings with the flags over them.  So whatever is bound and whatever the network answers,
the result is the same, also where it is a failure.  The network may even give every single
request an answer of its own: when the syncs have landed, the scene is that of the script. -/
theorem result_inspect (file : Text → FileContent) (script : Text) (options : ReadOptions) :
    (∀ bindings network printed,
        ((inspect script options bindings).run ⟨file, network⟩).result = .ok printed ↔
          ∃ settings text, options.Give file settings ∧ Holds file script text ∧
            printed =
              ((Session.fresh settings [] .empty).read text).scene.json.pretty ++ ['\n']) ∧
      (∀ bindings network,
        (∃ printed, ((inspect script options bindings).run ⟨file, network⟩).result = .ok printed) ↔
          (∃ settings, options.Give file settings) ∧ ∃ text, Holds file script text) ∧
      (∀ bindings bindings' network network',
        ((inspect script options bindings).run ⟨file, network⟩).result =
          ((inspect script options bindings').run ⟨file, network'⟩).result) ∧
      ∀ settings text bindings network (answer : Nat → FetchResult),
        Session.inspected settings network text bindings =
            (Session.prepared settings network text bindings).flush ∧
          ((Session.prepared settings network text bindings).reanswered answer).flush.1.scene =
            ((Session.fresh settings [] .empty).read text).scene := by
  have hprints : ∀ bindings network printed,
      ((inspect script options bindings).run ⟨file, network⟩).result = .ok printed ↔
        ∃ settings text, options.Give file settings ∧ Holds file script text ∧ printed =
          ((Session.fresh settings [] .empty).read text).scene.json.pretty ++ ['\n'] := by
    intro bindings network printed
    have hsettings : ∀ settings, options.settings ⟨file, network⟩ = .ok settings ↔
        options.Give file settings := fun _ => ReadOptions.settings_eq_ok_iff
    have htext : ∀ text, World.text ⟨file, network⟩ script = .ok text ↔ Holds file script text :=
      fun _ => World.text_eq_ok_iff
    simp only [result_run_inspect, bind_eq_ok_iff, hsettings, htext, Except.ok.injEq,
      exists_and_left, @eq_comm _ printed]
  refine ⟨hprints, ?_, ?_, ?_⟩
  · intro bindings network
    simp only [hprints]
    constructor
    · rintro ⟨printed, settings, text, hsettings, htext, -⟩
      exact ⟨⟨settings, hsettings⟩, text, htext⟩
    · rintro ⟨⟨settings, hsettings⟩, text, htext⟩
      exact ⟨_, settings, text, hsettings, htext, rfl⟩
  · intro bindings bindings' network network'
    rw [result_run_inspect, result_run_inspect]
    rfl
  · intro settings text bindings network answer
    refine ⟨rfl, ?_⟩
    rw [Session.scene_flush]
    exact Session.scene_prepared settings network text bindings

end Command
end PlanetScript
