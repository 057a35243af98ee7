import PlanetScript.Proofs.Scene.Meaning
import PlanetScript.Proofs.Session.Placing
import PlanetScript.Session.Operation

/-! # How a session follows a script

Reading a script, a session makes the script's edits one after the other and does at once
what each asks for.  The lines that make no edit leave traces in the notices alone, so up to
notices a session that has read a script is the one that has followed its edits
(`Session.alike_read`).  What reading keeps and changes is then said of one edit.

The scene depends on the script and the settings alone (`Session.scene_read`), so it is the
one that the script describes, and after any run it is that of some script
(`Session.exists_scene_run`).
-/
namespace PlanetScript
open Text

/-- The script that an operation makes the scene that of.  Clearing makes it that of an empty
script. -/
def Operation.script? : Operation → Option Text
  | .read script => some script
  | .clear => some []
  | _ => none

namespace Session

/-- Two sessions that differ in their notices and block scope alone. -/
structure Alike (s t : Session) : Prop where
  numberStyle : s.settings.numberStyle = t.settings.numberStyle
  scene : s.scene = t.scene
  bindings : s.bindings = t.bindings
  clicks : s.clicks = t.clicks
  stage : s.stage = t.stage
  source : s.source = t.source
  pending : s.pending = t.pending

namespace Alike
variable {s t u : Session}

theorem refl (s : Session) : s.Alike s := ⟨rfl, rfl, rfl, rfl, rfl, rfl, rfl⟩

theorem symm (h : s.Alike t) : t.Alike s :=
  ⟨h.numberStyle.symm, h.scene.symm, h.bindings.symm, h.clicks.symm, h.stage.symm,
    h.source.symm, h.pending.symm⟩

theorem trans (h : s.Alike t) (h' : t.Alike u) : s.Alike u :=
  ⟨h.numberStyle.trans h'.numberStyle, h.scene.trans h'.scene, h.bindings.trans h'.bindings,
    h.clicks.trans h'.clicks, h.stage.trans h'.stage, h.source.trans h'.source,
    h.pending.trans h'.pending⟩

theorem tell (s : Session) (notice : Notice) : (s.tell notice).Alike s :=
  ⟨rfl, rfl, rfl, rfl, rfl, rfl, rfl⟩

end Alike

/-! ### Following one edit -/

section Follow
variable (s : Session) (e : Edit)

/-- The session with its scene edited. -/
def editScene : Session := { s with scene := s.scene.edited s.settings.numberStyle e }

/-- A session makes an edit and does what it asks for. -/
def follow : Session := (s.scene.effect? e).elim (s.editScene e) (s.editScene e).perform

end Follow

/-- Showing a texture makes at most a request and a sync. -/
theorem showTexture_eq (s : Session) (id : Text) :
    ∃ requests pending notices, (s.showTexture id).1 =
      { s with source := { s.source with requests }, pending, notices } := by
  unfold showTexture
  split
  · exact ⟨_, _, _, rfl⟩
  · exact ⟨_, _, _, rfl⟩
  · exact ⟨_, _, _, rfl⟩

/-- Following a position moves sprites at most. -/
theorem followPosition_eq (s : Session) (id : Text) :
    ∃ stage : Stage, (∀ name, stage.has name = s.stage.has name) ∧
      (s.followPosition id).1 = { s with stage } := by
  cases h : s.scene.objects.get? id with
  | none =>
    rw [followPosition_of_get?_eq_none h]
    exact ⟨_, fun _ => rfl, rfl⟩
  | some object =>
    rw [followPosition_of_get? h]
    exact ⟨_, fun name => Stage.has_placeWhere .., rfl⟩

theorem perform_eq (s : Session) (effect : Effect) :
    ∃ (stage : Stage) (requests : List Text) (pending : Backlog) (notices : List Notice),
      (∀ name, stage.has name = s.stage.has name) ∧
        s.perform effect =
          { s with stage, source := { s.source with requests }, pending, notices } := by
  cases effect with
  | ignored line => exact ⟨_, _, _, _, fun _ => rfl, rfl⟩
  | showTexture id =>
    obtain ⟨requests, pending, notices, h⟩ := s.showTexture_eq id
    exact ⟨_, requests, pending, notices, fun _ => rfl, h⟩
  | followPosition id =>
    obtain ⟨stage, hstage, h⟩ := s.followPosition_eq id
    exact ⟨stage, _, _, _, hstage, h⟩

/-- What following an edit can change: the scene is edited, sprites are moved, requests are
made and syncs are issued.  No sprite comes or goes. -/
theorem follow_eq (s : Session) (e : Edit) :
    ∃ (stage : Stage) (requests : List Text) (pending : Backlog) (notices : List Notice),
      (∀ name, stage.has name = s.stage.has name) ∧
        s.follow e =
          { s.editScene e with stage, source := { s.source with requests }, pending, notices } := by
  unfold follow
  cases s.scene.effect? e with
  | none => exact ⟨_, _, _, _, fun _ => rfl, rfl⟩
  | some effect => exact (s.editScene e).perform_eq effect

section Kept
variable (s : Session) (e : Edit)

@[simp] theorem settings_follow : (s.follow e).settings = s.settings := by
  obtain ⟨_, _, _, _, _, h⟩ := s.follow_eq e
  rw [h]; rfl

@[simp] theorem bindings_follow : (s.follow e).bindings = s.bindings := by
  obtain ⟨_, _, _, _, _, h⟩ := s.follow_eq e
  rw [h]; rfl

@[simp] theorem scene_follow :
    (s.follow e).scene = s.scene.edited s.settings.numberStyle e := by
  obtain ⟨_, _, _, _, _, h⟩ := s.follow_eq e
  rw [h]; rfl

@[simp] theorem clicks_follow : (s.follow e).clicks = s.clicks := by
  obtain ⟨_, _, _, _, _, h⟩ := s.follow_eq e
  rw [h]; rfl

@[simp] theorem answer_follow : (s.follow e).source.answer = s.source.answer := by
  obtain ⟨_, _, _, _, _, h⟩ := s.follow_eq e
  rw [h]

@[simp] theorem has_follow (name : Text) : (s.follow e).stage.has name = s.stage.has name := by
  obtain ⟨_, _, _, _, hstage, h⟩ := s.follow_eq e
  rw [h]
  exact hstage name

end Kept

/-- What no edit changes, no list of edits does. -/
theorem foldl_follow_eq {α : Type} {f : Session → α} (hf : ∀ s e, f (s.follow e) = f s)
    (s : Session) (es : List Edit) : f (es.foldl follow s) = f s := by
  induction es generalizing s with
  | nil => rfl
  | cons e es ih => exact (ih (s.follow e)).trans (hf s e)

namespace Alike
variable {s t : Session}

theorem dispatch_eq (h : s.Alike t) (id : Text) : s.dispatch id = t.dispatch id := by
  simp only [dispatch, namesOf, h.scene, h.bindings, h.stage]

theorem perform (h : s.Alike t) (effect : Effect) :
    (s.perform effect).Alike (t.perform effect) := by
  cases effect with
  | ignored line => exact ((tell s _).trans h).trans (tell t _).symm
  | showTexture id =>
    show (s.showTexture id).1.Alike (t.showTexture id).1
    unfold showTexture
    rw [h.dispatch_eq id]
    cases t.dispatch id with
    | nothing => exact h
    | noSprite sprite => exact ((tell s _).trans h).trans (tell t _).symm
    | send sprite url =>
      refine ⟨h.numberStyle, h.scene, h.bindings, h.clicks, h.stage, ?_, ?_⟩
      · simp only [send, h.source]
      · simp only [send, h.source, h.pending]
  | followPosition id =>
    show (s.followPosition id).1.Alike (t.followPosition id).1
    unfold followPosition namesOf
    rw [h.scene]
    cases t.scene.objects.get? id with
    | none => exact h
    | some object =>
      simp only [h.stage, h.bindings]
      exact ⟨h.numberStyle, rfl, rfl, h.clicks, rfl, h.source, h.pending⟩

theorem editScene (h : s.Alike t) (e : Edit) : (s.editScene e).Alike (t.editScene e) := by
  refine ⟨h.numberStyle, ?_, h.bindings, h.clicks, h.stage, h.source, h.pending⟩
  simp only [Session.editScene, h.scene, h.numberStyle]

/-- Sessions that are alike follow an edit alike. -/
theorem follow (h : s.Alike t) (e : Edit) : (s.follow e).Alike (t.follow e) := by
  unfold Session.follow
  rw [h.scene]
  cases t.scene.effect? e with
  | none => exact h.editScene e
  | some effect => exact (h.editScene e).perform effect

theorem foldl_follow (h : s.Alike t) (es : List Edit) :
    (es.foldl Session.follow s).Alike (es.foldl Session.follow t) := by
  induction es generalizing s t with
  | nil => exact h
  | cons e es ih => exact ih (h.follow e)

end Alike

/-! ### Following a script -/

theorem readLine_of_edit? (s : Session) {focus : Focus} {line : Text} {e : Edit}
    (h : focus.edit? line = some e) :
    readLine (s, focus) line = (s.follow e, focus.next s.settings.blockScope (.ofLine line)) := by
  have hstep := Reading.step_of_edit? s.settings (r := ⟨s.scene, focus⟩) h
  simp only [readLine, hstep]
  unfold follow editScene
  cases s.scene.effect? e <;> rfl

/-- A line without an edit is seen in the notices alone. -/
theorem readLine_of_edit?_eq_none (s : Session) {focus : Focus} {line : Text}
    (h : focus.edit? line = none) :
    ∃ notices, readLine (s, focus) line =
      ({ s with notices }, focus.next s.settings.blockScope (.ofLine line)) := by
  obtain ⟨effect, hstep, heffect⟩ :=
    Reading.step_of_edit?_eq_none s.settings (r := ⟨s.scene, focus⟩) h
  simp only [readLine, hstep]
  rcases heffect with rfl | rfl
  · exact ⟨_, rfl⟩
  · exact ⟨_, rfl⟩

/-- **Reading lines is following their edits.** -/
theorem foldl_readLine (s : Session) (lines : List Text) :
    let state := lines.foldl readLine (s, {})
    state.1.settings = s.settings ∧
      state.2.Same (focusAt s.settings.blockScope lines) ∧
      state.1.Alike ((edits s.settings.blockScope lines).foldl follow s) := by
  induction lines using List.reverseRecOn with
  | nil => exact ⟨rfl, Focus.Same.initial s.settings.blockScope, Alike.refl s⟩
  | append_singleton lines line ih =>
    obtain ⟨hsettings, hfocus, halike⟩ := ih
    -- the focus that is carried may have another kind, but the line's edit is the same
    rw [List.foldl_append, edits_concat, List.foldl_append, ← hfocus.edit?_eq line]
    generalize lines.foldl readLine (s, {}) = state at hsettings hfocus halike
    obtain ⟨t, focus⟩ := state
    simp only at hsettings hfocus halike
    show (readLine (t, focus) line).1.settings = _ ∧ (readLine (t, focus) line).2.Same _ ∧
      (readLine (t, focus) line).1.Alike _
    cases he : focus.edit? line with
    | some e =>
      rw [readLine_of_edit? t he, hsettings]
      exact ⟨(settings_follow t e).trans hsettings, hfocus.next line, halike.follow e⟩
    | none =>
      obtain ⟨notices, hr⟩ := readLine_of_edit?_eq_none t he
      rw [hr]
      refine ⟨hsettings, ?_, ?_⟩
      · show (focus.next t.settings.blockScope _).Same _
        rw [hsettings]
        exact hfocus.next line
      · exact ⟨halike.numberStyle, halike.scene, halike.bindings, halike.clicks, halike.stage,
          halike.source, halike.pending⟩

/-- The session that has read the first lines of a script. -/
def afterLines (s : Session) (lines : List Text) : Session :=
  (lines.foldl readLine (s.clear, {})).1

theorem alike_afterLines (s : Session) (lines : List Text) :
    (s.afterLines lines).Alike ((edits s.settings.blockScope lines).foldl follow s.clear) :=
  (foldl_readLine s.clear lines).2.2

/-- **Up to notices, reading a script is following its edits from a cleared session.** -/
theorem alike_read (s : Session) (script : Text) :
    (s.read script).Alike
      ((edits s.settings.blockScope (contentLines script)).foldl follow s.clear) :=
  (Alike.tell _ _).trans (s.alike_afterLines (contentLines script))

section Read
variable (s : Session) (script name : Text)

theorem settings_read : (s.read script).settings = s.settings :=
  (foldl_readLine s.clear (contentLines script)).1

theorem bindings_read : (s.read script).bindings = s.bindings :=
  (s.alike_read script).bindings.trans
    (foldl_follow_eq (f := Session.bindings) bindings_follow s.clear _)

/-- After a script no id counts as clicked. -/
theorem clicks_read : (s.read script).clicks = .none :=
  (s.alike_read script).clicks.trans
    (foldl_follow_eq (f := Session.clicks) clicks_follow s.clear _)

theorem answer_read : (s.read script).source.answer = s.source.answer := by
  rw [(s.alike_read script).source]
  exact foldl_follow_eq (f := (·.source.answer)) answer_follow s.clear _

end Read

/-! ### The scene of a session -/

theorem scene_foldl_follow (s : Session) (es : List Edit) :
    (es.foldl follow s).scene = es.foldl (Scene.edited s.settings.numberStyle) s.scene := by
  induction es generalizing s with
  | nil => rfl
  | cons e es ih => rw [List.foldl_cons, List.foldl_cons, ih, scene_follow, settings_follow]

/-- The scene after some lines is that of the lines, whatever the session was before. -/
theorem scene_afterLines (s : Session) (lines : List Text) :
    (s.afterLines lines).scene = (Reading.run s.settings {} lines).scene := by
  rw [(s.alike_afterLines lines).scene, scene_foldl_follow, Reading.scene_run]
  rfl

/-- **The scene after reading a script is the script's**, whatever the session was before. -/
theorem scene_read (s : Session) (script : Text) :
    (s.read script).scene = Scene.ofScript s.settings script :=
  s.scene_afterLines (contentLines script)

theorem describes_afterLines (s : Session) (lines : List Text) :
    Describes s.settings lines (s.afterLines lines).scene := by
  rw [scene_afterLines]
  exact describes_run s.settings lines

theorem describes_foldl_follow (s : Session) (lines : List Text) :
    Describes s.settings lines
      ((edits s.settings.blockScope lines).foldl follow s.clear).scene := by
  rw [← (s.alike_afterLines lines).scene]
  exact s.describes_afterLines lines

/-- **A session that reads a script has the scene that the script describes.** -/
theorem describes_read (s : Session) (script : Text) :
    Describes s.settings (contentLines script) (s.read script).scene := by
  rw [scene_read]
  exact describes_run s.settings (contentLines script)

/-! ### What an operation can change -/

/-- Binding an object changes the bindings and clicks, and makes at most a request and a sync. -/
theorem bindObject_eq (s : Session) (sprite id : Text) :
    ∃ requests pending notices, s.bindObject sprite id =
      { s with
        bindings := s.bindings.insert sprite id, clicks := s.clicks.unmark id,
        source := { s.source with requests }, pending, notices } :=
  showTexture_eq _ id

/-- Binding a background changes the bindings, and makes at most a request and a sync. -/
theorem bindBackground_eq (s : Session) (sprite id : Text) :
    ∃ requests pending notices, s.bindBackground sprite id =
      { s with
        bindings := s.bindings.insert sprite id,
        source := { s.source with requests }, pending, notices } := by
  unfold bindBackground
  split
  · exact showTexture_eq _ id
  · exact ⟨_, _, _, rfl⟩

/-- A click changes the clicks at most. -/
theorem click_eq (s : Session) (sprite : Text) :
    s.click sprite = { s with clicks := (s.bindings.get? sprite).elim s.clicks s.clicks.mark } := by
  unfold click
  cases s.bindings.get? sprite <;> rfl

theorem foldl_land_eq (syncs : List Sync) (state : Session × FlushReport) :
    ∃ stage notices, (syncs.foldl land state).1 = { state.1 with stage, notices } := by
  induction syncs generalizing state with
  | nil => exact ⟨_, _, rfl⟩
  | cons sync syncs ih => exact ih (land state sync)

/-- A flush changes the stage, the queue and the notices alone. -/
theorem flush_eq (s : Session) :
    ∃ stage notices, s.flush.1 = { s with stage, pending := [], notices } :=
  foldl_land_eq s.pending ({ s with pending := [] }, {})

/-- A flush leaves nothing pending. -/
theorem pending_flush (s : Session) : s.flush.1.pending = [] := by
  obtain ⟨_, _, h⟩ := s.flush_eq
  rw [h]

/-- Asking for the data of a texture makes a request at most. -/
theorem textureText_eq (s : Session) (id : Text) :
    ∃ requests notices, (s.textureText id).1 =
      { s with source := { s.source with requests }, notices } := by
  unfold textureText
  split
  · exact ⟨_, _, rfl⟩
  · next url _ =>
    simp only
    cases (dataOf url (s.source.ask url).1).2 <;> exact ⟨_, _, rfl⟩

/-- An operation keeps the settings, and the scene unless it makes it that of a script. -/
theorem scene_apply (s : Session) (operation : Operation) :
    (s.apply operation).1.settings = s.settings ∧
      (s.apply operation).1.scene =
        operation.script?.elim s.scene (Scene.ofScript s.settings) := by
  -- reading and clearing make the scene a script's; no other operation touches it
  cases operation with
  | read script => exact ⟨s.settings_read script, s.scene_read script⟩
  | clear => exact ⟨rfl, rfl⟩
  | bindObject sprite id =>
    obtain ⟨_, _, _, h⟩ := s.bindObject_eq sprite id
    show (s.bindObject sprite id).settings = _ ∧ (s.bindObject sprite id).scene = _
    rw [h]
    exact ⟨rfl, rfl⟩
  | bindBackground sprite id =>
    obtain ⟨_, _, _, h⟩ := s.bindBackground_eq sprite id
    show (s.bindBackground sprite id).settings = _ ∧ (s.bindBackground sprite id).scene = _
    rw [h]
    exact ⟨rfl, rfl⟩
  | click sprite =>
    show (s.click sprite).settings = _ ∧ (s.click sprite).scene = _
    rw [click_eq]
    exact ⟨rfl, rfl⟩
  | showTexture id =>
    obtain ⟨_, _, _, h⟩ := s.showTexture_eq id
    show (s.showTexture id).1.settings = _ ∧ (s.showTexture id).1.scene = _
    rw [h]
    exact ⟨rfl, rfl⟩
  | followPosition id =>
    obtain ⟨stage, -, h⟩ := s.followPosition_eq id
    show (s.followPosition id).1.settings = _ ∧ (s.followPosition id).1.scene = _
    rw [h]
    exact ⟨rfl, rfl⟩
  | flush =>
    obtain ⟨stage, notices, h⟩ := s.flush_eq
    show s.flush.1.settings = _ ∧ s.flush.1.scene = _
    rw [h]
    exact ⟨rfl, rfl⟩
  | askTexture id =>
    obtain ⟨requests, notices, h⟩ := s.textureText_eq id
    show (s.textureText id).1.settings = _ ∧ (s.textureText id).1.scene = _
    rw [h]
    exact ⟨rfl, rfl⟩
  | addSprite sprite => exact ⟨rfl, rfl⟩
  | removeSprites name => exact ⟨rfl, rfl⟩
  | supplyTexture url result => exact ⟨rfl, rfl⟩

/-- **After any run the scene is that of some script.** -/
theorem exists_scene_run (settings : Settings) (stage : Stage) (source : TextureSource)
    (operations : List Operation) :
    ∃ script, ((fresh settings stage source).run operations).scene =
      Scene.ofScript settings script := by
  suffices h : ((fresh settings stage source).run operations).settings = settings ∧
      ∃ script, ((fresh settings stage source).run operations).scene =
        Scene.ofScript settings script from h.2
  induction operations using List.reverseRecOn with
  | nil => exact ⟨rfl, [], rfl⟩
  | append_singleton operations operation ih =>
    obtain ⟨hsettings, script, hscene⟩ := ih
    rw [run_append, run_cons, run_nil]
    obtain ⟨hs, hnext⟩ := scene_apply ((fresh settings stage source).run operations) operation
    refine ⟨hs.trans hsettings, ?_⟩
    rw [hnext, hsettings, hscene]
    cases operation.script? with
    | none => exact ⟨script, rfl⟩
    | some script' => exact ⟨script', rfl⟩

end Session
end PlanetScript
