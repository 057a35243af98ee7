import PlanetScript.Proofs.Session.Following

/-! # Reading again

A script is read in the middle of a history: scenes were read before, names are bound, ids were
clicked, sprites stand on the stage and syncs are on their way.  None of it shows in the scene
that is read.  Two sessions that read the same line in the same scene and focus are again in
the same scene and focus (`Abreast.readLine`), whatever the line makes each of them do to its
stage, its source and its queue; and a script starts both with an empty scene.

So what a session answers about a script is the same after any history
(`Session.sameAnswers_read`), and reading the script once more changes no answer.
-/
namespace PlanetScript
open Text

namespace Session

/-! ### Two sessions reading the same lines -/

/-- Two sessions that stand at the same point of a script.  Their bindings, clicks, stages,
sources, queues and notices may be different. -/
structure Abreast (a b : Session × Focus) : Prop where
  settings : a.1.settings = b.1.settings
  scene : a.1.scene = b.1.scene
  focus : a.2 = b.2

/-- What a line asks for changes neither the settings nor the scene. -/
theorem elim_perform (s : Session) (effect : Option Effect) :
    (effect.elim s s.perform).settings = s.settings ∧
      (effect.elim s s.perform).scene = s.scene := by
  cases effect with
  | none => exact ⟨rfl, rfl⟩
  | some effect =>
    obtain ⟨stage, requests, pending, notices, -, hperform⟩ := s.perform_eq effect
    rw [Option.elim_some, hperform]
    exact ⟨rfl, rfl⟩

/-- What a session carries from line to line is what a reading without a session carries. -/
theorem readLine_eq (s : Session) (focus : Focus) (line : Text) :
    let reading := (Reading.step s.settings ⟨s.scene, focus⟩ line).1
    (readLine (s, focus) line).1.settings = s.settings ∧
      (readLine (s, focus) line).1.scene = reading.scene ∧
      (readLine (s, focus) line).2 = reading.focus := by
  intro reading
  obtain ⟨hsettings, hscene⟩ := elim_perform { s with scene := reading.scene }
    (Reading.step s.settings ⟨s.scene, focus⟩ line).2
  exact ⟨hsettings, hscene, rfl⟩

namespace Abreast
variable {a b : Session × Focus}

/-- **Sessions that are abreast stay so over a line**, whatever it makes each of them do. -/
theorem readLine (h : Abreast a b) (line : Text) :
    Abreast (readLine a line) (readLine b line) := by
  obtain ⟨s, focus⟩ := a
  obtain ⟨t, focus'⟩ := b
  obtain ⟨hsettings, hscene, hfocus⟩ := h
  simp only at hsettings hscene hfocus
  subst hfocus
  obtain ⟨hs, hsScene, hsFocus⟩ := readLine_eq s focus line
  obtain ⟨ht, htScene, htFocus⟩ := readLine_eq t focus line
  rw [← hsettings, ← hscene] at htScene htFocus
  exact ⟨hs.trans (hsettings.trans ht.symm), hsScene.trans htScene.symm,
    hsFocus.trans htFocus.symm⟩

theorem foldl_readLine (h : Abreast a b) (lines : List Text) :
    Abreast (lines.foldl Session.readLine a) (lines.foldl Session.readLine b) := by
  induction lines generalizing a b with
  | nil => exact h
  | cons line lines ih => exact ih (h.readLine line)

end Abreast

/-- **Sessions with the same settings read a script to the same scene**, and stand in the same
scene and focus after each of its lines. -/
theorem abreast_read {s t : Session} (h : s.settings = t.settings) (lines : List Text) :
    Abreast (lines.foldl readLine (s.clear, {})) (lines.foldl readLine (t.clear, {})) :=
  Abreast.foldl_readLine (a := (s.clear, {})) (b := (t.clear, {})) ⟨h, rfl, rfl⟩ lines

/-! ### The answers after a script -/

/-- Two sessions that give the same answers about their scenes and clicks. -/
structure SameAnswers (s t : Session) : Prop where
  scene : s.scene = t.scene
  snapshot : s.scene.snapshot = t.scene.snapshot
  valid : s.scene.valid = t.scene.valid
  thumbnail : s.scene.thumbnail = t.scene.thumbnail
  spawn : s.scene.spawn = t.scene.spawn
  active : s.scene.active? = t.scene.active?
  objectList : s.objectList = t.objectList
  backgroundList : s.backgroundList = t.backgroundList
  kind : ∀ id, s.scene.kind? id = t.scene.kind? id
  texture : ∀ id, s.scene.texture? id = t.scene.texture? id
  objectPosition : ∀ id, s.objectPosition id = t.objectPosition id
  propertiesText : ∀ id, s.propertiesText id = t.propertiesText id
  isClicked : ∀ id, s.isClicked id = t.isClicked id

/-- All answers come from the scene and the clicks. -/
theorem sameAnswers_of_scene {s t : Session} (hscene : s.scene = t.scene)
    (hclicks : s.clicks = t.clicks) : s.SameAnswers t := by
  constructor
  case isClicked => intro id; rw [isClicked, isClicked, hclicks]
  case objectList => rw [objectList, objectList, hscene]
  case backgroundList => rw [backgroundList, backgroundList, hscene]
  case objectPosition => intro id; rw [objectPosition, objectPosition, hscene]
  case propertiesText => intro id; simp only [propertiesText, hscene]
  all_goals simp only [hscene, implies_true]

/-- Sessions with the same settings answer alike about a script that both have read. -/
theorem sameAnswers_of_settings {s t : Session} (h : s.settings = t.settings) (script : Text) :
    (s.read script).SameAnswers (t.read script) := by
  refine sameAnswers_of_scene ?_ ?_
  · exact (abreast_read h (contentLines script)).scene
  · rw [clicks_read, clicks_read]

/-- No operation changes the settings. -/
theorem settings_run (s : Session) (operations : List Operation) :
    (s.run operations).settings = s.settings := by
  induction operations generalizing s with
  | nil => rfl
  | cons operation operations ih => exact (ih _).trans (s.scene_apply operation).1

/-- **What a session answers about a script depends on the script and the settings alone.**
After any two histories, on any stages and with any sources, the answers are the same; they
are those of a session that reads the script first of all, and reading the script twice in a
row gives them again. -/
theorem sameAnswers_read (settings : Settings) (stage stage' : Stage)
    (source source' : TextureSource) (operations operations' : List Operation) (script : Text) :
    let s := (fresh settings stage source).run operations
    let t := (fresh settings stage' source').run operations'
    (s.read script).SameAnswers (t.read script) ∧
      (s.read script).SameAnswers ((fresh settings stage' source').read script) ∧
      ((s.read script).read script).SameAnswers (s.read script) := by
  intro s t
  have hs : s.settings = settings := settings_run _ operations
  have ht : t.settings = settings := settings_run _ operations'
  refine ⟨?_, ?_, ?_⟩
  · exact sameAnswers_of_settings (hs.trans ht.symm) script
  · exact sameAnswers_of_settings hs script
  · exact sameAnswers_of_settings (settings_read s script) script

end Session
end PlanetScript
