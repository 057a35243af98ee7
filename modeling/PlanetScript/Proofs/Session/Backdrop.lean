import PlanetScript.Proofs.Session.Accounting

/-! # Showing a background

A background is shown when a sprite is bound to it, when a line switches to it, and when a line
stores a texture on it (`ShowsBackground`).  Each of the three shows the texture of the
background's id, and an object that has the same id comes first: then the texture that is sent
is the object's, although it was the background that was bound, switched to or changed
(`Session.pending_showsBackground`).  Without such an object it is the background's own texture
that is sent, if it has one and the first name that is bound to it is on the stage.
-/
namespace PlanetScript
open Text

/-- A texture is stored on a declared background that takes it. -/
theorem Scene.storeTexture?_background {scene : Scene} {kind : Option Kind} {id : Text}
    (hkind : kind.or (scene.kind? id) = some .background)
    (hdeclared : scene.backgrounds.contains id = true) (url : Text) :
    scene.storeTexture? kind id url =
      some (scene.modifyBackground id fun background => { background with texture := url }) := by
  simp only [storeTexture?, hkind, if_pos hdeclared]

namespace Session

/-- The sync that takes a texture to the first name that is bound to an id, if there is a
texture and the name is on the stage. -/
def syncTo? (s : Session) (id url : Text) : Option Sync :=
  if url = [] then none
  else (s.namesOf id).head?.bind fun sprite =>
    if s.stage.has sprite then some (.issue id sprite url (s.source.answer url)) else none

/-- A background of an id is shown: `s` is the session at this moment, and `t` the session
when it was shown. -/
inductive ShowsBackground : Session → Session → Text → Prop
  /-- A sprite is bound to a declared background. -/
  | bound {s : Session} (sprite : Text) {id : Text}
      (hdeclared : s.scene.backgrounds.contains id = true) :
      ShowsBackground { s with bindings := s.bindings.insert sprite id }
        (s.bindBackground sprite id) id
  /-- A line switches to a declared background. -/
  | switched {s : Session} {focus : Focus} {line id : Text}
      (hline : Directive.ofLine line = .switchBackground (some id))
      (hdeclared : s.scene.backgrounds.contains id = true) :
      ShowsBackground (s.editScene (.activate id)) (readLine (s, focus) line).1 id
  /-- A line stores a texture on a declared background. -/
  | stored {s : Session} {focus : Focus} {line id url : Text} {kind : Option Kind}
      (hline : focus.edit? line = some (.texture id kind url))
      (hkind : kind.or (s.scene.kind? id) = some .background)
      (hdeclared : s.scene.backgrounds.contains id = true) :
      ShowsBackground (s.editScene (.texture id kind url)) (readLine (s, focus) line).1 id

section Show
variable (s : Session) (id : Text)

theorem syncOf?_eq : s.syncOf? id = (s.scene.texture? id).bind (s.syncTo? id) := by
  unfold syncOf? dispatch syncTo?
  cases s.scene.texture? id with
  | none => rfl
  | some url =>
    by_cases hurl : url = []
    · simp [hurl]
    · have hnonEmpty : nonEmpty? url = some url := nonEmpty?_eq_some_iff.mpr ⟨rfl, hurl⟩
      simp only [Option.bind_some, hnonEmpty, if_neg hurl]
      cases (s.namesOf id).head? with
      | none => rfl
      | some sprite => cases h : s.stage.has sprite <;> simp [h]

/-- Showing a texture puts its sync behind the others. -/
theorem pending_showTexture_eq :
    (s.showTexture id).1.pending =
      s.pending ++ ((s.scene.texture? id).bind (s.syncTo? id)).toList := by
  rw [← syncOf?_eq]
  unfold showTexture syncOf?
  cases s.dispatch id with
  | nothing => exact (List.append_nil _).symm
  | noSprite sprite => exact (List.append_nil _).symm
  | send sprite url => rfl

end Show

/-- What has to hold of the queue when a background is shown: the texture that is sent is the
object's if an object has the id, and the background's if none has. -/
structure Sends (s t : Session) (id : Text) (background : Background) : Prop where
  own : s.scene.objects.get? id = none →
    t.pending = s.pending ++ (s.syncTo? id background.texture).toList
  other : ∀ object, s.scene.objects.get? id = some object →
    t.pending = s.pending ++ (s.syncTo? id object.texture).toList ∨
      (background.texture = [] ∧ t.pending = s.pending)

/-- What showing the texture of an id sends. -/
theorem sends_showTexture {s : Session} {id : Text} {background : Background}
    (h : s.scene.backgrounds.get? id = some background) :
    s.Sends (s.showTexture id).1 id background := by
  constructor
  · intro hnone
    have htexture : s.scene.texture? id = some background.texture := by
      rw [Scene.texture?, hnone, h]
      rfl
    rw [pending_showTexture_eq, htexture, Option.bind_some]
  · intro object hobject
    have htexture : s.scene.texture? id = some object.texture := by
      rw [Scene.texture?, hobject]
    rw [pending_showTexture_eq, htexture, Option.bind_some]
    exact Or.inl rfl

theorem sends_bindBackground {s : Session} (sprite : Text) {id : Text} {background : Background}
    (h : s.scene.backgrounds.get? id = some background) :
    { s with bindings := s.bindings.insert sprite id }.Sends (s.bindBackground sprite id) id
      background := by
  unfold bindBackground
  rw [h, Option.bind_some]
  cases htexture : background.texture with
  | nil =>
    have hnothing : ∀ t : Session, t.syncTo? id [] = none := fun t => if_pos rfl
    constructor
    · intro _
      rw [htexture, hnothing, Option.toList_none, List.append_nil]
      rfl
    · exact fun _ _ => Or.inr ⟨htexture, rfl⟩
  | cons c url => exact sends_showTexture h

/-- A session shows the texture of an id when it follows an edit that asks for this. -/
theorem follow_of_showTexture {s : Session} {e : Edit} {id : Text}
    (h : s.scene.effect? e = some (.showTexture id)) :
    s.follow e = ((s.editScene e).showTexture id).1 := by
  rw [follow, h]
  rfl

/-- **What is sent when a background is shown.**  The background is declared at this moment; if
no object has its id, exactly one sync is queued when its texture is not empty and the first
name that is bound to it is on the stage, and it takes the background's own texture there; if an
object has the id, the texture that is sent is the object's. -/
theorem pending_showsBackground {s t : Session} {id : Text} (h : ShowsBackground s t id) :
    ∃ background, s.scene.backgrounds.get? id = some background ∧ s.Sends t id background := by
  cases h with
  | @bound s sprite _ hdeclared =>
    obtain ⟨background, hbackground⟩ := Option.isSome_iff_exists.mp hdeclared
    exact ⟨background, hbackground, sends_bindBackground sprite hbackground⟩
  | @switched s focus line _ hline hdeclared =>
    have hedit : focus.edit? line = some (.activate id) := Focus.edit?_eq_some_iff.mpr hline
    have heffect : s.scene.effect? (.activate id) = some (.showTexture id) := if_pos hdeclared
    obtain ⟨background, hbackground⟩ := Option.isSome_iff_exists.mp hdeclared
    have hafter : (s.editScene (.activate id)).scene.backgrounds.get? id =
        some { background with active := true } := by
      show (s.scene.edited s.settings.numberStyle (.activate id)).backgrounds.get? id = _
      rw [Scene.get?_backgrounds_edited, if_neg (by simp), hbackground]
      simp [Edit.onBackground, hdeclared]
    rw [readLine_of_edit? s hedit, follow_of_showTexture heffect]
    exact ⟨_, hafter, sends_showTexture hafter⟩
  | @stored s focus line _ url kind hline hkind hdeclared =>
    have hstored := Scene.storeTexture?_background hkind hdeclared url
    have heffect : s.scene.effect? (.texture id kind url) = some (.showTexture id) := by
      rw [Scene.effect?, hstored, Option.map_some]
    obtain ⟨background, hbackground⟩ := Option.isSome_iff_exists.mp hdeclared
    have hafter : (s.editScene (.texture id kind url)).scene.backgrounds.get? id =
        some { background with texture := url } := by
      show (s.scene.edited s.settings.numberStyle (.texture id kind url)).backgrounds.get? id = _
      rw [Scene.get?_backgrounds_edited, if_neg (by simp), hbackground]
      simp [Edit.onBackground, hkind]
    rw [readLine_of_edit? s hline, follow_of_showTexture heffect]
    exact ⟨_, hafter, sends_showTexture hafter⟩

/-- A planet with a sky, and an object of the same id. -/
def sharedId : Text :=
  ("new Background:a;\nsetTextureOf(Background) with id \"a\"\nurl: sky.png;\n" ++
    "new Object:a;\nsetTextureOf(Object) with id \"a\"\nurl: rock.png;").toList

/-- A sprite that is bound to a background gets the texture of an object of the same id. -/
theorem bindBackground_sharedId :
    let s := (fresh {} [{ name := "Stage".toList }] .empty).run [.read sharedId]
    let t := s.bindBackground "Stage".toList "a".toList
    s.scene.backgrounds.get? "a".toList = some { texture := "sky.png".toList } ∧
      t.pending.map (·.url) = ["rock.png".toList] := by
  decide +kernel

/-- Without the object it gets the background's. -/
theorem pending_showsBackground_sky :
    let s := (fresh {} [{ name := "Stage".toList }] .empty).run
      [.read "new Background:a;\nsetTextureOf(Background) with id \"a\"\nurl: sky.png;".toList]
    let bound := { s with bindings := s.bindings.insert "Stage".toList "a".toList }
    ShowsBackground bound (s.bindBackground "Stage".toList "a".toList) "a".toList ∧
      ∃ background, bound.scene.backgrounds.get? "a".toList = some background ∧
        bound.Sends (s.bindBackground "Stage".toList "a".toList) "a".toList background := by
  intro s bound
  have hdeclared : s.scene.backgrounds.contains "a".toList = true := by decide
  have hshows : ShowsBackground bound (s.bindBackground "Stage".toList "a".toList) "a".toList :=
    .bound "Stage".toList hdeclared
  exact ⟨hshows, pending_showsBackground hshows⟩

end Session
end PlanetScript
