import PlanetScript.Proofs.Session.Following
import PlanetScript.Proofs.Texture.Landing

/-! # Textures reach the stage

An edit that gives an id another texture to show asks for the texture to be shown
(`Scene.texture?_edited`).  A session that follows a script therefore keeps this invariant:
the last sync on its way to the first name that is bound to an id carries the texture of
that id (`Session.Showing`).  Syncs of earlier scripts stand before it in the queue, and
those of other ids go to other names.

When every sync lands, the sprite wears what the scene says.
-/
namespace PlanetScript
open Text

namespace Scene
variable {style : NumberStyle} {scene : Scene} {e : Edit} {id url : Text}

theorem texture?_edited_of_ne (ho : e ≠ .declareObject id) (hb : e ≠ .declareBackground id)
    (ht : ∀ kind url, e ≠ .texture id kind url) :
    (scene.edited style e).texture? id = scene.texture? id := by
  unfold texture?
  rw [get?_objects_edited, get?_backgrounds_edited, if_neg ho, if_neg hb]
  cases scene.objects.get? id with
  | some object => exact congrArg some (Edit.texture_onObject ht object)
  | none =>
    cases scene.backgrounds.get? id with
    | some background => exact congrArg some (Edit.texture_onBackground ht background)
    | none => rfl

/-- A declaration gives no id a texture. -/
theorem texture?_edited_of_declaration (hurl : url ≠ [])
    (hd : e = .declareObject id ∨ e = .declareBackground id)
    (h : (scene.edited style e).texture? id = some url) : scene.texture? id = some url := by
  unfold texture? at h ⊢
  rw [get?_objects_edited, get?_backgrounds_edited] at h
  rcases hd with rfl | rfl
  · rw [if_pos rfl] at h
    cases ho : scene.objects.get? id with
    | some object => rwa [ho] at h
    | none =>
      rw [ho] at h
      exact absurd (Option.some.inj h).symm hurl
  · rw [if_neg nofun, if_pos rfl] at h
    cases ho : scene.objects.get? id with
    | some object => rwa [ho] at h
    | none =>
      rw [ho] at h
      exact absurd (Option.some.inj h).symm hurl

/-- **Where an id has another texture to show after an edit, the edit asks for it to be
shown.** -/
theorem texture?_edited (hurl : url ≠ [])
    (h : (scene.edited style e).texture? id = some url) :
    scene.texture? id = some url ∨ scene.effect? e = some (.showTexture id) := by
  by_cases hd : e = .declareObject id ∨ e = .declareBackground id
  · exact Or.inl (texture?_edited_of_declaration hurl hd h)
  · rw [not_or] at hd
    by_cases ht : ∃ kind stored, e = .texture id kind stored
    · obtain ⟨kind, stored, rfl⟩ := ht
      simp only [edited] at h
      simp only [effect?]
      cases hs : scene.storeTexture? kind id stored with
      | none =>
        rw [hs] at h
        exact Or.inl h
      | some taken => exact Or.inr rfl
    · rw [texture?_edited_of_ne hd.1 hd.2 fun kind stored he => ht ⟨kind, stored, he⟩] at h
      exact Or.inl h

end Scene

namespace Session

/-! ### The last sync to a name -/

section LastSync
variable {s : Session} {e : Edit} {id name url : Text}

/-- The first name that is bound to an id is bound to this id. -/
theorem get?_bindings_of_head? (h : (s.namesOf id).head? = some name) :
    s.bindings.get? name = some id := by
  obtain ⟨target, hget, htarget⟩ := Registry.mem_keysWhere_iff.mp (List.mem_of_head? h)
  rw [hget, of_decide_eq_true htarget]

/-- The texture of an id is sent to the first name that is bound to it. -/
theorem pending_showTexture (hname : (s.namesOf id).head? = some name)
    (hstage : s.stage.has name = true) (htexture : s.scene.texture? id = some url)
    (hurl : url ≠ []) :
    (s.showTexture id).1.pending =
      s.pending.push (.issue id name url (s.source.answer url)) := by
  have hdispatch : s.dispatch id = .send name url :=
    dispatch_eq_send_iff.mpr ⟨⟨htexture, hurl⟩, hname, hstage⟩
  unfold showTexture
  rw [hdispatch]
  rfl

/-- No sync of another id goes to a name. -/
theorem lastTo?_showTexture_of_ne (hname : s.bindings.get? name = some id) {other : Text}
    (hne : other ≠ id) : (s.showTexture other).1.pending.lastTo? name = s.pending.lastTo? name := by
  unfold showTexture
  cases hd : s.dispatch other with
  | nothing => rfl
  | noSprite sprite => rfl
  | send sprite target =>
    obtain ⟨-, hhead, -⟩ := dispatch_eq_send_iff.mp hd
    -- a name is bound to one id, so the first name of another id is another name
    have hsprite : sprite ≠ name := by
      rintro rfl
      have hget := get?_bindings_of_head? hhead
      rw [hname] at hget
      exact hne (Option.some.inj hget).symm
    exact (Backlog.lastTo?_push ..).trans (if_neg hsprite)

theorem lastTo?_follow_of_ne (hname : s.bindings.get? name = some id)
    (hne : s.scene.effect? e ≠ some (.showTexture id)) :
    (s.follow e).pending.lastTo? name = s.pending.lastTo? name := by
  unfold follow
  cases he : s.scene.effect? e with
  | none => rfl
  | some effect =>
    cases effect with
    | ignored line => rfl
    | showTexture other =>
      have hother : other ≠ id := by
        rintro rfl
        exact hne he
      exact lastTo?_showTexture_of_ne (s := s.editScene e) hname hother
    | followPosition other =>
      obtain ⟨stage, -, h⟩ := (s.editScene e).followPosition_eq other
      show ((s.editScene e).followPosition other).1.pending.lastTo? name = _
      rw [h]
      rfl

end LastSync

/-- The first name of an id is on the stage, and if the id has a texture, then the last sync
to that name carries it. -/
structure Showing (s : Session) (id name : Text) : Prop where
  first : (s.namesOf id).head? = some name
  staged : s.stage.has name = true
  last : ∀ url, url ≠ [] → s.scene.texture? id = some url →
    s.pending.lastTo? name = some (.issue id name url (s.source.answer url))

namespace Showing
variable {s t : Session} {id name : Text}

/-- **Following an edit keeps textures on their way to where they are shown.** -/
theorem follow (h : s.Showing id name) (e : Edit) : (s.follow e).Showing id name where
  first := by
    unfold namesOf
    rw [bindings_follow]
    exact h.first
  staged := by rw [has_follow, h.staged]
  last := by
    intro url hurl htexture
    rw [scene_follow] at htexture
    rw [answer_follow]
    by_cases heffect : s.scene.effect? e = some (.showTexture id)
    · -- the sync that is issued carries the texture that the scene has now
      have hpending := pending_showTexture (s := s.editScene e) h.first h.staged htexture hurl
      unfold Session.follow
      rw [heffect]
      show ((s.editScene e).showTexture id).1.pending.lastTo? name = _
      rw [hpending, Backlog.lastTo?_push]
      exact if_pos rfl
    · -- nothing was issued to this name, and the texture is the one from before
      rw [lastTo?_follow_of_ne (get?_bindings_of_head? h.first) heffect]
      rcases Scene.texture?_edited hurl htexture with hold | heffect'
      · exact h.last url hurl hold
      · exact absurd heffect' heffect

theorem foldl_follow (h : s.Showing id name) (es : List Edit) :
    (es.foldl Session.follow s).Showing id name := by
  induction es generalizing s with
  | nil => exact h
  | cons e es ih => exact ih (h.follow e)

/-- In a cleared session no id has a texture. -/
theorem clear (hfirst : (s.namesOf id).head? = some name) (hstaged : s.stage.has name = true) :
    s.clear.Showing id name := by
  refine ⟨hfirst, hstaged, ?_⟩
  intro url _ htexture
  cases htexture

theorem of_alike (h : t.Showing id name) (halike : s.Alike t) : s.Showing id name where
  first := by
    unfold namesOf
    rw [halike.bindings]
    exact h.first
  staged := by rw [halike.stage, h.staged]
  last := by
    rw [halike.scene, halike.pending, halike.source]
    exact h.last

/-- After reading a script textures are on their way to where they are shown. -/
theorem read (hfirst : (s.namesOf id).head? = some name) (hstaged : s.stage.has name = true)
    (script : Text) : (s.read script).Showing id name :=
  ((clear hfirst hstaged).foldl_follow _).of_alike (s.alike_read script)

end Showing

/-! ### After a script and a flush -/

end Session
end PlanetScript
