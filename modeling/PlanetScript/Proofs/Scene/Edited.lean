import PlanetScript.Proofs.Script.Edit

/-! # What an edit does to one object or background

An edit declares an object, or it changes each object on its own: `Edit.onObject` is the
change of one object, and `Scene.get?_objects_edited` says that these two are all there is.
`Edit.onBackground` and `Scene.get?_backgrounds_edited` are the same for backgrounds, where
a declaration starts again and what an edit does also depends on what the scene knows.
Every fact about what happens to an object or background along a script goes through these.
-/
namespace PlanetScript

namespace Edit

/-- What an edit makes of an object that was declared. -/
def onObject (style : NumberStyle) (id : Text) (object : Object) : Edit → Object
  | .texture target kind url =>
    if target = id ∧ kind ≠ some .background then { object with texture := url } else object
  | .position target x y =>
    if target = id then { object with position := object.position.update style x y } else object
  | .size target word => if target = id then { object with size := word } else object
  | .gravity target raw => if target = id then { object with gravity := .read raw } else object
  | .removeByClick target => if target = id then { object with removedByClick := true } else object
  | _ => object

/-- What an edit of a scene makes of a background that was declared. -/
def onBackground (scene : Scene) (id : Text) (background : Background) : Edit → Background
  | .activate target =>
    if scene.backgrounds.contains target then { background with active := decide (target = id) }
    else background
  | .texture target kind url =>
    if target = id ∧ kind.or (scene.kind? id) = some .background then
      { background with texture := url }
    else background
  | _ => background

/-- The id of the object that an edit may change. -/
def object? : Edit → Option Text
  | .texture id _ _ | .position id _ _ | .size id _ | .gravity id _ | .removeByClick id => some id
  | _ => none

theorem onObject_of_object?_ne {style : NumberStyle} {id : Text} {e : Edit}
    (h : e.object? ≠ some id) (object : Object) : e.onObject style id object = object := by
  cases e <;> simp_all [object?, onObject]

theorem onBackground_of_ne {scene : Scene} {id : Text} {e : Edit}
    (ht : ∀ target kind url, e ≠ .texture target kind url) (ha : ∀ target, e ≠ .activate target)
    (background : Background) : e.onBackground scene id background = background := by
  cases e with
  | texture target kind url => exact absurd rfl (ht target kind url)
  | activate target => exact absurd rfl (ha target)
  | _ => rfl

/-- Only a switch changes whether a declared background is active. -/
theorem active_onBackground {scene : Scene} {id : Text} {e : Edit}
    (h : ∀ target, e ≠ .activate target) (background : Background) :
    (e.onBackground scene id background).active = background.active := by
  cases e with
  | activate target => exact absurd rfl (h target)
  | texture target kind url =>
    simp only [onBackground]
    split <;> rfl
  | _ => rfl

/-- Only a texture line about the id changes the texture. -/
theorem texture_onObject {style : NumberStyle} {id : Text} {e : Edit}
    (h : ∀ kind url, e ≠ .texture id kind url) (object : Object) :
    (e.onObject style id object).texture = object.texture := by
  cases e with
  | texture target kind url =>
    have hne : target ≠ id := fun ht => h kind url (by rw [ht])
    simp [onObject, hne]
  | position | size | gravity | removeByClick =>
    simp only [onObject]
    split <;> rfl
  | _ => rfl

/-- Only an edit of an object's position changes it. -/
theorem position_onObject {style : NumberStyle} {id : Text} {e : Edit}
    (h : ∀ x y, e ≠ .position id x y) (object : Object) :
    (e.onObject style id object).position = object.position := by
  cases e with
  | position target x y =>
    have hne : target ≠ id := fun ht => h x y (by rw [ht])
    simp [onObject, hne]
  | texture | size | gravity | removeByClick =>
    simp only [onObject]
    split <;> rfl
  | _ => rfl

theorem texture_onBackground {scene : Scene} {id : Text} {e : Edit}
    (h : ∀ kind url, e ≠ .texture id kind url) (background : Background) :
    (e.onBackground scene id background).texture = background.texture := by
  cases e with
  | texture target kind url =>
    have hne : target ≠ id := fun ht => h kind url (by rw [ht])
    simp [onBackground, hne]
  | activate target =>
    simp only [onBackground]
    split <;> rfl
  | _ => rfl

end Edit

/-- A line changes no object but the one that it is about. -/
theorem Focus.object?_of_edit? {focus : Focus} {line : Text} {e : Edit}
    (h : focus.edit? line = some e) : e.object? = none ∨ e.object? = focus.id := by
  have hmakes := edit?_eq_some_iff.mp h
  cases e with
  | texture | position => exact Or.inr hmakes.2.2.1.symm
  | size | gravity => exact Or.inr hmakes.2.2.1.symm
  | removeByClick => exact Or.inr hmakes.2.2.symm
  | _ => exact Or.inl rfl

namespace Scene
variable (style : NumberStyle) (scene : Scene) (id : Text)

/-- A texture is no field of the planet itself. -/
theorem planet_storeTexture? (kind : Option Kind) (target url : Text) :
    let stored := (scene.storeTexture? kind target url).getD scene
    stored.valid = scene.valid ∧ stored.thumbnail = scene.thumbnail ∧
      stored.spawn = scene.spawn := by
  unfold storeTexture?
  split
  · split <;> exact ⟨rfl, rfl, rfl⟩
  · split <;> exact ⟨rfl, rfl, rfl⟩
  · exact ⟨rfl, rfl, rfl⟩

theorem valid_edited (e : Edit) :
    (scene.edited style e).valid = (scene.valid || decide (e = .validate)) := by
  cases e with
  | texture kind target url => simp [edited, planet_storeTexture?]
  | activate target => simp only [edited]; split <;> simp [activate]
  | _ => simp [edited, declareBackground, putBackground, declareObject, modifyObject]

theorem thumbnail_edited {e : Edit} (h : ∀ url, e ≠ .thumbnail url) :
    (scene.edited style e).thumbnail = scene.thumbnail := by
  cases e with
  | thumbnail url => exact absurd rfl (h url)
  | texture kind target url => exact (planet_storeTexture? ..).2.1
  | activate target => simp only [edited]; split <;> rfl
  | _ => rfl

theorem spawn_edited {e : Edit} (h : ∀ x y, e ≠ .spawn x y) :
    (scene.edited style e).spawn = scene.spawn := by
  cases e with
  | spawn x y => exact absurd rfl (h x y)
  | texture kind target url => exact (planet_storeTexture? ..).2.2
  | activate target => simp only [edited]; split <;> rfl
  | _ => rfl

theorem get?_objects_modifyObject (target : Text) (f : Object → Object) :
    (scene.modifyObject target f).objects.get? id =
      (scene.objects.get? id).map fun object => if target = id then f object else object := by
  rw [modifyObject, Registry.get?_modify]
  by_cases h : id = target
  · simp [h]
  · simp [h, Ne.symm h]

theorem get?_backgrounds_modifyBackground (target : Text) (f : Background → Background) :
    (scene.modifyBackground target f).backgrounds.get? id =
      (scene.backgrounds.get? id).map fun background =>
        if target = id then f background else background := by
  rw [modifyBackground, Registry.get?_modify]
  by_cases h : id = target
  · simp [h]
  · simp [h, Ne.symm h]

theorem get?_backgrounds_activate (target : Text) :
    (scene.activate target).backgrounds.get? id =
      (scene.backgrounds.get? id).map fun background =>
        { background with active := decide (target = id) } := by
  rw [activate, Registry.get?_modify, deactivateAll, Registry.get?_mapValues]
  by_cases h : id = target
  · simp [h, Function.comp_def]
  · simp [h, Ne.symm h]

theorem get?_objects_eq_none_iff :
    scene.objects.get? id = none ↔ scene.objects.contains id = false := by
  simp [Registry.contains]

/-- An object takes a texture of its id unless the texture is said to be a background's. -/
theorem get?_objects_storeTexture? (kind : Option Kind) (target url : Text) :
    ((scene.storeTexture? kind target url).getD scene).objects.get? id =
      (scene.objects.get? id).map fun object =>
        if target = id ∧ kind ≠ some .background then { object with texture := url }
        else object := by
  cases hc : scene.objects.contains target with
  | true =>
    -- without a kind the texture goes to the object, even if a background has the id too
    have htaken : scene.storeTexture? none target url =
        scene.storeTexture? (some .object) target url := by
      simp [storeTexture?, kind?, hc]
    rcases kind with _ | _ | _
    · rw [htaken]
      simp [storeTexture?, hc, get?_objects_modifyObject]
    · simp [storeTexture?, hc, get?_objects_modifyObject]
    · simp only [storeTexture?, Option.some_or]
      split <;> simp [modifyBackground]
  | false =>
    have hsame : ((scene.storeTexture? kind target url).getD scene).objects = scene.objects := by
      unfold storeTexture?
      split
      · simp [hc]
      · split <;> rfl
      · rfl
    rw [hsame]
    by_cases h : target = id
    · rw [← h, (get?_objects_eq_none_iff scene target).mpr hc]; rfl
    · simp [h]

/-- **An edit declares an object or changes it by itself.** -/
theorem get?_objects_edited (e : Edit) :
    (scene.edited style e).objects.get? id =
      if e = .declareObject id then some ((scene.objects.get? id).getD {})
      else (scene.objects.get? id).map fun object => e.onObject style id object := by
  cases e with
  | declareObject target =>
    simp only [edited, declareObject, Registry.get?_insertIfNew, Edit.declareObject.injEq,
      Edit.onObject, Option.map_id']
    by_cases h : id = target
    · simp [h]
    · simp [h, Ne.symm h]
  | texture target kind url =>
    simp only [edited, get?_objects_storeTexture?, Edit.onObject, reduceCtorEq, if_false]
  | activate target =>
    simp only [edited]
    split <;> simp [activate, Edit.onObject]
  | position | size | gravity | removeByClick =>
    simp only [edited, get?_objects_modifyObject, Edit.onObject, reduceCtorEq, if_false]
  | _ => simp [edited, Edit.onObject, declareBackground, putBackground]

/-- No edit takes an object away. -/
theorem contains_objects_edited (h : scene.objects.contains id = true) (e : Edit) :
    (scene.edited style e).objects.contains id = true := by
  rw [Registry.contains, get?_objects_edited]
  split
  · rfl
  · rw [Option.isSome_map]
    exact h

/-- A background takes a texture of its id if the texture is said to be a background's, or
if nothing is said and no object has the id. -/
theorem get?_backgrounds_storeTexture? (kind : Option Kind) (target url : Text) :
    ((scene.storeTexture? kind target url).getD scene).backgrounds.get? id =
      (scene.backgrounds.get? id).map fun background =>
        if target = id ∧ kind.or (scene.kind? id) = some .background then
          { background with texture := url }
        else background := by
  by_cases htaken : kind.or (scene.kind? target) = some .background
  · cases hc : scene.backgrounds.contains target with
    | true =>
      simp only [storeTexture?, htaken, hc, if_true, Option.getD_some,
        get?_backgrounds_modifyBackground]
      by_cases h : target = id
      · subst h; simp [htaken]
      · simp [h]
    | false =>
      simp only [storeTexture?, htaken, hc, Bool.false_eq_true, if_false, Option.getD_none]
      by_cases h : target = id
      · rw [← h, show scene.backgrounds.get? target = none by simpa [Registry.contains] using hc]
        rfl
      · simp [h]
  · have hsame :
        ((scene.storeTexture? kind target url).getD scene).backgrounds = scene.backgrounds := by
      unfold storeTexture?
      split
      · split <;> rfl
      · contradiction
      · rfl
    rw [hsame]
    by_cases h : target = id
    · subst h; simp [htaken]
    · simp [h]

/-- **An edit declares a background, which starts again, or changes it by itself.** -/
theorem get?_backgrounds_edited (e : Edit) :
    (scene.edited style e).backgrounds.get? id =
      if e = .declareBackground id then some {}
      else (scene.backgrounds.get? id).map fun background =>
        e.onBackground scene id background := by
  cases e with
  | declareBackground target =>
    simp only [edited, declareBackground, putBackground, Registry.get?_insert,
      Edit.declareBackground.injEq, Edit.onBackground, Option.map_id']
    by_cases h : id = target
    · simp [h]
    · simp [h, Ne.symm h]
  | texture target kind url =>
    simp only [edited, get?_backgrounds_storeTexture?, Edit.onBackground, reduceCtorEq, if_false]
  | activate target =>
    simp only [edited, Edit.onBackground, reduceCtorEq, if_false]
    split <;> simp [get?_backgrounds_activate]
  | _ => simp [edited, Edit.onBackground, declareObject, modifyObject]

end Scene
end PlanetScript
