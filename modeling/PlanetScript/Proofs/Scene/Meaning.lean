import PlanetScript.Proofs.Scene.Edited

/-! # The scene that lines describe

What a script means can be said without a reader that goes through it.  Every field of the
scene has the last value that a place of the script gives to it, or its default if no place
does: a content line gives a value to a field of the block that is open at its place, about
the id that is current there.  An object takes values from its first declaration on; it is
not touched by further ones.  A background starts again with each declaration, which gives
it the empty texture and makes it inactive.

`Describes` collects these laws for the whole scene, and `describes_run` proves them of the
scene that is read.
-/
namespace PlanetScript
open Text

namespace Place
variable (scope : BlockScope) (p : Place)

/-- What the line of a place gives to a field of an open block; `read` picks it out of the
line. -/
def given? {α : Type} (block : Block) (read : Text → Option α) : Option α :=
  if p.directive = .content ∧ (p.focus scope).block = some block then read p.line else none

/-- What the line of a place gives to a field of an object. -/
def givenTo? {α : Type} (id : Text) (block : Block) (read : Text → Option α) : Option α :=
  if DeclaresObject p.before id ∧ (p.focus scope).id = some id then p.given? scope block read
  else none

/-- The kind that a texture at a place goes to: the one that its directive names, and else
the one that the id stands for. -/
def textureKind? (id : Text) : Option Kind :=
  (p.focus scope).kind.or (declaredKind? p.before id)

/-- The texture that a place gives to an object. -/
def objectTexture? (id : Text) : Option Text :=
  if p.textureKind? scope id = some .object then
    p.givenTo? scope id .texture (restAfter? "url:".toList)
  else none

/-- Whether the line of a place says that a click removes an object. -/
def Removes (id : Text) : Prop :=
  p.directive = .remove ∧ DeclaresObject p.before id ∧
    (p.focus scope).block = some .onClick ∧ (p.focus scope).id = some id

instance (id : Text) : Decidable (p.Removes scope id) := by unfold Removes; infer_instance

/-- The texture that a place gives to a background. -/
def backgroundTexture? (id : Text) : Option Text :=
  if p.directive = .newBackground (some id) then some []
  else if DeclaresBackground p.before id ∧ (p.focus scope).id = some id ∧
      p.textureKind? scope id = some .background then
    (p.given? scope .texture (restAfter? "url:".toList)).map stored
  else none

/-- The background that the line of a place switches to, if it was declared. -/
def switchedTo? : Option Text :=
  match p.directive with
  | .switchBackground (some id) => if DeclaresBackground p.before id then some id else none
  | _ => none

/-- Whether a place makes a background active or inactive. -/
def activity? (id : Text) : Option Bool :=
  if p.directive = .newBackground (some id) then some false
  else p.switchedTo?.map fun target => decide (target = id)

end Place

section Meaning
variable (settings : Settings) (lines : List Text) (id : Text)

/-- A coordinate of an object: what was given last after the key. -/
def coordinateOf (key : Text) : Number :=
  ((lastGiven (·.givenTo? settings.blockScope id .position (restAfter? key)) lines).map
    settings.numberStyle.coordinate).getD .zero

/-- A coordinate of the spawn point: what was given last after the key. -/
def spawnCoordinate (key : Text) : Number :=
  ((lastGiven (·.given? settings.blockScope .spawn (rest? key)) lines).map
    settings.numberStyle.coordinate).getD .zero

/-- The object that lines make of an id. -/
def objectOf : Object where
  position :=
    ⟨coordinateOf settings lines id "x:".toList, coordinateOf settings lines id "y:".toList⟩
  texture := ((lastGiven (·.objectTexture? settings.blockScope id) lines).map stored).getD []
  size := ((lastGiven (·.givenTo? settings.blockScope id .size some) lines).map stored).getD []
  gravity := ((lastGiven (·.givenTo? settings.blockScope id .properties
    (rest? "gravity:".toList)) lines).map Gravity.read).getD .unset
  removedByClick := (places lines).any fun p => p.Removes settings.blockScope id

/-- The background that lines make of an id. -/
def backgroundOf : Background where
  texture := (lastGiven (·.backgroundTexture? settings.blockScope id) lines).getD []
  active := (lastGiven (·.activity? id) lines).getD false

end Meaning

/-- The scene is what the lines describe, field by field. -/
structure Describes (settings : Settings) (lines : List Text) (scene : Scene) : Prop where
  valid : scene.valid = true ↔ ∃ line ∈ lines, Directive.ofLine line = .signature
  thumbnail : scene.thumbnail =
    ((lastGiven (·.given? settings.blockScope .thumbnail (rest? "url:".toList)) lines).map
      stored).getD []
  spawn : scene.spawn =
    ⟨spawnCoordinate settings lines "x:".toList, spawnCoordinate settings lines "y:".toList⟩
  objects : ∀ id, scene.objects.get? id =
    if DeclaresObject lines id then some (objectOf settings lines id) else none
  backgrounds : ∀ id, scene.backgrounds.get? id =
    if DeclaresBackground lines id then some (backgroundOf settings lines id) else none

/-! ### What one more line changes -/

namespace Place

/-- The object after the line of a place. -/
def objectAfter (settings : Settings) (p : Place) (id : Text) (object : Object) : Object where
  position :=
    ⟨((p.givenTo? settings.blockScope id .position (restAfter? "x:".toList)).map
        settings.numberStyle.coordinate).getD object.position.x,
      ((p.givenTo? settings.blockScope id .position (restAfter? "y:".toList)).map
        settings.numberStyle.coordinate).getD object.position.y⟩
  texture := ((p.objectTexture? settings.blockScope id).map stored).getD object.texture
  size := ((p.givenTo? settings.blockScope id .size some).map stored).getD object.size
  gravity := ((p.givenTo? settings.blockScope id .properties
    (rest? "gravity:".toList)).map Gravity.read).getD object.gravity
  removedByClick := object.removedByClick || decide (p.Removes settings.blockScope id)

theorem given?_of_content {α : Type} {scope : BlockScope} {p : Place} (hd : p.directive = .content)
    (block : Block) (read : Text → Option α) :
    p.given? scope block read =
      if (p.focus scope).block = some block then read p.line else none := by
  simp [given?, hd]

theorem given?_of_ne_content {α : Type} {scope : BlockScope} {p : Place}
    (hd : p.directive ≠ .content) (block : Block) (read : Text → Option α) :
    p.given? scope block read = none := by simp [given?, hd]

/-- What a place gives to an object that it is about is what the edit of its line does. -/
theorem objectAfter_eq_of_id (settings : Settings) {p : Place} {id : Text}
    (h : DeclaresObject p.before id) (hid : (p.focus settings.blockScope).id = some id)
    (object : Object) :
    p.objectAfter settings id object =
      (p.edit? settings.blockScope).elim object (·.onObject settings.numberStyle id object) := by
  have hline : Directive.ofLine p.line = p.directive := rfl
  cases hd : p.directive with
  | content =>
    simp only [edit?, Focus.edit?, hline, hd, objectAfter, objectTexture?, givenTo?,
      given?_of_content hd, Removes, textureKind?, declaredKind?, h, true_and, if_true,
      reduceCtorEq, false_and, decide_false, Bool.or_false, hid]
    generalize p.focus settings.blockScope = focus at hid
    cases focus.block with
    | none => simp
    | some block =>
      simp only [Option.bind_some]
      cases block with
      | thumbnail =>
        simp only [Focus.fieldEdit?]
        cases rest? "url:".toList p.line <;> simp [Edit.onObject]
      | texture =>
        simp only [Focus.fieldEdit?, hid, Option.bind_some]
        cases restAfter? "url:".toList p.line with
        | none => simp
        | some url => rcases focus.kind with _ | _ | _ <;> simp [Edit.onObject]
      | position =>
        simp only [Focus.fieldEdit?, hid, Option.bind_some]
        cases restAfter? "x:".toList p.line <;> cases restAfter? "y:".toList p.line <;>
          simp [Edit.onObject, Point.update]
      | properties =>
        simp only [Focus.fieldEdit?, hid, Option.bind_some]
        cases rest? "gravity:".toList p.line <;> simp [Edit.onObject]
      | size => simp [Focus.fieldEdit?, hid, Edit.onObject]
      | spawn | onClick => simp [Focus.fieldEdit?, Edit.onObject]
  | remove =>
    have hne : p.directive ≠ .content := by rw [hd]; exact Directive.noConfusion
    simp only [edit?, Focus.edit?, hline, hd, objectAfter, objectTexture?, givenTo?,
      given?_of_ne_content hne, Removes, h, hid, true_and, and_true, ite_self]
    split
    · next hb => simp [hb, Edit.onObject]
    · next hb => simp [hb]
  | newBackground target | newObject target | switchBackground target =>
    have hne : p.directive ≠ .content := by rw [hd]; exact Directive.noConfusion
    simp only [edit?, Focus.edit?, hline, hd, objectAfter, objectTexture?, givenTo?,
      given?_of_ne_content hne, Removes, reduceCtorEq, false_and, ite_self]
    cases target <;> simp [Edit.onObject]
  | _ =>
    have hne : p.directive ≠ .content := by rw [hd]; exact Directive.noConfusion
    simp only [edit?, Focus.edit?, hline, hd, objectAfter, objectTexture?, givenTo?,
      given?_of_ne_content hne, Removes, reduceCtorEq, false_and, ite_self]
    simp [Edit.onObject]

theorem objectAfter_eq (settings : Settings) {p : Place} {id : Text}
    (h : DeclaresObject p.before id) (object : Object) :
    p.objectAfter settings id object =
      (p.edit? settings.blockScope).elim object (·.onObject settings.numberStyle id object) := by
  by_cases hid : (p.focus settings.blockScope).id = some id
  · exact objectAfter_eq_of_id settings h hid object
  · -- the line is about another id, so it neither gives nor changes anything of this object
    have hleft : p.objectAfter settings id object = object := by
      simp [objectAfter, objectTexture?, givenTo?, Removes, hid]
    rw [hleft]
    cases he : p.edit? settings.blockScope with
    | none => rfl
    | some e =>
      refine (Edit.onObject_of_object?_ne ?_ object).symm
      rcases Focus.object?_of_edit? he with ho | ho
      · rw [ho]; exact nofun
      · rw [ho]; exact hid

/-- The background after the line of a place. -/
def backgroundAfter (settings : Settings) (p : Place) (id : Text) (background : Background) :
    Background where
  texture := (p.backgroundTexture? settings.blockScope id).getD background.texture
  active := (p.activity? id).getD background.active

/-- What a place gives to a background is what the edit of its line does. -/
theorem backgroundAfter_eq (settings : Settings) {p : Place} {id : Text} {scene : Scene}
    (hkind : scene.kind? id = declaredKind? p.before id)
    (hcontains : ∀ target, scene.backgrounds.contains target = true ↔
      DeclaresBackground p.before target)
    (h : DeclaresBackground p.before id) (hnew : p.directive ≠ .newBackground (some id))
    (background : Background) :
    p.backgroundAfter settings id background =
      (p.edit? settings.blockScope).elim background (·.onBackground scene id background) := by
  have hline : Directive.ofLine p.line = p.directive := rfl
  -- activity is about switches, the texture about fields; no other line says anything
  by_cases hs : ∃ target, p.directive = .switchBackground (some target)
  · obtain ⟨target, hd⟩ := hs
    have hne : p.directive ≠ .content := by rw [hd]; exact nofun
    have he : p.edit? settings.blockScope = some (.activate target) :=
      Focus.edit?_eq_some_iff.mpr hd
    rw [he]
    simp only [backgroundAfter, backgroundTexture?, activity?, switchedTo?, hd,
      given?_of_ne_content hne, reduceCtorEq, if_false, Option.map_none, ite_self,
      Option.getD_none, Option.elim_some, Edit.onBackground, hcontains]
    split <;> rfl
  · have hswitch : p.switchedTo? = none := by
      unfold switchedTo?
      split
      · next target hd => exact absurd ⟨target, hd⟩ hs
      · rfl
    by_cases hb : p.directive = .content ∧ (p.focus settings.blockScope).block = some .texture
    · obtain ⟨hd, hb⟩ := hb
      simp only [edit?, Focus.edit?, hline, hd, backgroundAfter, backgroundTexture?, activity?,
        hswitch, given?_of_content hd, textureKind?, h, hb, true_and, reduceCtorEq, if_false,
        if_true, Option.map_none, Option.getD_none, Option.bind_some]
      generalize p.focus settings.blockScope = focus
      cases hi : focus.id with
      | none => simp [Focus.fieldEdit?, hi]
      | some target =>
        simp only [Focus.fieldEdit?, hi, Option.bind_some]
        cases restAfter? "url:".toList p.line with
        | none => simp
        | some url =>
          by_cases ht : target = id
          · subst ht
            simp only [Option.map_some, Option.elim_some, Edit.onBackground, true_and, hkind]
            split <;> rfl
          · simp [Edit.onBackground, ht]
    · have hgiven : p.given? settings.blockScope .texture (restAfter? "url:".toList) = none :=
        if_neg hb
      have hleft : p.backgroundAfter settings id background = background := by
        simp only [backgroundAfter, backgroundTexture?, activity?, hswitch, hgiven, if_neg hnew,
          Option.map_none, ite_self, Option.getD_none]
      rw [hleft]
      cases he : p.edit? settings.blockScope with
      | none => rfl
      | some e =>
        have hmakes := Focus.edit?_eq_some_iff.mp he
        refine (Edit.onBackground_of_ne ?_ ?_ background).symm
        · rintro target kind url rfl
          exact hb ⟨hmakes.1, hmakes.2.1⟩
        · rintro target rfl
          exact hs ⟨target, hmakes⟩

/-- The scene after the line of a place. -/
def sceneAfter (settings : Settings) (p : Place) (scene : Scene) : Scene :=
  (p.edit? settings.blockScope).elim scene (scene.edited settings.numberStyle)

theorem thumbnail_sceneAfter (settings : Settings) (p : Place) (scene : Scene) :
    (p.sceneAfter settings scene).thumbnail =
      ((p.given? settings.blockScope .thumbnail (rest? "url:".toList)).map stored).getD
        scene.thumbnail := by
  have hgiven : ∀ url, (p.given? settings.blockScope .thumbnail (rest? "url:".toList)).map stored =
      some url ↔ p.edit? settings.blockScope = some (.thumbnail url) := by
    intro url
    rw [edit?, Focus.edit?_eq_some_iff, given?]
    show _ ↔ p.directive = .content ∧ _
    split <;> simp_all
  unfold sceneAfter
  cases hg : (p.given? settings.blockScope .thumbnail (rest? "url:".toList)).map stored with
  | some url => rw [(hgiven url).mp hg]; rfl
  | none =>
    cases he : p.edit? settings.blockScope with
    | none => rfl
    | some e =>
      refine Scene.thumbnail_edited _ _ fun url hurl => ?_
      rw [hurl, ← hgiven, hg] at he
      cases he

theorem spawn_sceneAfter (settings : Settings) (p : Place) (scene : Scene) :
    (p.sceneAfter settings scene).spawn =
      scene.spawn.update settings.numberStyle
        (p.given? settings.blockScope .spawn (rest? "x:".toList))
        (p.given? settings.blockScope .spawn (rest? "y:".toList)) := by
  have hmakes : ∀ x y, p.edit? settings.blockScope = some (.spawn x y) ↔
      (p.directive = .content ∧ (p.focus settings.blockScope).block = some .spawn) ∧
        x = rest? "x:".toList p.line ∧ y = rest? "y:".toList p.line := by
    intro x y
    rw [edit?, Focus.edit?_eq_some_iff, and_assoc]
    rfl
  unfold sceneAfter given?
  by_cases hs : p.directive = .content ∧ (p.focus settings.blockScope).block = some .spawn
  · rw [(hmakes _ _).mpr ⟨hs, rfl, rfl⟩, if_pos hs, if_pos hs]
    rfl
  · rw [if_neg hs, if_neg hs]
    cases he : p.edit? settings.blockScope with
    | none => rfl
    | some e =>
      refine Scene.spawn_edited _ _ fun x y hxy => ?_
      rw [hxy, hmakes] at he
      exact hs he.1

end Place

section Concat
variable (settings : Settings) (lines : List Text) (line id : Text)

theorem objectOf_concat :
    objectOf settings (lines ++ [line]) id =
      Place.objectAfter settings ⟨lines, line⟩ id (objectOf settings lines id) := by
  simp only [objectOf, coordinateOf, Place.objectAfter, lastGiven_concat, Option.map_or,
    Option.getD_or, places_concat, List.any_append, List.any_cons, List.any_nil, Bool.or_false]

theorem backgroundOf_concat :
    backgroundOf settings (lines ++ [line]) id =
      Place.backgroundAfter settings ⟨lines, line⟩ id (backgroundOf settings lines id) := by
  simp only [backgroundOf, Place.backgroundAfter, lastGiven_concat, Option.getD_or]

end Concat

/-- An object is as new before its declaration. -/
theorem objectOf_of_not_declaresObject (settings : Settings) {lines : List Text} {id : Text}
    (h : ¬ DeclaresObject lines id) : objectOf settings lines id = {} := by
  induction lines using List.reverseRecOn with
  | nil => rfl
  | append_singleton lines line ih =>
    have hlines : ¬ DeclaresObject lines id := fun hd => h (declaresObject_concat.mpr (Or.inl hd))
    rw [objectOf_concat, ih hlines]
    simp [Place.objectAfter, Place.objectTexture?, Place.givenTo?, Place.Removes, hlines]

namespace Describes
variable {settings : Settings} {lines : List Text} {scene : Scene}

theorem contains_objects (h : Describes settings lines scene) (id : Text) :
    scene.objects.contains id = true ↔ DeclaresObject lines id := by
  rw [Registry.contains, h.objects id]
  split <;> simp_all

theorem contains_objects_eq (h : Describes settings lines scene) :
    scene.objects.contains = fun id => decide (DeclaresObject lines id) := by
  funext id
  rw [Bool.eq_iff_iff, h.contains_objects, decide_eq_true_iff]

theorem contains_backgrounds (h : Describes settings lines scene) (id : Text) :
    scene.backgrounds.contains id = true ↔ DeclaresBackground lines id := by
  rw [Registry.contains, h.backgrounds id]
  split <;> simp_all

theorem kind?_eq (h : Describes settings lines scene) (id : Text) :
    scene.kind? id = declaredKind? lines id := by
  simp only [Scene.kind?, declaredKind?, h.contains_objects, h.contains_backgrounds]

theorem valid_sceneAfter (h : Describes settings lines scene) (line : Text) :
    (Place.sceneAfter settings ⟨lines, line⟩ scene).valid = true ↔
      ∃ l ∈ lines ++ [line], Directive.ofLine l = .signature := by
  have hsignature : Directive.ofLine line = .signature ↔
      Place.edit? settings.blockScope ⟨lines, line⟩ = some .validate := by
    rw [Place.edit?, Focus.edit?_eq_some_iff]
    rfl
  simp only [List.mem_append, List.mem_singleton, or_and_right, exists_or, exists_eq_left,
    hsignature, ← h.valid, Place.sceneAfter]
  cases Place.edit? settings.blockScope ⟨lines, line⟩ <;> simp [Scene.valid_edited]

theorem objects_sceneAfter (h : Describes settings lines scene) (line id : Text) :
    (Place.sceneAfter settings ⟨lines, line⟩ scene).objects.get? id =
      if DeclaresObject (lines ++ [line]) id then some (objectOf settings (lines ++ [line]) id)
      else none := by
  rw [objectOf_concat, Place.sceneAfter]
  have hget := h.objects id
  by_cases hd : DeclaresObject lines id
  · rw [if_pos hd] at hget
    rw [if_pos (declaresObject_concat.mpr (Or.inl hd)), Place.objectAfter_eq settings hd]
    cases Place.edit? settings.blockScope ⟨lines, line⟩ with
    | none => exact hget
    | some e =>
      simp only [Option.elim_some, Scene.get?_objects_edited, hget]
      split
      · next he => subst he; rfl
      · rfl
  · rw [if_neg hd] at hget
    -- the line that declares an object is not yet about it
    have hfresh : Place.objectAfter settings ⟨lines, line⟩ id {} = {} := by
      simp [Place.objectAfter, Place.objectTexture?, Place.givenTo?, Place.Removes, hd]
    have hnew : DeclaresObject (lines ++ [line]) id ↔
        Place.edit? settings.blockScope ⟨lines, line⟩ = some (.declareObject id) := by
      rw [declaresObject_concat, Place.edit?, Focus.edit?_eq_some_iff]
      exact or_iff_right hd
    simp only [objectOf_of_not_declaresObject settings hd, hfresh, hnew]
    cases Place.edit? settings.blockScope ⟨lines, line⟩ with
    | none => simpa using hget
    | some e => simp [Scene.get?_objects_edited, hget]

theorem backgrounds_sceneAfter (h : Describes settings lines scene) (line id : Text) :
    (Place.sceneAfter settings ⟨lines, line⟩ scene).backgrounds.get? id =
      if DeclaresBackground (lines ++ [line]) id then
        some (backgroundOf settings (lines ++ [line]) id)
      else none := by
  rw [backgroundOf_concat, Place.sceneAfter]
  have hget := h.backgrounds id
  have hnew : Directive.ofLine line = .newBackground (some id) ↔
      Place.edit? settings.blockScope ⟨lines, line⟩ = some (.declareBackground id) := by
    rw [Place.edit?, Focus.edit?_eq_some_iff]
    rfl
  by_cases hline : Directive.ofLine line = .newBackground (some id)
  · rw [if_pos (declaresBackground_concat.mpr (Or.inr hline)), hnew.mp hline]
    simp [Scene.get?_backgrounds_edited, Place.backgroundAfter, Place.backgroundTexture?,
      Place.activity?, Place.directive, hline]
  · by_cases hd : DeclaresBackground lines id
    · rw [if_pos hd] at hget
      have hafter := Place.backgroundAfter_eq settings (p := ⟨lines, line⟩) (h.kind?_eq id)
        h.contains_backgrounds hd hline (backgroundOf settings lines id)
      rw [if_pos (declaresBackground_concat.mpr (Or.inl hd)), hafter]
      cases he : Place.edit? settings.blockScope ⟨lines, line⟩ with
      | none => exact hget
      | some e =>
        have hne : e ≠ .declareBackground id := fun h => hline (hnew.mpr (h ▸ he))
        simp [Scene.get?_backgrounds_edited, hget, hne]
    · rw [if_neg hd] at hget
      rw [if_neg fun hc => (declaresBackground_concat.mp hc).elim hd hline]
      cases he : Place.edit? settings.blockScope ⟨lines, line⟩ with
      | none => exact hget
      | some e =>
        have hne : e ≠ .declareBackground id := fun h => hline (hnew.mpr (h ▸ he))
        simp [Scene.get?_backgrounds_edited, hget, hne]

/-- **One more line.**  If the lines describe a scene, they and one more describe what that
line makes of it. -/
theorem concat (h : Describes settings lines scene) (line : Text) :
    Describes settings (lines ++ [line]) (Place.sceneAfter settings ⟨lines, line⟩ scene) where
  valid := h.valid_sceneAfter line
  thumbnail := by
    rw [Place.thumbnail_sceneAfter, lastGiven_concat, Option.map_or, Option.getD_or, ← h.thumbnail]
  spawn := by
    rw [Place.spawn_sceneAfter, h.spawn]
    simp only [spawnCoordinate, lastGiven_concat, Option.map_or, Option.getD_or, Point.update]
  objects := h.objects_sceneAfter line
  backgrounds := h.backgrounds_sceneAfter line

end Describes

/-- What one more line makes of the scene that is read. -/
theorem Reading.scene_run_concat (settings : Settings) (lines : List Text) (line : Text) :
    (Reading.run settings {} (lines ++ [line])).scene =
      Place.sceneAfter settings ⟨lines, line⟩ (Reading.run settings {} lines).scene := by
  rw [Reading.scene_run, Reading.scene_run, edits_concat, List.foldl_append]
  show _ = ((focusAt settings.blockScope lines).edit? line).elim _ _
  cases (focusAt settings.blockScope lines).edit? line <;> rfl

/-- **The scene that is read is the one that the lines describe.** -/
theorem describes_run (settings : Settings) (lines : List Text) :
    Describes settings lines (Reading.run settings {} lines).scene := by
  induction lines using List.reverseRecOn with
  | nil => exact ⟨by simp [Reading.run], rfl, rfl, fun _ => rfl, fun _ => rfl⟩
  | append_singleton lines line ih =>
    rw [Reading.scene_run_concat]
    exact ih.concat line

-- a declaration takes over the block that is open
example :
    let lines := ["new Object:a;".toList, "setSizeOf with id \"a\"".toList, "small".toList,
      "new Object:b;".toList, "huge".toList]
    (objectOf {} lines "a".toList).size = "small".toList ∧
      (objectOf {} lines "b".toList).size = "huge".toList := by decide

end PlanetScript
