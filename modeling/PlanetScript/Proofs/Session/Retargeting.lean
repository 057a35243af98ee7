import PlanetScript.Proofs.Scene.Commuting

/-! # Fields behind a declaration

A declaration points the open block at what it declares, an id and a kind
(`focusAt_of_declaredLast`).  The id counts in every block of an id, but the kind counts for
textures alone: the other blocks are of objects, whatever kind was declared last
(`Block.objectOnly`).

So behind the declaration of an object no field is given to a background, and behind that of a
background no texture is given to an object.  But an object that has the id of the background takes
the other fields, just as if the line were about the object.
-/
namespace PlanetScript
open Text

/-- The kind and the id that a directive declares. -/
def Directive.declared? : Directive → Option (Kind × Text)
  | .newObject (some id) => some (.object, id)
  | .newBackground (some id) => some (.background, id)
  | _ => none

/-- Whether the id that fields go to was declared by the last line that says so. -/
def DeclaredLast (lines : List Text) (kind : Kind) (id : Text) : Prop :=
  ∃ before line between, lines = before ++ line :: between ∧
    (Directive.ofLine line).declared? = some (kind, id) ∧
    ∀ other ∈ between, (Directive.ofLine other).subject? = none

/-- Whether the fields of a block go to an object, whatever kind its id was declared as. -/
def Block.objectOnly : Block → Bool
  | .position | .size | .properties | .onClick => true
  | _ => false

theorem Directive.subject?_of_declared? {d : Directive} {kind : Kind} {id : Text}
    (h : d.declared? = some (kind, id)) : d.subject? = some ⟨some id, some kind⟩ := by
  cases d with
  | newObject target | newBackground target => cases target <;> cases h; rfl
  | _ => cases h

/-- What was declared last is what fields go to. -/
theorem focusAt_of_declaredLast {lines : List Text} {kind : Kind} {id : Text}
    (h : DeclaredLast lines kind id) (scope : BlockScope) :
    focusAt scope lines = ⟨openBlock? scope lines, some id, some kind⟩ := by
  obtain ⟨before, line, between, rfl, hdeclared, hbetween⟩ := h
  have hsaid : lastSaid Directive.subject? (before ++ line :: between) =
      some ⟨some id, some kind⟩ := by
    have hnone : (between.filterMap fun other => (Directive.ofLine other).subject?) = [] :=
      List.filterMap_eq_nil_iff.mpr hbetween
    rw [lastSaid, List.filterMap_append, List.filterMap_cons,
      Directive.subject?_of_declared? hdeclared, hnone, List.getLast?_append]
    rfl
  rw [focusAt, currentId?, currentKind?, hsaid]
  rfl

/-! ### Edits that reach one table -/

namespace Scene
variable {style : NumberStyle} {scene : Scene} {e : Edit}

/-- A field that is not a background's texture changes no background. -/
theorem backgrounds_edited_of_field (he : e.field?.isSome = true)
    (hkind : ∀ target kind url, e = .texture target kind url → kind = some .object) :
    (scene.edited style e).backgrounds = scene.backgrounds := by
  cases e with
  | texture target kind url =>
    obtain rfl := hkind target kind url rfl
    simp only [edited, storeTexture?, Option.some_or]
    split <;> rfl
  | validate | declareBackground | declareObject | activate => cases he
  | _ => rfl

/-- A field that is not an object's texture changes no object, unless it is another field of an
object that there is. -/
theorem objects_edited_of_field (he : e.field?.isSome = true)
    (hkind : ∀ target kind url, e = .texture target kind url → kind = some .background)
    (hobject : ∀ block target, e.field? = some (block, some target) →
      block.objectOnly = true → scene.objects.contains target = false) :
    (scene.edited style e).objects = scene.objects := by
  cases e with
  | texture target kind url =>
    obtain rfl := hkind target kind url rfl
    simp only [edited, storeTexture?, Option.some_or]
    split <;> rfl
  | validate | declareBackground | declareObject | activate => cases he
  | position target | size target | gravity target | removeByClick target =>
    have hcontains := hobject _ target rfl rfl
    rw [edited, modifyObject_of_contains_eq_false hcontains]
  | _ => rfl

end Scene

namespace Place
variable {scope : BlockScope} {p : Place}

/-- Content and removals give a field of the id that the lines before are about, or make no
edit. -/
theorem edit?_eq_none_or_field (scope : BlockScope) (p : Place)
    (hline : p.directive = .content ∨ p.directive = .remove) :
    p.edit? scope = none ∨ ∃ e block, p.edit? scope = some e ∧
      (p.focus scope).block = some block ∧
      e.field? = some (block, if block.takesId = true then (p.focus scope).id else none) := by
  cases hedit : p.edit? scope with
  | none => exact Or.inl rfl
  | some e =>
    cases hblock : (p.focus scope).block with
    | none => cases (Focus.edit?_eq_none_of_block hblock hline).symm.trans hedit
    | some block =>
      exact Or.inr ⟨e, block, rfl, rfl, (Focus.field?_of_edit? hline hblock hedit).1⟩

/-- A texture is of the kind that the lines before are about. -/
theorem kind_of_edit? {kind : Option Kind} {target url : Text}
    (h : p.edit? scope = some (.texture target kind url)) : kind = (p.focus scope).kind := by
  obtain ⟨-, -, -, hkind, -⟩ := Focus.edit?_eq_some_iff.mp h
  exact hkind

/-- What a line that declares nothing leaves of the scene. -/
theorem sceneAfter_eq_or_field (settings : Settings) (scene : Scene)
    (hline : p.directive = .content ∨ p.directive = .remove) :
    p.sceneAfter settings scene = scene ∨ ∃ e block, p.edit? settings.blockScope = some e ∧
      p.sceneAfter settings scene = scene.edited settings.numberStyle e ∧
      (p.focus settings.blockScope).block = some block ∧ e.field? =
        some (block, if block.takesId = true then (p.focus settings.blockScope).id else none) := by
  rcases p.edit?_eq_none_or_field settings.blockScope hline with
    hnone | ⟨e, block, he, hblock, hfield⟩
  · exact Or.inl (by rw [sceneAfter, hnone]; rfl)
  · exact Or.inr ⟨e, block, he, by rw [sceneAfter, he]; rfl, hblock, hfield⟩

section DeclaredLast
variable {settings : Settings} {scene : Scene} {id : Text}
  (hline : p.directive = .content ∨ p.directive = .remove)
include hline

theorem keys_sceneAfter :
    (p.sceneAfter settings scene).objects.keys = scene.objects.keys := by
  rcases p.sceneAfter_eq_or_field settings scene hline with hsame | ⟨e, _, -, hedited, -, hfield⟩
  · rw [hsame]
  · rw [hedited]
    exact (Scene.keys_edited_of_field scene (by rw [hfield]; rfl)).1

/-- A line that declares nothing changes each object by itself. -/
theorem get?_objects_sceneAfter (h : Describes settings p.before scene) (other : Text) :
    (p.sceneAfter settings scene).objects.get? other =
      (scene.objects.get? other).map (p.objectAfter settings other) := by
  have hafter : ∀ object, scene.objects.get? other = some object →
      p.objectAfter settings other object = (p.edit? settings.blockScope).elim object
        (·.onObject settings.numberStyle other object) := by
    intro object hget
    refine objectAfter_eq settings ((h.contains_objects other).mp ?_) object
    rw [Registry.contains, hget]
    rfl
  rw [Option.map_congr hafter]
  rcases p.edit?_eq_none_or_field settings.blockScope hline with
    hnone | ⟨e, block, he, -, hfield⟩
  · simp [sceneAfter, hnone]
  · simp only [sceneAfter, he, Option.elim_some]
    exact Scene.get?_objects_edited_of_field scene (by rw [hfield]; rfl) other

/-- Behind the declaration of an object no field is given to a background. -/
theorem backgrounds_sceneAfter_of_object (hlast : DeclaredLast p.before .object id) :
    (p.sceneAfter settings scene).backgrounds = scene.backgrounds := by
  have hfocus := focusAt_of_declaredLast hlast settings.blockScope
  rcases p.sceneAfter_eq_or_field settings scene hline with
    hsame | ⟨e, _, he, hedited, -, hfield⟩
  · rw [hsame]
  · rw [hedited]
    refine Scene.backgrounds_edited_of_field (by rw [hfield]; rfl) ?_
    rintro target kind url rfl
    rw [kind_of_edit? he, focus, hfocus]

/-- Behind the declaration of a background no field is given to an object, unless the object has
the id and the open block is of objects only. -/
theorem objects_sceneAfter_of_background (hlast : DeclaredLast p.before .background id)
    (hreach : scene.objects.contains id = false ∨
      ∀ block, openBlock? settings.blockScope p.before = some block → block.objectOnly = false) :
    (p.sceneAfter settings scene).objects = scene.objects := by
  have hfocus := focusAt_of_declaredLast hlast settings.blockScope
  rcases p.sceneAfter_eq_or_field settings scene hline with
    hsame | ⟨e, block, he, hedited, hblock, hfield⟩
  · rw [hsame]
  · rw [hedited]
    rw [focus, hfocus] at hblock hfield
    refine Scene.objects_edited_of_field (by rw [hfield]; rfl) ?_ ?_
    · rintro target kind url rfl
      rw [kind_of_edit? he, focus, hfocus]
    · intro other target hother honly
      obtain ⟨rfl, htarget⟩ := Prod.mk.inj (Option.some.inj (hfield.symm.trans hother))
      have htakes : block.takesId = true := by
        cases block <;> first | rfl | cases honly
      rw [if_pos htakes] at htarget
      obtain rfl := Option.some.inj htarget
      refine hreach.resolve_right fun hfree => ?_
      rw [hfree block hblock] at honly
      cases honly

end DeclaredLast

/-- The object that a line is not about stays as it is. -/
theorem objectAfter_of_id_ne {settings : Settings} {other : Text}
    (h : (p.focus settings.blockScope).id ≠ some other) (object : Object) :
    p.objectAfter settings other object = object := by
  simp [objectAfter, objectTexture?, givenTo?, Removes, h]

/-- Behind the declaration of a background, an object keeps its texture. -/
theorem texture_objectAfter_of_background (settings : Settings) {id : Text}
    (hlast : DeclaredLast p.before .background id) (other : Text) (object : Object) :
    (p.objectAfter settings other object).texture = object.texture := by
  have hfocus := focusAt_of_declaredLast hlast settings.blockScope
  simp [objectAfter, objectTexture?, textureKind?, focus, hfocus]

end Place

namespace Session

theorem scene_afterLines_concat (s : Session) (lines : List Text) (line : Text) :
    (s.afterLines (lines ++ [line])).scene =
      Place.sceneAfter s.settings ⟨lines, line⟩ (s.afterLines lines).scene := by
  rw [scene_afterLines, scene_afterLines, Reading.scene_run_concat]

/-- **What a field behind a declaration reaches.**  Behind the declaration of an object it is no
background.  Behind that of a background it is no object but one of the same id, and that keeps its
texture and takes what the line gives in a block that is of objects only. -/
theorem scene_retargeted (s : Session) (lines : List Text) (line id : Text)
    (hline : Directive.ofLine line = .content ∨ Directive.ofLine line = .remove) :
    let place : Place := ⟨lines, line⟩
    let before := (s.afterLines lines).scene
    let after := (s.afterLines (lines ++ [line])).scene
    (DeclaredLast lines .object id → after.backgrounds = before.backgrounds) ∧
      (DeclaredLast lines .background id →
        (before.objects.contains id = false ∨
            (∀ block, openBlock? s.settings.blockScope lines = some block →
              block.objectOnly = false) →
          after.objects = before.objects) ∧
        after.objects.keys = before.objects.keys ∧
        (∀ other, other ≠ id → after.objects.get? other = before.objects.get? other) ∧
        ∀ object, before.objects.get? id = some object →
          after.objects.get? id =
            some { place.objectAfter s.settings id object with texture := object.texture }) := by
  intro place before after
  have hafter : after = place.sceneAfter s.settings before := s.scene_afterLines_concat lines line
  have hdescribes : Describes s.settings place.before before := s.describes_afterLines lines
  have hplace : place.directive = .content ∨ place.directive = .remove := hline
  rw [hafter]
  refine ⟨Place.backgrounds_sceneAfter_of_object hplace, fun hlast => ⟨fun hreach => ?_,
    Place.keys_sceneAfter hplace, fun other hne => ?_, fun object hobject => ?_⟩⟩
  · exact Place.objects_sceneAfter_of_background hplace hlast hreach
  · have hid : (place.focus s.settings.blockScope).id ≠ some other := by
      rw [Place.focus, focusAt_of_declaredLast hlast]
      exact fun heq => hne (Option.some.inj heq).symm
    have hkept : place.objectAfter s.settings other = fun object => object :=
      funext (Place.objectAfter_of_id_ne hid)
    rw [Place.get?_objects_sceneAfter hplace hdescribes, hkept, Option.map_id']
  · have htexture : (place.objectAfter s.settings id object).texture = object.texture :=
      Place.texture_objectAfter_of_background s.settings hlast id object
    rw [Place.get?_objects_sceneAfter hplace hdescribes, hobject, Option.map_some, ← htexture]

/-- A texture behind a declaration of the other kind, where a background and an object have one
id. -/
theorem scene_retargeted_texture :
    let toObject := ["new Background:a;".toList, "setTextureOf(Background) with id \"a\"".toList,
      "new Object:a;".toList]
    let toBackground := ["new Object:a;".toList, "setTextureOf(Object) with id \"a\"".toList,
      "new Background:a;".toList]
    let line := "url: rock.png;".toList
    Directive.ofLine line = .content ∧ DeclaredLast toObject .object ['a'] ∧
      (afterLines {} (toObject ++ [line])).scene.backgrounds =
        (afterLines {} toObject).scene.backgrounds ∧
      DeclaredLast toBackground .background ['a'] ∧
      (∀ block, openBlock? .sticky toBackground = some block → block.objectOnly = false) ∧
      (afterLines {} (toBackground ++ [line])).scene.objects =
        (afterLines {} toBackground).scene.objects := by
  intro toObject toBackground line
  have hline : Directive.ofLine line = .content := by decide
  have hobject : DeclaredLast toObject .object ['a'] :=
    ⟨toObject.take 2, "new Object:a;".toList, [], rfl, by decide, nofun⟩
  have hbackground : DeclaredLast toBackground .background ['a'] :=
    ⟨toBackground.take 2, "new Background:a;".toList, [], rfl, by decide, nofun⟩
  have htexture : ∀ block, openBlock? .sticky toBackground = some block →
      block.objectOnly = false := by
    have hblock : openBlock? .sticky toBackground = some .texture := by decide
    rintro block hopen
    cases hblock.symm.trans hopen
    rfl
  exact ⟨hline, hobject, (scene_retargeted {} toObject line ['a'] (Or.inl hline)).1 hobject,
    hbackground, htexture,
    ((scene_retargeted {} toBackground line ['a'] (Or.inl hline)).2 hbackground).1
      (Or.inr htexture)⟩

/-- The size behind the declaration of a background is given to the object of the same id. -/
theorem size_of_declared_background :
    let lines := ["new Object:a;".toList, "setSizeOf with id \"a\"".toList, "small".toList,
      "new Background:a;".toList]
    let line := "huge".toList
    Directive.ofLine line = .content ∧ DeclaredLast lines .background ['a'] ∧
      ((afterLines {} lines).scene.objects.get? ['a']).map (·.size) = some "small".toList ∧
      ((afterLines {} (lines ++ [line])).scene.objects.get? ['a']).map (·.size) =
        some "huge".toList ∧
      (afterLines {} (lines ++ [line])).scene.objects ≠ (afterLines {} lines).scene.objects := by
  intro lines line
  have hbefore : ((afterLines {} lines).scene.objects.get? ['a']).map (·.size) =
      some "small".toList := by decide
  have hafter : ((afterLines {} (lines ++ [line])).scene.objects.get? ['a']).map (·.size) =
      some "huge".toList := by decide
  have hlast : DeclaredLast lines .background ['a'] :=
    ⟨lines.take 3, "new Background:a;".toList, [], rfl, by decide, nofun⟩
  refine ⟨by decide, hlast, hbefore, hafter, fun hsame => ?_⟩
  rw [hsame, hbefore] at hafter
  cases hafter

end Session
end PlanetScript
