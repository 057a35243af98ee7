import PlanetScript.Proofs.Script.Segment
import PlanetScript.Proofs.Session.Following

/-! # References to what is not there

An edit about an id that the scene does not have, of the kind that the edit needs, changes
nothing and asks for nothing (`Scene.ignores_of_not_has`).  So a segment about such an id can be
taken out of a script, as can a segment without an id: it makes no edit that counts, and the line
that opens the next block leaves nothing of its focus.  The same holds of a declaration without
an id and of a switch to no background, which leave the focus as it is.
-/
namespace PlanetScript
open Text

/-- What an edit needs to be there: an id, and the kind that it has to be of if that matters. -/
def Edit.target? : Edit → Option (Text × Option Kind)
  | .activate id => some (id, some .background)
  | .texture id kind _ => some (id, kind)
  | .position id _ _ | .size id _ | .gravity id _ | .removeByClick id => some (id, some .object)
  | _ => none

/-- Whether some line declares an id, as a kind if one is named. -/
def Declares (lines : List Text) (id : Text) : Option Kind → Prop
  | some .object => DeclaresObject lines id
  | some .background => DeclaresBackground lines id
  | none => DeclaresObject lines id ∨ DeclaresBackground lines id

/-! ### Edits that are ignored -/

namespace Scene
variable {style : NumberStyle} {scene : Scene} {e : Edit} {id : Text} {kind : Option Kind}

/-- Whether an id is in the scene, as a kind if one is named. -/
def Has (scene : Scene) (id : Text) : Option Kind → Prop
  | some .object => scene.objects.contains id = true
  | some .background => scene.backgrounds.contains id = true
  | none => scene.objects.contains id = true ∨ scene.backgrounds.contains id = true

/-- An edit that changes nothing and asks for nothing. -/
structure Ignores (style : NumberStyle) (scene : Scene) (e : Edit) : Prop where
  edited : scene.edited style e = scene
  effect : scene.effect? e = none

/-- A texture is stored where its target is in the scene. -/
theorem isSome_storeTexture?_iff (scene : Scene) (kind : Option Kind) (id url : Text) :
    (scene.storeTexture? kind id url).isSome = true ↔ scene.Has id kind := by
  unfold storeTexture? Has kind?
  cases kind with
  | none => cases scene.objects.contains id <;> cases scene.backgrounds.contains id <;> simp
  | some kind =>
    cases kind with
    | object => cases scene.objects.contains id <;> simp
    | background => cases scene.backgrounds.contains id <;> simp

/-- **An edit whose target is not in the scene is ignored.** -/
theorem ignores_of_not_has (ht : e.target? = some (id, kind)) (h : ¬ scene.Has id kind) :
    scene.Ignores style e := by
  cases e with
  | validate | thumbnail | spawn | declareBackground | declareObject => cases ht
  | activate =>
    cases ht
    exact ⟨if_neg h, if_neg h⟩
  | texture target named url =>
    cases ht
    have hnone : scene.storeTexture? kind id url = none := by
      rw [← Option.not_isSome_iff_eq_none, isSome_storeTexture?_iff]
      exact h
    exact ⟨by rw [Scene.edited, hnone]; rfl, by rw [effect?, hnone]; rfl⟩
  | position =>
    cases ht
    exact ⟨modifyObject_of_contains_eq_false (Bool.not_eq_true _ ▸ h) _, if_neg h⟩
  | size | gravity | removeByClick =>
    cases ht
    exact ⟨modifyObject_of_contains_eq_false (Bool.not_eq_true _ ▸ h) _, rfl⟩

end Scene

theorem Describes.has_iff {settings : Settings} {lines : List Text} {scene : Scene}
    (h : Describes settings lines scene) (id : Text) (kind : Option Kind) :
    scene.Has id kind ↔ Declares lines id kind := by
  cases kind with
  | none => exact or_congr (h.contains_objects id) (h.contains_backgrounds id)
  | some kind =>
    cases kind with
    | object => exact h.contains_objects id
    | background => exact h.contains_backgrounds id

namespace Session
variable {s : Session}

theorem follow_of_ignores {e : Edit} (h : s.scene.Ignores s.settings.numberStyle e) :
    s.follow e = s := by
  unfold follow editScene
  rw [h.effect, h.edited]
  rfl

/-- Edits that are all ignored leave a session as it is. -/
theorem foldl_follow_of_ignores {es : List Edit}
    (h : ∀ e ∈ es, s.scene.Ignores s.settings.numberStyle e) : es.foldl follow s = s := by
  induction es with
  | nil => rfl
  | cons e es ih =>
    rw [List.forall_mem_cons] at h
    rw [List.foldl_cons, follow_of_ignores h.1]
    exact ih h.2

end Session

/-! ### Segments about what is not there -/

/-- The kind that the block of an object's fields goes to. -/
theorem Directive.kind_of_opened {d : Directive} {block : Block} (h : d.opened? = some block)
    (htakes : block.takesId = true) (hne : block ≠ .texture) :
    d.subject?.bind (·.kind) = some .object := by
  cases d <;> cases h <;> first | rfl | exact absurd rfl hne | cases htakes

namespace Segment
variable {scope : BlockScope} {a : Segment}

/-- Every edit of a segment needs the segment's id, as the segment's kind. -/
theorem target?_of_mem_edits (htakes : a.block.takesId = true) {e : Edit}
    (he : e ∈ a.edits scope) : ∃ id, a.id = some id ∧ e.target? = some (id, a.kind) := by
  obtain ⟨line, hline, hedit⟩ := exists_field_of_mem_edits he
  have hd := a.speak line hline
  have hmakes := Focus.edit?_eq_some_iff.mp hedit
  have hkind : ∀ {block}, a.focus.block = some block → block ≠ .texture →
      a.kind = some .object := by
    intro block hblock hne
    cases hblock
    exact Directive.kind_of_opened a.opens htakes hne
  cases e with
  | validate | declareBackground | declareObject | activate =>
    rcases hd with hd | hd <;> exact absurd (hd.symm.trans hmakes) nofun
  | thumbnail | spawn =>
    have hblock : a.block = _ := Option.some.inj hmakes.2.1
    rw [hblock] at htakes
    cases htakes
  | texture id =>
    obtain ⟨-, -, hid, rfl, -⟩ := hmakes
    exact ⟨id, hid, rfl⟩
  | position id | size id | gravity id =>
    obtain ⟨-, hblock, hid, -⟩ := hmakes
    exact ⟨id, hid, by rw [hkind hblock nofun]; rfl⟩
  | removeByClick id =>
    obtain ⟨-, hblock, hid⟩ := hmakes
    exact ⟨id, hid, by rw [hkind hblock nofun]; rfl⟩

end Segment

/-! ### Scripts without them -/

/-- A line that names nothing that is there: a declaration without an id, or a switch to what no
line before declares as a background. -/
def Place.NamesNothing (p : Place) : Prop :=
  p.directive = .newObject none ∨ p.directive = .newBackground none ∨
    ∃ id, p.directive = .switchBackground id ∧ ∀ target, id = some target →
      ¬ DeclaresBackground p.before target

namespace Place.NamesNothing
variable {p : Place}

/-- Such a line leaves the focus as it is. -/
theorem next_eq (h : p.NamesNothing) (scope : BlockScope) (focus : Focus) :
    focus.next scope p.directive = focus := by
  rcases h with hd | hd | ⟨id, hd, -⟩ <;> rw [hd] <;> rfl

/-- Such a line makes no edit but a switch to no background. -/
theorem exists_target?_of_edit? (h : p.NamesNothing) {focus : Focus} {e : Edit}
    (he : focus.edit? p.line = some e) :
    ∃ id kind, e.target? = some (id, kind) ∧ ¬ Declares p.before id kind := by
  have hline : Directive.ofLine p.line = p.directive := rfl
  unfold Focus.edit? at he
  rw [hline] at he
  rcases h with hd | hd | ⟨target, hd, hmissing⟩
  · rw [hd] at he
    cases he
  · rw [hd] at he
    cases he
  · rw [hd] at he
    obtain ⟨id, rfl, rfl⟩ := Option.map_eq_some_iff.mp he
    exact ⟨id, some .background, rfl, hmissing id rfl⟩

end Place.NamesNothing

namespace Session
variable (s : Session)

/-- Edits whose targets no line before them declares can be taken out of a script. -/
theorem alike_read_of_missing {script shorter : Text} {before : List Text}
    {missing rest : List Edit}
    (hscript : edits s.settings.blockScope (contentLines script) =
      edits s.settings.blockScope before ++ (missing ++ rest))
    (hshorter : edits s.settings.blockScope (contentLines shorter) =
      edits s.settings.blockScope before ++ rest)
    (hmissing : ∀ e ∈ missing, ∃ id kind, e.target? = some (id, kind) ∧
      ¬ Declares before id kind) :
    (s.read script).Alike (s.read shorter) := by
  have hdescribes := s.describes_foldl_follow before
  have hleft := s.alike_read script
  have hright := s.alike_read shorter
  rw [hscript, List.foldl_append, List.foldl_append] at hleft
  rw [hshorter, List.foldl_append] at hright
  generalize (edits s.settings.blockScope before).foldl follow s.clear = t at *
  have hsame : missing.foldl follow t = t := by
    refine foldl_follow_of_ignores fun e he => ?_
    obtain ⟨id, kind, htarget, hnone⟩ := hmissing e he
    exact Scene.ignores_of_not_has htarget fun hhas => hnone ((hdescribes.has_iff id kind).mp hhas)
  rw [hsame] at hleft
  exact hleft.trans hright.symm

/-- **References to what is not there can be taken out of a script.**  A segment whose id is
missing, or not declared before it as the kind that its fields go to, makes no difference if
nothing but the opener of another block follows it; nor does a declaration without an id or a
switch to what is no background yet, wherever it stands. -/
theorem read_without_missing (script shorter : Text) (before behind : List Text)
    (hshorter : contentLines shorter = before ++ behind) :
    (∀ a : Segment, a.block.takesId = true →
      (∀ id, a.id = some id → ¬ Declares before id a.kind) →
      (∀ line ∈ behind.head?, (Directive.ofLine line).opened?.isSome = true) →
      contentLines script = before ++ a.lines ++ behind →
      (s.read script).Alike (s.read shorter)) ∧
      ∀ line, Place.NamesNothing ⟨before, line⟩ →
        contentLines script = before ++ line :: behind →
        (s.read script).Alike (s.read shorter) := by
  -- the lines behind the first ones make their edits in one focus, in both scripts
  obtain ⟨focus, hsplit⟩ : ∃ focus : Focus, ∀ lines,
      edits s.settings.blockScope (before ++ lines) =
        edits s.settings.blockScope before ++ focus.edits s.settings.blockScope lines :=
    ⟨_, Focus.edits_split s.settings.blockScope before⟩
  have hrest : edits s.settings.blockScope (contentLines shorter) =
      edits s.settings.blockScope before ++ focus.edits s.settings.blockScope behind := by
    rw [hshorter, hsplit]
  constructor
  · intro a htakes hmissing hopens hscript
    have hedits : edits s.settings.blockScope (contentLines script) =
        edits s.settings.blockScope before ++
          (a.edits s.settings.blockScope ++ focus.edits s.settings.blockScope behind) := by
      rw [hscript, List.append_assoc, hsplit, Focus.edits_append, Focus.edits_segment]
      cases behind with
      | nil => rfl
      | cons line lines =>
        obtain ⟨block, hblock⟩ := Option.isSome_iff_exists.mp (hopens line rfl)
        rw [Focus.edits_of_opened hblock]
    refine s.alike_read_of_missing hedits hrest fun e he => ?_
    obtain ⟨id, hid, htarget⟩ := Segment.target?_of_mem_edits htakes he
    exact ⟨id, a.kind, htarget, hmissing id hid⟩
  · intro line hnothing hscript
    have hedits : edits s.settings.blockScope (contentLines script) =
        edits s.settings.blockScope before ++
          ((focus.edit? line).toList ++ focus.edits s.settings.blockScope behind) := by
      have hnext : focus.next s.settings.blockScope (.ofLine line) = focus :=
        hnothing.next_eq s.settings.blockScope focus
      rw [hscript, hsplit, Focus.edits, hnext]
    refine s.alike_read_of_missing hedits hrest fun e he => ?_
    exact hnothing.exists_target?_of_edit? (Option.mem_toList.mp he)

/-- The size of a background, and a switch to it before it is declared. -/
theorem read_without_missing_sky :
    let a : Segment := ⟨"setSizeOf with id \"sky\"".toList, .size, by decide, ["big".toList],
      by decide⟩
    let switch := "switchBackgroundImgTo with id \"night\";".toList
    let sized := "new Background:sky;\nsetSizeOf with id \"sky\"\nbig\nplanets.spawn\nx: 1".toList
    let switched :=
      "new Background:sky;\nswitchBackgroundImgTo with id \"night\";\nplanets.spawn\nx: 1".toList
    let shorter := "new Background:sky;\nplanets.spawn\nx: 1".toList
    let before := ["new Background:sky;".toList]
    let behind := ["planets.spawn".toList, "x: 1".toList]
    contentLines shorter = before ++ behind ∧
      (a.block.takesId = true ∧ (∀ id, a.id = some id → ¬ Declares before id a.kind) ∧
        (∀ line ∈ behind.head?, (Directive.ofLine line).opened?.isSome = true) ∧
        contentLines sized = before ++ a.lines ++ behind ∧
        (read {} sized).Alike (read {} shorter)) ∧
      Place.NamesNothing ⟨before, switch⟩ ∧ contentLines switched = before ++ switch :: behind ∧
        (read {} switched).Alike (read {} shorter) := by
  intro a switch sized switched shorter before behind
  have hshorter : contentLines shorter = before ++ behind := by decide
  have hsized : contentLines sized = before ++ a.lines ++ behind := by decide
  have hswitched : contentLines switched = before ++ switch :: behind := by decide
  have hopens : ∀ line ∈ behind.head?, (Directive.ofLine line).opened?.isSome = true := by decide
  have hmissing : ∀ id, a.id = some id → ¬ Declares before id a.kind := by
    intro id hid
    obtain rfl : "sky".toList = id := Option.some.inj ((by decide : a.id = _).symm.trans hid)
    show ¬ DeclaresObject before _
    decide
  have hnothing : Place.NamesNothing ⟨before, switch⟩ := by
    refine Or.inr (Or.inr ⟨some "night".toList, by decide, fun target ht => ?_⟩)
    obtain rfl := Option.some.inj ht
    decide
  exact ⟨hshorter,
    ⟨rfl, hmissing, hopens, hsized,
      (read_without_missing {} sized shorter before behind hshorter).1 a rfl hmissing hopens
        hsized⟩,
    hnothing, hswitched,
    (read_without_missing {} switched shorter before behind hshorter).2 switch hnothing hswitched⟩

end Session
end PlanetScript
