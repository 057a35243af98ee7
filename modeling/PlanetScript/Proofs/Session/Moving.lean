import PlanetScript.Proofs.Session.Following

/-! # Positions reach the stage

A line that gives a coordinate to a declared object moves every sprite whose name is bound to
the object, once, to the position that the object has after the line.  No other line moves a
sprite, and no other line changes the position of an object.  A session that follows a script
therefore keeps its sprites in step: each was moved as often as there were such lines about
its object (`positionLines`), the last time to where the object is now
(`Session.inStep_foldl_follow`).

The bindings do not change on the way, and a name is bound to one object at most, so clones
of a name all move alike.
-/
namespace PlanetScript
open Text

/-! ### Lines that give a coordinate -/

namespace Place
variable (scope : BlockScope) (p : Place) (id : Text)

/-- Whether the line of a place gives a coordinate to an object that was declared before. -/
def Positions : Prop :=
  p.directive = .content ∧ (p.focus scope).block = some .position ∧
    (p.focus scope).id = some id ∧ DeclaresObject p.before id ∧
    (contains "x:".toList p.line = true ∨ contains "y:".toList p.line = true)

instance : Decidable (p.Positions scope id) := by unfold Positions; infer_instance

/-- Such a line makes an edit of the object's position. -/
theorem positions_iff :
    p.Positions scope id ↔
      (∃ x y, p.edit? scope = some (.position id x y)) ∧ DeclaresObject p.before id := by
  constructor
  · rintro ⟨hd, hb, hid, hdeclared, hxy⟩
    exact ⟨⟨_, _, Focus.edit?_eq_some_iff.mpr ⟨hd, hb, hid, rfl, rfl, hxy⟩⟩, hdeclared⟩
  · rintro ⟨⟨x, y, he⟩, hdeclared⟩
    obtain ⟨hd, hb, hid, rfl, rfl, hxy⟩ := Focus.edit?_eq_some_iff.mp he
    exact ⟨hd, hb, hid, hdeclared, hxy⟩

variable {scope p}

theorem positions_iff_of_edit? {target : Text} {x y : Option Text}
    (he : p.edit? scope = some (.position target x y)) :
    p.Positions scope id ↔ id = target ∧ DeclaresObject p.before target := by
  rw [positions_iff, he]
  constructor
  · rintro ⟨⟨x', y', hp⟩, hdeclared⟩
    cases hp
    exact ⟨rfl, hdeclared⟩
  · rintro ⟨rfl, hdeclared⟩
    exact ⟨⟨x, y, rfl⟩, hdeclared⟩

theorem not_positions_of_edit? (he : ∀ target x y, p.edit? scope ≠ some (.position target x y)) :
    ¬ p.Positions scope id := by
  rw [positions_iff]
  rintro ⟨⟨x, y, hp⟩, -⟩
  exact he id x y hp

end Place

/-- How many lines give a coordinate to an object. -/
def positionLines (scope : BlockScope) (lines : List Text) (id : Text) : Nat :=
  (places lines).countP fun p => p.Positions scope id

theorem positionLines_concat (scope : BlockScope) (lines : List Text) (line id : Text) :
    positionLines scope (lines ++ [line]) id =
      positionLines scope lines id + if Place.Positions scope ⟨lines, line⟩ id then 1 else 0 := by
  unfold positionLines
  rw [places_concat, List.countP_append, List.countP_singleton]
  simp only [decide_eq_true_eq]

theorem positionLines_concat_of_forall_not {scope : BlockScope} {lines : List Text} {line : Text}
    (h : ∀ id, ¬ Place.Positions scope ⟨lines, line⟩ id) :
    positionLines scope (lines ++ [line]) = positionLines scope lines := by
  funext id
  rw [positionLines_concat, if_neg (h id), Nat.add_zero]

/-- An object that is given a coordinate was declared. -/
theorem declaresObject_of_positionLines {scope : BlockScope} {lines : List Text} {id : Text}
    (h : 0 < positionLines scope lines id) : DeclaresObject lines id := by
  obtain ⟨p, hp, hpositions⟩ := List.countP_pos_iff.mp h
  obtain ⟨-, -, -, ⟨line, hline, hnew⟩, -⟩ := of_decide_eq_true hpositions
  obtain ⟨after, hlines⟩ := mem_places_iff.mp hp
  exact ⟨line, by rw [hlines]; exact List.mem_append_left _ hline, hnew⟩

/-- A sprite that was moved a number of times, the last time to a point. -/
def Sprite.moved (sprite : Sprite) (times : Nat) (p : Point) : Sprite :=
  if times = 0 then sprite
  else if sprite.hasSetter then { sprite with position := p, moves := sprite.moves + times }
  else { sprite with position := p, redraws := sprite.redraws + times }

namespace Sprite
variable (sprite : Sprite) (times : Nat) (p q : Point)

@[simp] theorem moved_zero : sprite.moved 0 p = sprite := if_pos rfl

@[simp] theorem name_moved : (sprite.moved times p).name = sprite.name := by
  unfold moved
  split
  · rfl
  · split <;> rfl

theorem moveTo_moved : (sprite.moved times p).moveTo q = sprite.moved (times + 1) q := by
  unfold moved moveTo
  rw [if_neg (Nat.succ_ne_zero times)]
  by_cases ht : times = 0
  · rw [if_pos ht, ht]
  · rw [if_neg ht]
    cases sprite.hasSetter <;> simp [Nat.add_assoc]

end Sprite

/-! ### One edit -/

namespace Session

section Follow
variable {s : Session} {e : Edit} {id : Text}

/-- An edit that does not give it a coordinate leaves an object where it is; one that is
declared by it stands at the origin. -/
theorem objectPosition_follow_of_ne (h : ∀ x y, e ≠ .position id x y) :
    (s.follow e).objectPosition id = s.objectPosition id := by
  unfold objectPosition
  rw [scene_follow, Scene.get?_objects_edited]
  split
  · cases s.scene.objects.get? id <;> rfl
  · cases s.scene.objects.get? id with
    | none => rfl
    | some object => exact Edit.position_onObject h object

/-- Only a position makes sprites move. -/
theorem stage_follow_of_ne (h : ∀ target x y, e ≠ .position target x y) :
    (s.follow e).stage = s.stage := by
  have heffect : ∀ target, s.scene.effect? e ≠ some (.followPosition target) := by
    intro target he
    cases e with
    | position target x y => exact h target x y rfl
    | activate target => simp only [Scene.effect?] at he; split at he <;> cases he
    | texture target kind url =>
      obtain ⟨_, -, htexture⟩ := Option.map_eq_some_iff.mp he
      cases htexture
    | _ => cases he
  unfold follow
  cases he : s.scene.effect? e with
  | none => rfl
  | some effect =>
    cases effect with
    | ignored line => rfl
    | showTexture target =>
      obtain ⟨_, _, _, hshow⟩ := (s.editScene e).showTexture_eq target
      show ((s.editScene e).showTexture target).1.stage = _
      rw [hshow]
      rfl
    | followPosition target => exact absurd he (heffect target)

/-- A position of an object that was not declared changes nothing. -/
theorem follow_position_of_contains_eq_false (h : s.scene.objects.contains id = false)
    (x y : Option Text) : s.follow (.position id x y) = s := by
  have hscene : s.editScene (.position id x y) = s := by
    simp only [editScene, Scene.edited, Scene.modifyObject_of_contains_eq_false h]
  simp [follow, Scene.effect?, h, hscene]

/-- A position of a declared object moves the sprites that are bound to it to where the object
is then. -/
theorem stage_follow_position (h : s.scene.objects.contains id = true) (x y : Option Text) :
    (s.follow (.position id x y)).stage =
      s.stage.placeWhere (fun name => s.bindings.get? name = some id)
        ((s.follow (.position id x y)).objectPosition id) := by
  have heffect : s.scene.effect? (.position id x y) = some (.followPosition id) := by
    simp [Scene.effect?, h]
  have hposition : (s.follow (.position id x y)).objectPosition id =
      (s.editScene (.position id x y)).objectPosition id := by
    unfold objectPosition
    rw [scene_follow]
    rfl
  rw [hposition, follow, heffect]
  show ((s.editScene (.position id x y)).followPosition id).1.stage = _
  have hcontains : (s.editScene (.position id x y)).scene.objects.contains id = true :=
    Scene.contains_objects_edited _ _ _ h (.position id x y)
  obtain ⟨object, hget⟩ := Option.isSome_iff_exists.mp hcontains
  rw [followPosition_of_get? hget, objectPosition, hget]
  rfl

end Follow

/-! ### Sprites in step with their objects -/

/-- A later session has the sprites of an earlier one.  Those of unbound names are as they were,
and every other one was moved as often as `times` says of its object, the last time to where
the object is. -/
structure InStep (s : Session) (times : Text → Nat) (t : Session) : Prop where
  bindings : t.bindings = s.bindings
  stage : t.stage = s.stage.map fun sprite => (s.bindings.get? sprite.name).elim sprite fun id =>
    sprite.moved (times id) (t.objectPosition id)

namespace InStep
variable {s t : Session} {times : Text → Nat} {e : Edit}

theorem clear (s : Session) : s.InStep (fun _ => 0) s.clear where
  bindings := rfl
  stage := by
    refine Eq.symm ((List.map_congr_left fun sprite _ => ?_).trans (List.map_id s.stage))
    cases s.bindings.get? sprite.name with
    | none => rfl
    | some id => exact sprite.moved_zero _

/-- An edit that gives no object a coordinate leaves sprites and objects where they are. -/
theorem follow_of_ne (h : s.InStep times t) (hne : ∀ id x y, e ≠ .position id x y) :
    s.InStep times (t.follow e) where
  bindings := (bindings_follow t e).trans h.bindings
  stage := by
    rw [stage_follow_of_ne hne, h.stage]
    simp only [objectPosition_follow_of_ne (hne _)]

/-- An edit that gives an object a coordinate moves its sprites once more. -/
theorem follow_position {target : Text} (h : s.InStep times t)
    (hc : t.scene.objects.contains target = true) (x y : Option Text) :
    s.InStep (fun id => times id + if id = target then 1 else 0)
      (t.follow (.position target x y)) where
  bindings := (bindings_follow t _).trans h.bindings
  stage := by
    rw [stage_follow_position hc, h.stage, h.bindings, Stage.placeWhere, List.map_map]
    refine List.map_congr_left fun sprite _ => ?_
    simp only [Function.comp_apply]
    cases hb : s.bindings.get? sprite.name with
    | none => simp [hb]
    | some id =>
      by_cases hid : id = target
      · subst hid
        simp [hb, Sprite.moveTo_moved]
      · -- the sprites of another object stay, and so does that object
        have hposition : (t.follow (.position target x y)).objectPosition id =
            t.objectPosition id := by
          refine objectPosition_follow_of_ne fun x' y' he => hid ?_
          cases he
          rfl
        simp [hb, hid, hposition]

theorem getElem?_stage (h : s.InStep times t) {i : Nat} {sprite : Sprite}
    (hsprite : s.stage[i]? = some sprite) :
    t.stage[i]? = some ((s.bindings.get? sprite.name).elim sprite fun id =>
      sprite.moved (times id) (t.objectPosition id)) := by
  rw [h.stage, List.getElem?_map, hsprite]
  rfl

end InStep

/-! ### A script -/

/-- The objects of a session that has followed the edits of some lines are those that the
lines declare. -/
theorem contains_objects_foldl_follow (s : Session) (lines : List Text) (id : Text) :
    ((edits s.settings.blockScope lines).foldl follow s.clear).scene.objects.contains id = true ↔
      DeclaresObject lines id :=
  (s.describes_foldl_follow lines).contains_objects id

section Line
variable {s t : Session} {lines : List Text} {line : Text}

/-- A line that gives no object a coordinate moves no sprite. -/
theorem InStep.line_of_ne (h : s.InStep (positionLines s.settings.blockScope lines) t)
    (hne : ∀ target x y,
      Place.edit? s.settings.blockScope ⟨lines, line⟩ ≠ some (.position target x y)) :
    s.InStep (positionLines s.settings.blockScope (lines ++ [line]))
      ((Place.edit? s.settings.blockScope ⟨lines, line⟩).toList.foldl follow t) := by
  rw [positionLines_concat_of_forall_not fun id => Place.not_positions_of_edit? id hne]
  cases he : Place.edit? s.settings.blockScope ⟨lines, line⟩ with
  | none => exact h
  | some e =>
    exact h.follow_of_ne fun target x y hp => hne target x y (he.trans (congrArg some hp))

/-- A line that gives a coordinate counts if its object was declared, and changes nothing
otherwise. -/
theorem InStep.line_of_position {target : Text} {x y : Option Text}
    (h : s.InStep (positionLines s.settings.blockScope lines) t)
    (hdeclared : ∀ id, t.scene.objects.contains id = true ↔ DeclaresObject lines id)
    (he : Place.edit? s.settings.blockScope ⟨lines, line⟩ = some (.position target x y)) :
    s.InStep (positionLines s.settings.blockScope (lines ++ [line]))
      ((Place.edit? s.settings.blockScope ⟨lines, line⟩).toList.foldl follow t) := by
  have hpositions : ∀ id, Place.Positions s.settings.blockScope ⟨lines, line⟩ id ↔
      id = target ∧ DeclaresObject lines target :=
    fun id => Place.positions_iff_of_edit? id he
  rw [he]
  show s.InStep _ (t.follow (.position target x y))
  cases hc : t.scene.objects.contains target with
  | false =>
    have hnew : ¬ DeclaresObject lines target := by
      rw [← hdeclared, hc]
      exact Bool.false_ne_true
    rw [follow_position_of_contains_eq_false hc,
      positionLines_concat_of_forall_not fun id hp => hnew ((hpositions id).mp hp).2]
    exact h
  | true =>
    have htimes : positionLines s.settings.blockScope (lines ++ [line]) =
        fun id => positionLines s.settings.blockScope lines id +
          if id = target then 1 else 0 := by
      funext id
      simp only [positionLines_concat, hpositions, (hdeclared target).mp hc, and_true]
    rw [htimes]
    exact h.follow_position hc x y

end Line

/-- **Sprites stay in step with their objects**, where a line that gives its object a coordinate
moves a sprite once. -/
theorem inStep_foldl_follow (s : Session) (lines : List Text) :
    s.InStep (positionLines s.settings.blockScope lines)
      ((edits s.settings.blockScope lines).foldl follow s.clear) := by
  induction lines using List.reverseRecOn with
  | nil => exact InStep.clear s
  | append_singleton lines line ih =>
    rw [edits_concat, List.foldl_append]
    by_cases hp : ∃ target x y,
        Place.edit? s.settings.blockScope ⟨lines, line⟩ = some (.position target x y)
    · obtain ⟨target, x, y, he⟩ := hp
      exact ih.line_of_position (s.contains_objects_foldl_follow lines) he
    · exact ih.line_of_ne fun target x y he => hp ⟨target, x, y, he⟩

theorem inStep_afterLines (s : Session) (lines : List Text) :
    s.InStep (positionLines s.settings.blockScope lines) (s.afterLines lines) := by
  have halike := s.alike_afterLines lines
  have hstep := s.inStep_foldl_follow lines
  refine ⟨halike.bindings.trans hstep.bindings, halike.stage.trans (hstep.stage.trans ?_)⟩
  simp only [objectPosition, halike.scene]

theorem inStep_read (s : Session) (script : Text) :
    s.InStep (positionLines s.settings.blockScope (contentLines script)) (s.read script) := by
  have hstep := s.inStep_afterLines (contentLines script)
  exact ⟨hstep.bindings, hstep.stage⟩

/-- **Reading a script moves each bound sprite once for each line that gives its object a
coordinate.**  No sprite comes, goes or changes its place on the stage.  One whose name is
unbound, or bound to an id without such lines, is as it was.  Every other one stands where its
object stands in the new scene, and was moved or redrawn as often as there are such lines;
nothing else of it changes. -/
theorem sprites_read (s : Session) (script : Text) :
    let times := positionLines s.settings.blockScope (contentLines script)
    (s.read script).stage.length = s.stage.length ∧
      ∀ (i : Nat) (sprite : Sprite), s.stage[i]? = some sprite →
        ∃ after, (s.read script).stage[i]? = some after ∧
          ((∀ id, s.bindings.get? sprite.name = some id → times id = 0) → after = sprite) ∧
          ∀ id, s.bindings.get? sprite.name = some id → 0 < times id →
            ∃ object, (s.read script).scene.objects.get? id = some object ∧
              after =
                if sprite.hasSetter then
                  { sprite with position := object.position, moves := sprite.moves + times id }
                else
                  { sprite with
                    position := object.position, redraws := sprite.redraws + times id } := by
  intro times
  have hstep := s.inStep_read script
  refine ⟨by rw [hstep.stage, List.length_map], ?_⟩
  intro i sprite hsprite
  refine ⟨_, hstep.getElem?_stage hsprite, ?_, ?_⟩
  · intro hnone
    cases hb : s.bindings.get? sprite.name with
    | none => rfl
    | some id =>
      have hzero : positionLines s.settings.blockScope (contentLines script) id = 0 := hnone id hb
      rw [Option.elim_some, hzero, Sprite.moved_zero]
  · intro id hb hpos
    have hget : (s.read script).scene.objects.get? id = _ :=
      (s.describes_afterLines (contentLines script)).objects id
    rw [if_pos (declaresObject_of_positionLines hpos)] at hget
    refine ⟨_, hget, ?_⟩
    rw [hb, Option.elim_some, Sprite.moved, if_neg (Nat.ne_of_gt hpos), objectPosition, hget]
    rfl

/-- Two clones of a rock are moved by both lines about it, each in its own way. -/
theorem sprites_read_clones :
    let script :=
      "new Object:r;\nsetPositionOf with id \"r\"\nx: 1, y: 2\nbig\ny: 5".toList
    let clone : Sprite := { name := "Rock".toList, hasSetter := false }
    let s : Session :=
      { stage := [{ name := "Rock".toList }, clone, { name := "Tree".toList }]
        bindings := Registry.empty.insert "Rock".toList "r".toList }
    let times := positionLines s.settings.blockScope (contentLines script)
    (s.stage[1]? = some clone ∧ s.bindings.get? clone.name = some "r".toList ∧
        times "r".toList = 2) ∧
      ∃ after object, (s.read script).stage[1]? = some after ∧
        (s.read script).scene.objects.get? "r".toList = some object ∧
        after = { clone with position := object.position, redraws := 2 } := by
  intro script clone s times
  have hclone : s.stage[1]? = some clone := rfl
  have hbound : s.bindings.get? clone.name = some "r".toList := by decide
  have htwo : times "r".toList = 2 := by decide
  obtain ⟨after, hafter, -, hmoved⟩ := (sprites_read s script).2 1 clone hclone
  have hpos : 0 < times "r".toList := by rw [htwo]; decide
  obtain ⟨object, hobject, heq⟩ := hmoved "r".toList hbound hpos
  refine ⟨⟨hclone, hbound, htwo⟩, after, object, hafter, hobject, heq.trans ?_⟩
  show { clone with position := object.position, redraws := 0 + times "r".toList } = _
  rw [htwo]

end Session
end PlanetScript
