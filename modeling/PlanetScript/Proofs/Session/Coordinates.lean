import PlanetScript.Proofs.Number.Overflow
import PlanetScript.Proofs.Session.Moving

/-! # Finite coordinates

A coordinate is given to the spawn point or to a declared object, by a line whose text is read as
a number (`coordinates` collects these texts).  From there it goes to the sprites that are bound
to the object, and into the snapshot of the scene.  All of these are finite after every line of a
script if and only if no text that some line gives is too large (`Session.finite_read`).  A text
that is too large is seen right after its line; a later line may write over it, so what is finite
in the end depends on the texts that were given last (`GivenLast`).
-/
namespace PlanetScript
open Text

/-! ### What is finite -/

/-- Whether both coordinates are finite. -/
def Point.IsFinite (p : Point) : Prop := p.x.IsFinite ∧ p.y.IsFinite

/-- Whether all coordinates of a scene are finite. -/
structure Scene.Finite (scene : Scene) : Prop where
  spawn : scene.spawn.IsFinite
  objects : ∀ id object, scene.objects.get? id = some object → object.position.IsFinite

theorem Point.isFinite_origin : ({} : Point).IsFinite :=
  ⟨Number.isFinite_zero, Number.isFinite_zero⟩

theorem Scene.finite_empty : ({} : Scene).Finite where
  spawn := Point.isFinite_origin
  objects := by
    intro id object hget
    have hnone : ({} : Scene).objects.get? id = none := Registry.get?_empty id
    rw [hnone] at hget
    cases hget

/-! ### One edit -/

section Update
variable {style : NumberStyle} {p : Point} {x y : Option Text}

theorem isFinite_getD_iff {n : Number} (h : n.IsFinite) (raw : Option Text) :
    ((raw.map style.coordinate).getD n).IsFinite ↔ ∀ t, raw = some t → ¬ style.TooLarge t := by
  cases raw with
  | none => exact iff_of_true h nofun
  | some t =>
    rw [Option.map_some, Option.getD_some, NumberStyle.isFinite_coordinate_iff]
    simp

/-- A finite point stays finite if no text that is given is too large. -/
theorem Point.isFinite_update_iff (h : p.IsFinite) :
    (p.update style x y).IsFinite ↔ ∀ raw ∈ x.toList ++ y.toList, ¬ style.TooLarge raw := by
  show ((x.map style.coordinate).getD p.x).IsFinite ∧
    ((y.map style.coordinate).getD p.y).IsFinite ↔ _
  rw [isFinite_getD_iff h.1, isFinite_getD_iff h.2]
  simp only [List.mem_append, Option.mem_toList, or_imp, forall_and]

end Update

/-- The texts that an edit gives as coordinates. -/
def Edit.coordinates (declared : Text → Bool) : Edit → List Text
  | .spawn x y => x.toList ++ y.toList
  | .position id x y => if declared id then x.toList ++ y.toList else []
  | _ => []

namespace Scene.Finite
variable {style : NumberStyle} {scene : Scene} {e : Edit}

theorem edited_of_ne (h : scene.Finite) (hspawn : ∀ x y, e ≠ .spawn x y)
    (hposition : ∀ id x y, e ≠ .position id x y) : (scene.edited style e).Finite where
  spawn := by rw [Scene.spawn_edited _ _ hspawn]; exact h.spawn
  objects := by
    intro id object hget
    rw [Scene.get?_objects_edited] at hget
    split at hget
    · cases hget
      cases hobject : scene.objects.get? id with
      | none => exact Point.isFinite_origin
      | some object => exact h.objects id object hobject
    · obtain ⟨old, hold, rfl⟩ := Option.map_eq_some_iff.mp hget
      rw [Edit.position_onObject (hposition id)]
      exact h.objects id old hold

theorem edited_spawn_iff (h : scene.Finite) (x y : Option Text) :
    (scene.edited style (.spawn x y)).Finite ↔
      ∀ raw ∈ x.toList ++ y.toList, ¬ style.TooLarge raw := by
  rw [← Point.isFinite_update_iff h.spawn]
  exact ⟨fun hafter => hafter.spawn, fun hspawn => ⟨hspawn, h.objects⟩⟩

theorem edited_position_iff (h : scene.Finite) {id : Text}
    (hdeclared : scene.objects.contains id = true) (x y : Option Text) :
    (scene.edited style (.position id x y)).Finite ↔
      ∀ raw ∈ x.toList ++ y.toList, ¬ style.TooLarge raw := by
  obtain ⟨object, hobject⟩ := Option.isSome_iff_exists.mp hdeclared
  have hget : ∀ other, (scene.edited style (.position id x y)).objects.get? other =
      (scene.objects.get? other).map fun object =>
        if id = other then { object with position := object.position.update style x y }
        else object :=
    fun other => Scene.get?_objects_modifyObject ..
  rw [← Point.isFinite_update_iff (h.objects id object hobject)]
  constructor
  · intro hafter
    refine hafter.objects id { object with position := object.position.update style x y } ?_
    rw [hget, hobject, Option.map_some, if_pos rfl]
  · intro hposition
    refine ⟨h.spawn, fun other after hother => ?_⟩
    rw [hget] at hother
    obtain ⟨old, hold, rfl⟩ := Option.map_eq_some_iff.mp hother
    split
    · next hid =>
      subst hid
      rw [hobject] at hold
      cases hold
      exact hposition
    · exact h.objects other old hold

/-- **An edit keeps a scene finite if and only if no text that it gives is too large.** -/
theorem edited_iff (h : scene.Finite) (e : Edit) :
    (scene.edited style e).Finite ↔
      ∀ raw ∈ e.coordinates scene.objects.contains, ¬ style.TooLarge raw := by
  cases e with
  | spawn x y => exact h.edited_spawn_iff x y
  | position id x y =>
    cases hdeclared : scene.objects.contains id with
    | true =>
      rw [h.edited_position_iff hdeclared, Edit.coordinates, if_pos hdeclared]
    | false =>
      have hsame : scene.edited style (.position id x y) = scene :=
        Scene.modifyObject_of_contains_eq_false hdeclared _
      rw [hsame, Edit.coordinates, hdeclared]
      exact iff_of_true h nofun
  | _ => exact iff_of_true (h.edited_of_ne nofun nofun) nofun

end Scene.Finite

/-! ### All lines -/

/-- The texts that the line of a place gives as coordinates. -/
def Place.coordinates (scope : BlockScope) (p : Place) : List Text :=
  (p.edit? scope).elim [] (Edit.coordinates fun id => decide (DeclaresObject p.before id))

/-- The texts that lines give as coordinates. -/
def coordinates (scope : BlockScope) (lines : List Text) : List Text :=
  (places lines).flatMap (Place.coordinates scope)

theorem coordinates_concat (scope : BlockScope) (lines : List Text) (line : Text) :
    coordinates scope (lines ++ [line]) =
      coordinates scope lines ++ Place.coordinates scope ⟨lines, line⟩ := by
  rw [coordinates, places_concat, List.flatMap_append, List.flatMap_singleton, coordinates]

/-- The scene of the lines before a place, and what its line makes of it. -/
theorem Describes.finite_sceneAfter_iff {settings : Settings} {lines : List Text} {scene : Scene}
    (h : Describes settings lines scene) (hfinite : scene.Finite) (line : Text) :
    (Place.sceneAfter settings ⟨lines, line⟩ scene).Finite ↔
      ∀ raw ∈ Place.coordinates settings.blockScope ⟨lines, line⟩,
        ¬ settings.numberStyle.TooLarge raw := by
  unfold Place.sceneAfter Place.coordinates
  cases Place.edit? settings.blockScope ⟨lines, line⟩ with
  | none => exact iff_of_true hfinite nofun
  | some e =>
    rw [Option.elim_some, Option.elim_some, hfinite.edited_iff, h.contains_objects_eq]

/-- **The scene is finite after every line if and only if no text that some line gives is too
large.** -/
theorem finite_run_iff (settings : Settings) (lines : List Text) :
    (∀ before, before <+: lines → (Reading.run settings {} before).scene.Finite) ↔
      ∀ raw ∈ coordinates settings.blockScope lines, ¬ settings.numberStyle.TooLarge raw := by
  induction lines using List.reverseRecOn with
  | nil =>
    refine iff_of_true ?_ nofun
    intro before hbefore
    rw [List.prefix_nil.mp hbefore]
    exact Scene.finite_empty
  | append_singleton lines line ih =>
    have hdescribes := describes_run settings lines
    simp only [List.prefix_concat_iff, forall_eq_or_imp, coordinates_concat, List.forall_mem_append,
      ← ih, Reading.scene_run_concat]
    constructor
    · rintro ⟨hafter, hbefore⟩
      exact ⟨hbefore, (hdescribes.finite_sceneAfter_iff (hbefore _ (List.prefix_refl _)) line).mp
        hafter⟩
    · rintro ⟨hbefore, htexts⟩
      exact ⟨(hdescribes.finite_sceneAfter_iff (hbefore _ (List.prefix_refl _)) line).mpr htexts,
        hbefore⟩

/-! ### The last texts -/

/-- A text that was given last to a coordinate of the spawn point or of a declared object. -/
def GivenLast (scope : BlockScope) (lines : List Text) (raw : Text) : Prop :=
  ∃ key, (key = "x:".toList ∨ key = "y:".toList) ∧
    (lastGiven (·.given? scope .spawn (rest? key)) lines = some raw ∨
      ∃ id, DeclaresObject lines id ∧
        lastGiven (·.givenTo? scope id .position (restAfter? key)) lines = some raw)

section Last
variable {settings : Settings} {lines : List Text} {scene : Scene}

theorem isFinite_spawnCoordinate_iff (key : Text) :
    (spawnCoordinate settings lines key).IsFinite ↔
      ∀ raw, lastGiven (·.given? settings.blockScope .spawn (rest? key)) lines = some raw →
        ¬ settings.numberStyle.TooLarge raw :=
  isFinite_getD_iff Number.isFinite_zero _

theorem isFinite_coordinateOf_iff (id key : Text) :
    (coordinateOf settings lines id key).IsFinite ↔
      ∀ raw, lastGiven (·.givenTo? settings.blockScope id .position (restAfter? key)) lines =
        some raw → ¬ settings.numberStyle.TooLarge raw :=
  isFinite_getD_iff Number.isFinite_zero _

/-- **A scene that lines describe is finite if and only if no text that was given last is too
large.** -/
theorem Describes.finite_iff (h : Describes settings lines scene) :
    scene.Finite ↔
      ∀ raw, GivenLast settings.blockScope lines raw → ¬ settings.numberStyle.TooLarge raw := by
  constructor
  · rintro hfinite raw ⟨key, hkey, hspawn | ⟨id, hdeclared, hobject⟩⟩
    · have hpoint := hfinite.spawn
      rw [h.spawn] at hpoint
      rcases hkey with rfl | rfl
      · exact (isFinite_spawnCoordinate_iff _).mp hpoint.1 raw hspawn
      · exact (isFinite_spawnCoordinate_iff _).mp hpoint.2 raw hspawn
    · have hpoint := hfinite.objects id _ ((h.objects id).trans (if_pos hdeclared))
      rcases hkey with rfl | rfl
      · exact (isFinite_coordinateOf_iff id _).mp hpoint.1 raw hobject
      · exact (isFinite_coordinateOf_iff id _).mp hpoint.2 raw hobject
  · intro hlast
    constructor
    · rw [h.spawn]
      constructor
      · exact (isFinite_spawnCoordinate_iff _).mpr fun raw hraw =>
          hlast raw ⟨_, Or.inl rfl, Or.inl hraw⟩
      · exact (isFinite_spawnCoordinate_iff _).mpr fun raw hraw =>
          hlast raw ⟨_, Or.inr rfl, Or.inl hraw⟩
    · intro id object hget
      rw [h.objects id] at hget
      split at hget
      · next hdeclared =>
        cases hget
        constructor
        · exact (isFinite_coordinateOf_iff id _).mpr fun raw hraw =>
            hlast raw ⟨_, Or.inl rfl, Or.inr ⟨id, hdeclared, hraw⟩⟩
        · exact (isFinite_coordinateOf_iff id _).mpr fun raw hraw =>
            hlast raw ⟨_, Or.inr rfl, Or.inr ⟨id, hdeclared, hraw⟩⟩
      · cases hget

end Last

/-! ### The snapshot -/

namespace Json

/-- A document has a member of this name and value, at some depth. -/
inductive Has : Json → Text → Json → Prop
  | here {members : List (Text × Json)} {name : Text} {value : Json}
      (h : (name, value) ∈ members) : Has (.object members) name value
  | inMember {members : List (Text × Json)} {name other : Text} {value inner : Json}
      (h : (other, inner) ∈ members) (inside : Has inner name value) :
      Has (.object members) name value
  | inItem {items : List Json} {name : Text} {value inner : Json}
      (h : inner ∈ items) (inside : Has inner name value) : Has (.array items) name value

/-- Every coordinate of a document is a number. -/
def Located (document : Json) : Prop :=
  ∀ name value, document.Has name value → name = "x".toList ∨ name = "y".toList →
    ∃ token, value = .number token

theorem located_array_iff {items : List Json} :
    (array items).Located ↔ ∀ item ∈ items, item.Located := by
  constructor
  · intro h item hitem name value inside
    exact h name value (.inItem hitem inside)
  · intro h name value hhas
    cases hhas with
    | inItem hitem inside => exact h _ hitem name value inside

theorem located_object_iff {members : List (Text × Json)} :
    (object members).Located ↔ ∀ member ∈ members, member.2.Located ∧
      (member.1 = "x".toList ∨ member.1 = "y".toList → ∃ token, member.2 = .number token) := by
  constructor
  · intro h member hmember
    exact ⟨fun name value inside => h name value (.inMember hmember inside),
      h _ _ (.here hmember)⟩
  · intro h name value hhas
    cases hhas with
    | here hmember => exact (h _ hmember).2
    | inMember hmember inside => exact (h _ hmember).1 name value inside

@[simp] theorem located_null : null.Located := nofun

@[simp] theorem located_bool (b : Bool) : (bool b).Located := nofun

@[simp] theorem located_number (token : Text) : (number token).Located := nofun

@[simp] theorem located_string (t : Text) : (string t).Located := nofun

end Json

@[simp] theorem Number.located_json (n : Number) : n.json.Located := by
  cases n with
  | finite x => exact Json.located_number _
  | infinite negative => exact Json.located_null
  | nan => exact Json.located_null

@[simp] theorem Gravity.located_json (g : Gravity) : g.json.Located := by
  cases g with
  | unset => exact Json.located_null
  | value x => exact x.located_json
  | unreadable => exact Json.located_null

theorem Number.json_eq_number_iff (n : Number) :
    (∃ token, n.json = .number token) ↔ n.IsFinite := by
  cases n with
  | finite x => exact iff_of_true ⟨_, rfl⟩ trivial
  | infinite negative => exact iff_of_false (fun ⟨_, h⟩ => nomatch h) id
  | nan => exact iff_of_false (fun ⟨_, h⟩ => nomatch h) id

theorem Point.located_json_iff (p : Point) : p.json.Located ↔ p.IsFinite := by
  rw [Point.json, Json.located_object_iff]
  simp [Number.json_eq_number_iff, Point.IsFinite]

theorem Object.located_json_iff (object : Object) :
    object.json.Located ↔ object.position.IsFinite := by
  rw [Object.json, Json.located_object_iff]
  simp [Point.located_json_iff]

theorem Background.located_json (background : Background) : background.json.Located := by
  rw [Background.json, Json.located_object_iff]
  simp

/-- A registry is located if its values are. -/
theorem Registry.located_json_iff {α : Type} (f : α → Json) (r : Registry α) :
    (r.json f).Located ↔ ∀ id value, r.get? id = some value → (f value).Located := by
  rw [Registry.json, Json.located_array_iff, List.forall_mem_map]
  simp [Json.located_array_iff, Registry.get?_eq_some_iff]

/-- **The snapshot shows numbers for all coordinates if and only if they are finite.** -/
theorem Scene.located_json_iff (scene : Scene) : scene.json.Located ↔ scene.Finite := by
  have hfields : scene.json.Located ↔ scene.spawn.IsFinite ∧
      ∀ id object, scene.objects.get? id = some object → object.position.IsFinite := by
    rw [Scene.json, Json.located_object_iff]
    simp [Json.located_object_iff, Point.located_json_iff, Registry.located_json_iff,
      Background.located_json, Object.located_json_iff]
  rw [hfields]
  exact ⟨fun ⟨hspawn, hobjects⟩ => ⟨hspawn, hobjects⟩, fun h => ⟨h.spawn, h.objects⟩⟩

/-! ### Sessions -/

namespace Session

/-- Every coordinate that a session shows is finite: in its scene, in the snapshot, and where a
sprite stands that is not as it was in an earlier session. -/
structure ShowsFinite (s t : Session) : Prop where
  scene : t.scene.Finite
  snapshot : t.scene.json.Located
  stage : List.Forall₂ (fun before after => after = before ∨ after.position.IsFinite)
    s.stage t.stage

theorem isFinite_objectPosition {t : Session} (h : t.scene.Finite) (id : Text) :
    (t.objectPosition id).IsFinite := by
  unfold objectPosition
  cases hobject : t.scene.objects.get? id with
  | none => exact Point.isFinite_origin
  | some object => exact h.objects id object hobject

/-- A sprite that was moved stands where its object does. -/
theorem InStep.showsFinite_iff {s t : Session} {times : Text → Nat} (h : s.InStep times t) :
    s.ShowsFinite t ↔ t.scene.Finite := by
  refine ⟨fun hshows => hshows.scene, fun hfinite => ⟨hfinite, ?_, ?_⟩⟩
  · exact t.scene.located_json_iff.mpr hfinite
  · rw [h.stage, List.forall₂_map_right_iff, List.forall₂_same]
    intro sprite _
    cases s.bindings.get? sprite.name with
    | none => exact Or.inl rfl
    | some id =>
      by_cases hzero : times id = 0
      · rw [Option.elim_some, hzero, Sprite.moved_zero]
        exact Or.inl rfl
      · refine Or.inr ?_
        rw [Option.elim_some, Sprite.moved, if_neg hzero]
        split
        · exact isFinite_objectPosition hfinite id
        · exact isFinite_objectPosition hfinite id

/-- **Which coordinates are finite.**  Along a script, every coordinate of the scene, of the
snapshot and of the sprites that were moved is finite after every line if and only if no text that
a line gives as a coordinate is too large.  When the script was read, they are finite if and only
if no text that was given last is. -/
theorem finite_read (s : Session) (script : Text) :
    let lines := contentLines script
    ((∀ before, before <+: lines → s.ShowsFinite (s.afterLines before)) ↔
        ∀ raw ∈ coordinates s.settings.blockScope lines,
          ¬ s.settings.numberStyle.TooLarge raw) ∧
      (s.ShowsFinite (s.read script) ↔
        ∀ raw, GivenLast s.settings.blockScope lines raw →
          ¬ s.settings.numberStyle.TooLarge raw) := by
  intro lines
  constructor
  · rw [← finite_run_iff]
    refine forall_congr' fun before => imp_congr_right fun _ => ?_
    rw [(s.inStep_afterLines before).showsFinite_iff, scene_afterLines]
  · rw [(s.inStep_read script).showsFinite_iff]
    exact (s.describes_afterLines lines).finite_iff

/-- An integer of 310 digits is an infinite coordinate of the spawn point, of an object, of the
object's sprite and, as null, of the snapshot. -/
theorem finite_read_tooLarge :
    let digits := '1' :: List.replicate 309 '0'
    let script := "planets.spawn\ny: -".toList ++ digits ++
      "\nnew Object:a;\nsetPositionOf with id \"a\"\nx: ".toList ++ digits
    let s := (fresh {} [{ name := "A".toList }] .empty).run
      [.bindObject "A".toList "a".toList, .read script]
    s.scene.spawn.y = .infinite true ∧ (s.objectPosition "a".toList).x = .infinite false ∧
      s.stage.map (·.position.x) = [.infinite false] ∧
      contains "\"x\":null".toList s.scene.snapshot = true := by
  decide +kernel

end Session
end PlanetScript
