import Mathlib.Data.List.Flatten
import Mathlib.Data.List.Induction
import Mathlib.Data.List.Nodup
import Mathlib.Logic.Function.Iterate
import PlanetScript.Session.Basic

/-! # The sprites of an object

The position of an object is followed by a loop over the names that are bound to its id, and for
each name over the sprites that have it.  No name is listed twice and a sprite has one name, so
the loop comes to no place of the stage twice (`Stage.nodup_visits`), and the places that it comes
to are those of the sprites whose names are bound to the id (`Session.mem_visits_namesOf`).

What the loop leaves can therefore be said of all sprites at once: those of bound names are moved
once and counted, and the others stay (`Session.followPosition_of_get?`).
-/
namespace PlanetScript
open Text

namespace Stage
variable {names : List Text}

/-! ### The places of names -/

/-- The places of the sprites of these names, name after name. -/
def visits (stage : Stage) (names : List Text) : List Nat := names.flatMap stage.indicesOf

theorem mem_indicesOf {stage : Stage} {name : Text} {index : Nat} :
    index ∈ stage.indicesOf name ↔ ∃ sprite, stage[index]? = some sprite ∧ sprite.name = name := by
  simp only [indicesOf, List.mem_filter, List.mem_range, Option.any_eq_true, decide_eq_true_eq]
  refine and_iff_right_of_imp ?_
  rintro ⟨sprite, hsprite, -⟩
  exact (List.getElem?_eq_some_iff.mp hsprite).1

theorem nodup_indicesOf (stage : Stage) (name : Text) : (stage.indicesOf name).Nodup :=
  List.nodup_range.filter _

theorem mem_visits {stage : Stage} {index : Nat} :
    index ∈ stage.visits names ↔ ∃ sprite, stage[index]? = some sprite ∧ sprite.name ∈ names := by
  simp only [visits, List.mem_flatMap, mem_indicesOf]
  constructor
  · rintro ⟨name, hname, sprite, hsprite, rfl⟩
    exact ⟨sprite, hsprite, hname⟩
  · rintro ⟨sprite, hsprite, hname⟩
    exact ⟨sprite.name, hname, sprite, hsprite, rfl⟩

/-- Different names have no sprite in common. -/
theorem nodup_visits (h : names.Nodup) (stage : Stage) : (stage.visits names).Nodup := by
  refine List.nodup_flatMap.mpr ⟨fun name _ => stage.nodup_indicesOf name, h.imp fun hne => ?_⟩
  intro index hfirst hsecond
  obtain ⟨sprite, hsprite, rfl⟩ := mem_indicesOf.mp hfirst
  obtain ⟨other, hother, hname⟩ := mem_indicesOf.mp hsecond
  cases hsprite.symm.trans hother
  exact hne hname

/-- The places of sprites are found by their names alone. -/
theorem visits_eq_of_names {stage other : Stage} (names : List Text)
    (h : stage.map (·.name) = other.map (·.name)) : stage.visits names = other.visits names := by
  have hlength : stage.length = other.length := by
    rw [← List.length_map (·.name), h, List.length_map]
  have hname : ∀ index : Nat, stage[index]?.map (·.name) = other[index]?.map (·.name) := by
    intro index
    rw [← List.getElem?_map, h, List.getElem?_map]
  have hindices : stage.indicesOf = other.indicesOf := by
    funext name
    rw [indicesOf, indicesOf, hlength]
    refine List.filter_congr fun index _ => ?_
    have hany := congrArg (Option.any fun found => decide (found = name)) (hname index)
    rwa [Option.any_map, Option.any_map] at hany
  rw [visits, visits, hindices]

theorem visits_cons (stage : Stage) (name : Text) (names : List Text) :
    stage.visits (name :: names) = stage.indicesOf name ++ stage.visits names :=
  List.flatMap_cons

theorem length_visits (h : names.Nodup) (stage : Stage) :
    (stage.visits names).length = stage.countWhere (· ∈ names) := by
  have hperm : (stage.visits names).Perm (stage.findIdxs fun sprite => sprite.name ∈ names) := by
    rw [List.perm_ext_iff_of_nodup (nodup_visits h stage) List.nodup_findIdxs]
    intro index
    rw [mem_visits, List.mem_findIdxs_iff_exists_getElem_pos]
    simp [List.getElem?_eq_some_iff]
  rw [hperm.length_eq, List.length_findIdxs, countWhere]

/-! ### The loop -/

section Loop
variable (p : Point) (names : List Text) (indices : List Nat) (state : Stage × Nat)

theorem snd_foldl_place : (indices.foldl (place p) state).2 = state.2 + indices.length := by
  induction indices generalizing state with
  | nil => rfl
  | cons index indices ih =>
    rw [List.foldl_cons, ih, List.length_cons, place]
    omega

/-- A sprite is moved as often as its place is visited. -/
theorem getElem?_foldl_place (index : Nat) :
    (indices.foldl (place p) state).1[index]? =
      state.1[index]?.map (Nat.iterate (·.moveTo p) (indices.count index)) := by
  induction indices generalizing state with
  | nil => simp
  | cons first indices ih =>
    rw [List.foldl_cons, ih, place, List.getElem?_modify, List.count_cons]
    by_cases h : first = index
    · cases state.1[index]? <;> simp [h]
    · simp [h]

/-- Moving sprites changes no name. -/
theorem names_foldl_place :
    (indices.foldl (place p) state).1.map (·.name) = state.1.map (·.name) := by
  have hname : ∀ count (sprite : Sprite),
      (Nat.iterate (·.moveTo p) count sprite).name = sprite.name := by
    intro count
    induction count with
    | zero => exact fun _ => rfl
    | succ count ih => exact fun sprite => (ih _).trans (sprite.name_moveTo p)
  refine List.ext_getElem? fun index => ?_
  rw [List.getElem?_map, List.getElem?_map, getElem?_foldl_place, Option.map_map]
  exact congrArg (Option.map · state.1[index]?) (funext fun sprite => hname _ sprite)

/-- The loop over names and sprites is a loop over the places of the sprites. -/
theorem foldl_placeNamed :
    names.foldl (placeNamed p) state = (state.1.visits names).foldl (place p) state := by
  induction names generalizing state with
  | nil => rfl
  | cons name names ih =>
    -- the sprites that were moved for the first name are found at the same places afterwards
    have hrest : (placeNamed p state name).1.visits names = state.1.visits names :=
      visits_eq_of_names names (names_foldl_place p _ state)
    rw [List.foldl_cons, ih, hrest, visits_cons, List.foldl_append]
    rfl

/-- Visiting places once each moves the sprites that stand there. -/
theorem fst_foldl_place {visits : List Nat} (hnodup : visits.Nodup) (stage : Stage)
    {q : Text → Bool}
    (hmem : ∀ index sprite, stage[index]? = some sprite → (index ∈ visits ↔ q sprite.name = true)) :
    (visits.foldl (place p) (stage, 0)).1 = stage.placeWhere q p := by
  refine List.ext_getElem? fun index => ?_
  rw [getElem?_foldl_place, placeWhere, List.getElem?_map]
  refine Option.map_congr fun sprite hsprite => ?_
  by_cases h : index ∈ visits
  · rw [List.count_eq_one_of_mem hnodup h, if_pos ((hmem index sprite hsprite).mp h)]
    rfl
  · rw [List.count_eq_zero_of_not_mem h, if_neg (mt (hmem index sprite hsprite).mpr h)]
    rfl

end Loop
end Stage

/-! ### Following an object -/

namespace Session
variable {s : Session} {id : Text}

theorem mem_namesOf {name : Text} : name ∈ s.namesOf id ↔ s.bindings.get? name = some id := by
  simp [namesOf, Registry.mem_keysWhere_iff]

theorem nodup_namesOf (s : Session) (id : Text) : (s.namesOf id).Nodup :=
  s.bindings.nodup_keysWhere _

/-- The loop comes to the places of the sprites whose names are bound to the id. -/
theorem mem_visits_namesOf {index : Nat} :
    index ∈ s.stage.visits (s.namesOf id) ↔
      ∃ sprite, s.stage[index]? = some sprite ∧ s.bindings.get? sprite.name = some id := by
  simp only [Stage.mem_visits, mem_namesOf]

/-- **Following an object moves the sprites of its names once each, and counts them.** -/
theorem followPosition_of_get? {object : Object} (h : s.scene.objects.get? id = some object) :
    s.followPosition id =
      ({ s with
          stage := s.stage.placeWhere (fun name => s.bindings.get? name = some id)
            object.position },
        s.stage.countWhere fun name => s.bindings.get? name = some id) := by
  have hstage : ((s.stage.visits (s.namesOf id)).foldl (Stage.place object.position)
      (s.stage, 0)).1 =
        s.stage.placeWhere (fun name => s.bindings.get? name = some id) object.position := by
    refine Stage.fst_foldl_place _ (Stage.nodup_visits (s.nodup_namesOf id) _) s.stage ?_
    intro index sprite hsprite
    rw [mem_visits_namesOf, decide_eq_true_iff]
    simp [hsprite]
  have hcount : ((s.stage.visits (s.namesOf id)).foldl (Stage.place object.position)
      (s.stage, 0)).2 = s.stage.countWhere fun name => s.bindings.get? name = some id := by
    rw [Stage.snd_foldl_place, Stage.length_visits (s.nodup_namesOf id), Nat.zero_add]
    simp only [mem_namesOf]
  rw [followPosition, h]
  simp only [Stage.foldl_placeNamed, hstage, hcount]

theorem followPosition_of_get?_eq_none (h : s.scene.objects.get? id = none) :
    s.followPosition id = (s, 0) := by rw [followPosition, h]

end Session
end PlanetScript
