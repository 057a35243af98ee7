import Mathlib.Data.List.Induction
import PlanetScript.Session.Flush

/-! # What landing syncs leave on the stage

A sync that lands dresses the first sprite of its name and touches no other.  So after a
backlog has landed, the first sprite of a name wears the costume of the last sync to that
name (`worn?_landed`), whatever was on its way before it.
-/
namespace PlanetScript

namespace Sync
variable {sync : Sync} {stage : Stage} {name : Text}

/-- A sync does not touch the sprites of other names. -/
theorem find?_land_of_ne (h : sync.sprite ≠ name) :
    (sync.land stage).1.find? name = stage.find? name := by
  unfold land
  split
  · rfl
  · split
    · rw [Stage.find?_modifyFirst fun sprite => sprite.name_wear _, if_neg (Ne.symm h)]
    · rfl

/-- A sync with a texture dresses the first sprite of its name. -/
theorem find?_land_self {texture : Texture} (hok : sync.result = .ok texture) :
    (sync.land stage).1.find? sync.sprite =
      (stage.find? sync.sprite).map (·.wear (sync.costume texture)) := by
  unfold land
  rw [hok]
  simp only
  split
  · rw [Stage.find?_modifyFirst fun sprite => sprite.name_wear _, if_pos rfl]
  · next h =>
    rw [Stage.has, Bool.not_eq_true, Option.isSome_eq_false_iff, Option.isNone_iff_eq_none] at h
    rw [h]
    rfl

@[simp] theorem has_land : (sync.land stage).1.has name = stage.has name := by
  by_cases h : sync.sprite = name
  · subst h
    cases hr : sync.result with
    | error failure => simp [land, hr]
    | ok texture => rw [Stage.has, find?_land_self hr, Option.isSome_map, Stage.has]
  · rw [Stage.has, find?_land_of_ne h, Stage.has]

end Sync

namespace Backlog

/-- The stage on which a backlog has landed. -/
def landed (queue : Backlog) (stage : Stage) : Stage :=
  queue.foldl (fun stage sync => (sync.land stage).1) stage

/-- The last sync to a sprite of this name. -/
def lastTo? (queue : Backlog) (name : Text) : Option Sync :=
  (queue.filter (·.sprite = name)).getLast?

theorem lastTo?_push (queue : Backlog) (sync : Sync) (name : Text) :
    (queue.push sync).lastTo? name =
      if sync.sprite = name then some sync else queue.lastTo? name := by
  unfold lastTo? push
  rw [List.filter_append, List.getLast?_append]
  by_cases h : sync.sprite = name <;> simp [h]

theorem landed_push (queue : Backlog) (sync : Sync) (stage : Stage) :
    (queue.push sync).landed stage = (sync.land (queue.landed stage)).1 := by
  rw [landed, push, List.foldl_append]
  rfl

@[simp] theorem has_landed (queue : Backlog) (stage : Stage) (name : Text) :
    (queue.landed stage).has name = stage.has name := by
  unfold landed
  induction queue generalizing stage with
  | nil => rfl
  | cons sync queue ih => rw [List.foldl_cons, ih, Sync.has_land]

/-- Where no sync goes to a name, its first sprite stays as it is. -/
theorem find?_landed_of_lastTo?_eq_none {queue : Backlog} {name : Text}
    (h : queue.lastTo? name = none) (stage : Stage) :
    (queue.landed stage).find? name = stage.find? name := by
  induction queue using List.reverseRecOn with
  | nil => rfl
  | append_singleton queue last ih =>
    change (push queue last).lastTo? name = none at h
    change ((push queue last).landed stage).find? name = _
    rw [lastTo?_push] at h
    split at h
    · cases h
    · next hname => rw [landed_push, Sync.find?_land_of_ne hname, ih h]

/-- **The last sync to a name says what its first sprite wears.** -/
theorem worn?_landed {queue : Backlog} {stage : Stage} {name : Text} {sync : Sync}
    {texture : Texture} (hlast : queue.lastTo? name = some sync) (hok : sync.result = .ok texture)
    {sprite : Sprite} (hsprite : (queue.landed stage).find? name = some sprite) :
    sprite.worn? = some (sync.costume texture) := by
  -- from the end of the queue: what lands last on the sprite overrides what came before
  induction queue using List.reverseRecOn generalizing sprite with
  | nil => cases hlast
  | append_singleton queue last ih =>
    change (push queue last).lastTo? name = some sync at hlast
    change ((push queue last).landed stage).find? name = some sprite at hsprite
    rw [lastTo?_push] at hlast
    rw [landed_push] at hsprite
    split at hlast
    · next hname =>
      cases hlast
      rw [← hname, Sync.find?_land_self hok] at hsprite
      obtain ⟨bare, -, rfl⟩ := Option.map_eq_some_iff.mp hsprite
      exact bare.worn?_wear _
    · next hname =>
      rw [Sync.find?_land_of_ne hname] at hsprite
      exact ih hlast hsprite

end Backlog

namespace Session

theorem stage_foldl_land (queue : Backlog) (state : Session × FlushReport) :
    (queue.foldl land state).1.stage = queue.landed state.1.stage := by
  unfold Backlog.landed
  induction queue generalizing state with
  | nil => rfl
  | cons sync queue ih => exact ih (land state sync)

theorem stage_flush (s : Session) : s.flush.1.stage = s.pending.landed s.stage :=
  stage_foldl_land s.pending ({ s with pending := [] }, {})

end Session
end PlanetScript
