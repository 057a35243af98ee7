import PlanetScript.Stage.Costume

/-! # The stage

The stage holds the sprites that show a scene.  Sprites are found by name; clones share
one.  A costume goes to the first sprite of a name, a position to all of them.

A sprite takes a position in one of two ways: by a setter, which counts as a move, or by
its raw coordinates, after which it has to be redrawn.
-/
namespace PlanetScript

/-- A named sprite. -/
structure Sprite where
  name : Text
  /-- Whether the sprite has a setter for its position. -/
  hasSetter : Bool := true
  position : Point := {}
  moves : Nat := 0
  redraws : Nat := 0
  costumes : List Costume := []
  /-- The index of the costume that is worn. -/
  selected : Nat := 0
deriving DecidableEq

namespace Sprite

/-- The costume that is worn. -/
def worn? (sprite : Sprite) : Option Costume := sprite.costumes[sprite.selected]?

/-- Wears the costume at an index, if there is one. -/
def select (sprite : Sprite) (index : Nat) : Sprite :=
  if index < sprite.costumes.length then { sprite with selected := index } else sprite

/-- The place of a costume of this name: where the first one stands, or behind the last. -/
def slot (sprite : Sprite) (name : Text) : Nat :=
  sprite.costumes.findIdx fun costume => costume.name == name

/-- The costumes with one put in the place of its name. -/
def dressedIn (sprite : Sprite) (costume : Costume) : List Costume :=
  if sprite.slot costume.name < sprite.costumes.length then
    sprite.costumes.set (sprite.slot costume.name) costume
  else sprite.costumes ++ [costume]

/-- Puts a costume in the place of its name and wears it. -/
def wear (sprite : Sprite) (costume : Costume) : Sprite :=
  { sprite with costumes := sprite.dressedIn costume }.select (sprite.slot costume.name)

/-- Moves a sprite. -/
def moveTo (sprite : Sprite) (p : Point) : Sprite :=
  if sprite.hasSetter then { sprite with position := p, moves := sprite.moves + 1 }
  else { sprite with position := p, redraws := sprite.redraws + 1 }

theorem slot_lt_length_dressedIn (sprite : Sprite) (costume : Costume) :
    sprite.slot costume.name < (sprite.dressedIn costume).length := by
  unfold dressedIn
  split
  · simpa using ‹_›
  · have : sprite.slot costume.name ≤ sprite.costumes.length := List.findIdx_le_length
    simp only [List.length_append, List.length_cons, List.length_nil]
    omega

/-- A costume that a sprite wears is the one in the place of its name. -/
theorem selected_wear (sprite : Sprite) (costume : Costume) :
    (sprite.wear costume).selected = sprite.slot costume.name := by
  simp [wear, select, slot_lt_length_dressedIn]

@[simp] theorem name_wear (sprite : Sprite) (costume : Costume) :
    (sprite.wear costume).name = sprite.name := by
  unfold wear select
  split <;> rfl

@[simp] theorem name_moveTo (sprite : Sprite) (p : Point) :
    (sprite.moveTo p).name = sprite.name := by
  unfold moveTo
  split <;> rfl

theorem costumes_wear (sprite : Sprite) (costume : Costume) :
    (sprite.wear costume).costumes = sprite.dressedIn costume := by
  unfold wear select
  split <;> rfl

theorem getElem?_slot_dressedIn (sprite : Sprite) (costume : Costume) :
    (sprite.dressedIn costume)[sprite.slot costume.name]? = some costume := by
  unfold dressedIn
  split
  · next h => exact List.getElem?_set_self h
  · next h =>
    have hle : sprite.slot costume.name ≤ sprite.costumes.length := List.findIdx_le_length
    have heq : sprite.slot costume.name = sprite.costumes.length := by omega
    rw [heq, List.getElem?_concat_length]

/-- A sprite wears the costume that it was given. -/
theorem worn?_wear (sprite : Sprite) (costume : Costume) :
    (sprite.wear costume).worn? = some costume := by
  rw [worn?, selected_wear, costumes_wear, getElem?_slot_dressedIn]

end Sprite

/-- The sprites in the order in which they came. -/
abbrev Stage := List Sprite

namespace Stage

/-- The stage with one more sprite, behind all others. -/
def add (stage : Stage) (sprite : Sprite) : Stage := stage ++ [sprite]

/-- The first sprite of a name. -/
def find? (stage : Stage) (name : Text) : Option Sprite :=
  List.find? (fun sprite => sprite.name == name) stage

/-- Whether a sprite has this name. -/
def has (stage : Stage) (name : Text) : Bool := (stage.find? name).isSome

/-- Changes the first sprite of a name. -/
def modifyFirst (name : Text) (f : Sprite → Sprite) : Stage → Stage
  | [] => []
  | sprite :: stage =>
    if sprite.name = name then f sprite :: stage else sprite :: modifyFirst name f stage

/-- Moves every sprite whose name satisfies `p`. -/
def placeWhere (stage : Stage) (p : Text → Bool) (point : Point) : Stage :=
  stage.map fun sprite => if p sprite.name then sprite.moveTo point else sprite

/-- How many sprites have a name that satisfies `p`. -/
def countWhere (stage : Stage) (p : Text → Bool) : Nat := stage.countP fun sprite => p sprite.name

/-- The places of the sprites of a name. -/
def indicesOf (stage : Stage) (name : Text) : List Nat :=
  (List.range stage.length).filter fun index => stage[index]?.any fun sprite => sprite.name = name

/-- Moves the sprite at a place, and counts it. -/
def place (point : Point) (state : Stage × Nat) (index : Nat) : Stage × Nat :=
  (state.1.modify index (·.moveTo point), state.2 + 1)

/-- Moves the sprites of a name one after the other, and counts them. -/
def placeNamed (point : Point) (state : Stage × Nat) (name : Text) : Stage × Nat :=
  (state.1.indicesOf name).foldl (place point) state

/-- The stage without the sprites of a name. -/
def remove (stage : Stage) (name : Text) : Stage := stage.filter fun sprite => sprite.name ≠ name

/-! ### Finding sprites after a change -/

section Find
variable {stage : Stage} {name other : Text}

theorem find?_modifyFirst {f : Sprite → Sprite} (hf : ∀ sprite, (f sprite).name = sprite.name) :
    (stage.modifyFirst name f).find? other =
      if other = name then (stage.find? name).map f else stage.find? other := by
  unfold find?
  induction stage with
  | nil => simp [modifyFirst]
  | cons sprite stage ih =>
    unfold modifyFirst
    by_cases hn : sprite.name = name
    · rw [if_pos hn]
      by_cases ho : other = name
      · subst ho
        simp [hn, hf]
      · simp [hn, hf, ho, Ne.symm ho]
    · rw [if_neg hn]
      by_cases hs : sprite.name = other
      · have ho : ¬ other = name := hs ▸ hn
        simp [hs, ho]
      · have hskip : ∀ sprites, List.find? (fun sprite => sprite.name == other)
            (sprite :: sprites) = List.find? (fun sprite => sprite.name == other) sprites :=
          fun sprites => List.find?_cons_of_neg (by simpa using hs)
        rw [hskip, hskip, ih, List.find?_cons_of_neg (by simpa using hn)]

theorem find?_placeWhere (p : Text → Bool) (point : Point) :
    (stage.placeWhere p point).find? name =
      (stage.find? name).map fun sprite =>
        if p sprite.name then sprite.moveTo point else sprite := by
  unfold placeWhere find?
  rw [List.find?_map]
  congr 2
  funext sprite
  simp only [Function.comp_apply]
  split <;> simp

@[simp] theorem has_placeWhere (p : Text → Bool) (point : Point) :
    (stage.placeWhere p point).has name = stage.has name := by
  simp [has, find?_placeWhere]

end Find

end Stage
end PlanetScript
