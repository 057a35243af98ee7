import Mathlib.Data.List.Basic
import Mathlib.Data.List.Find
import Mathlib.Data.List.Induction
import PlanetScript.Texture.Sync

/-! # What a sprite wears after many textures

Textures come to a sprite one after the other, and each costume takes the place of its name:
where the first costume of that name stands, or behind all others.  What is left in the end can
be said without the order of the steps (`Sprite.dressedBy`): in the place of each id there is
the costume that came last for it, the places of new ids stand behind the old costumes in the
order in which the ids came first, and the costume that came last of all is worn.

The proof follows the list of costumes.  A costume takes those that came for its name and lets
the others pass (`Arrival.putAllIn_cons`); those that pass all costumes make the new places
(`Arrival.putAllIn_nil`).
-/
namespace PlanetScript
open Text

/-- Different ids have costumes of different names. -/
theorem Costume.nameOf_injective : Function.Injective Costume.nameOf :=
  fun _ _ h => List.append_cancel_right h

/-- A costume that shows the texture of an id: named for the id, of the flavour that the end of the
URL announces, with an asset id of the digest of its bytes and that flavour, and turning about the
origin. -/
structure Costume.Shows (costume : Costume) (id url : Text) (bytes : Bytes) : Prop where
  name : costume.name = id ++ "-texture".toList
  kind : costume.kind = if ".svg".toList <:+ url then .vector else .raster
  assetId : costume.assetId =
    Sha256.hexDigest bytes ++ if ".svg".toList <:+ url then ".svg".toList else ".png".toList
  center : costume.center = ⟨.zero, .zero⟩
  bytes : costume.bytes = bytes
  url : costume.url = url

theorem Costume.shows_make (id url : Text) (bytes : Bytes) :
    (Costume.make (nameOf id) (.ofUrl url) bytes url).Shows id url bytes := by
  have hend : endsWith ".svg".toList url = true ↔ ".svg".toList <:+ url :=
    List.isSuffixOf_iff_suffix
  refine ⟨rfl, if_congr hend rfl rfl, ?_, rfl, rfl, rfl⟩
  simp only [make, assetIdOf, Graphic.ofUrl, hend]
  split <;> rfl

/-- A sync whose request was answered with a texture. -/
structure Arrival where
  sync : Sync
  texture : Texture
  answered : sync.result = .ok texture

namespace Arrival

/-- The id whose texture it is. -/
def id (arrival : Arrival) : Text := arrival.sync.id

/-- The costume that shows the texture. -/
def costume (arrival : Arrival) : Costume := arrival.sync.costume arrival.texture

theorem name_costume (arrival : Arrival) :
    arrival.costume.name = Costume.nameOf arrival.id := rfl

/-- The distinct ids of arrivals, in the order in which they came first. -/
def ids (arrivals : List Arrival) : List Text := (arrivals.map id).eraseDups

/-- The costume that came last for an id. -/
def latest? (arrivals : List Arrival) (id : Text) : Option Costume :=
  (arrivals.filter (·.id = id)).getLast?.map costume

end Arrival

namespace Sprite

/-- What came last for the id whose costumes have the place at an index. -/
def replacement? (sprite : Sprite) (arrivals : List Arrival) (index : Nat) : Option Costume :=
  ((Arrival.ids arrivals).find? fun id => sprite.slot (Costume.nameOf id) = index).bind
    (Arrival.latest? arrivals)

/-- What came last for each id whose costumes had no place, in the order of the ids. -/
def additions (sprite : Sprite) (arrivals : List Arrival) : List Costume :=
  ((Arrival.ids arrivals).filter fun id =>
    sprite.slot (Costume.nameOf id) = sprite.costumes.length).filterMap (Arrival.latest? arrivals)

/-- The costumes after arrivals: each place has what came last for it, new places follow. -/
def costumesAfter (sprite : Sprite) (arrivals : List Arrival) : List Costume :=
  (sprite.costumes.mapIdx fun index costume =>
    (sprite.replacement? arrivals index).getD costume) ++ sprite.additions arrivals

/-- The sprite after arrivals: it wears what came last. -/
def dressedBy (sprite : Sprite) (arrivals : List Arrival) : Sprite :=
  { sprite with
    costumes := sprite.costumesAfter arrivals
    selected := match arrivals.getLast? with
      | none => sprite.selected
      | some last => (sprite.costumesAfter arrivals).findIdx (·.name == Costume.nameOf last.id) }

end Sprite

namespace Arrival

/-! ### Ids and their last costumes -/

/-- Removing what fails a test keeps the order in which the others came first. -/
theorem eraseDups_filter (p : Text → Bool) (names : List Text) :
    (names.filter p).eraseDups = names.eraseDups.filter p := by
  induction names using List.reverseRecOn with
  | nil => rfl
  | append_singleton names name ih =>
    rw [List.filter_append, List.eraseDups_append, List.eraseDups_append, List.filter_append, ih]
    by_cases hp : p name = true <;> by_cases hmem : name ∈ names <;>
      simp [List.removeAll, List.eraseDups_cons, hp, hmem]

section Latest
variable {arrivals : List Arrival}

@[simp] theorem mem_ids {id : Text} : id ∈ ids arrivals ↔ ∃ a ∈ arrivals, a.id = id := by
  rw [ids, List.mem_eraseDups, List.mem_map]

theorem ids_cons (a : Arrival) :
    ids (a :: arrivals) = a.id :: ids (arrivals.filter (·.id ≠ a.id)) := by
  unfold ids
  rw [List.map_cons, List.eraseDups_cons, List.filter_map]
  congr 4
  funext b
  by_cases h : b.id = a.id <;> simp [h]

/-- The ids of the arrivals that pass a test of ids. -/
theorem ids_filter (p : Text → Bool) :
    ids (arrivals.filter fun a => p a.id) = (ids arrivals).filter p := by
  unfold ids
  rw [← eraseDups_filter, List.filter_map]
  rfl

theorem latest?_filter (p : Text → Bool) {id : Text} (h : p id = true) :
    latest? (arrivals.filter fun a => p a.id) id = latest? arrivals id := by
  unfold latest?
  rw [List.filter_filter]
  congr 2
  refine List.filter_congr fun a _ => ?_
  by_cases ha : a.id = id <;> simp [ha, h]

/-- The ids of the arrivals that a costume of this name lets pass. -/
theorem ids_pass (name : Text) :
    ids (arrivals.filter (·.costume.name ≠ name)) =
      (ids arrivals).filter fun id => Costume.nameOf id ≠ name :=
  ids_filter fun id => Costume.nameOf id ≠ name

theorem latest?_pass {name id : Text} (h : Costume.nameOf id ≠ name) :
    latest? (arrivals.filter (·.costume.name ≠ name)) id = latest? arrivals id :=
  latest?_filter (fun id => Costume.nameOf id ≠ name) (decide_eq_true h)

/-- The costume that came last with a name: the one of the only id whose costumes have it. -/
theorem find?_bind_latest? (name : Text) :
    ((ids arrivals).find? fun id => Costume.nameOf id = name).bind (latest? arrivals) =
      (arrivals.filter (·.costume.name = name)).getLast?.map costume := by
  cases hfind : (ids arrivals).find? fun id => Costume.nameOf id = name with
  | none =>
    have hnone : arrivals.filter (·.costume.name = name) = [] := by
      rw [List.filter_eq_nil_iff]
      intro a ha
      exact List.find?_eq_none.mp hfind a.id (mem_ids.mpr ⟨a, ha, rfl⟩)
    rw [hnone]
    rfl
  | some id =>
    have hname : Costume.nameOf id = name := by simpa using List.find?_some hfind
    have hsame : ∀ a : Arrival, a.id = id ↔ a.costume.name = name := fun a => by
      rw [name_costume, ← hname, Costume.nameOf_injective.eq_iff]
    simp only [Option.bind_some, latest?, hsame]

end Latest
end Arrival

/-! ### Costumes one after the other -/

namespace Costume

/-- Puts a costume in the place of its name, which is sought from the start. -/
def putIn (costume : Costume) : List Costume → List Costume
  | [] => [costume]
  | old :: costumes =>
    if old.name = costume.name then costume :: costumes else old :: costume.putIn costumes

/-- Putting a costume in the place of its name does not move the place. -/
theorem findIdx_putIn (costume : Costume) (costumes : List Costume) :
    (costume.putIn costumes).findIdx (·.name == costume.name) =
      costumes.findIdx (·.name == costume.name) := by
  induction costumes with
  | nil => simp [putIn]
  | cons old costumes ih =>
    unfold putIn
    by_cases h : old.name = costume.name
    · simp [h, List.findIdx_cons]
    · rw [if_neg h, List.findIdx_cons, List.findIdx_cons, ih]

end Costume

namespace Arrival

/-- Puts the costumes of arrivals in the places of their names. -/
def putAllIn (arrivals : List Arrival) (costumes : List Costume) : List Costume :=
  arrivals.foldl (fun costumes a => a.costume.putIn costumes) costumes

/-- A costume takes those that came for its name and lets the others pass. -/
theorem putAllIn_cons (arrivals : List Arrival) (old : Costume) (costumes : List Costume) :
    putAllIn arrivals (old :: costumes) =
      ((arrivals.filter (·.costume.name = old.name)).getLast?.map costume).getD old ::
        putAllIn (arrivals.filter (·.costume.name ≠ old.name)) costumes := by
  induction arrivals generalizing old costumes with
  | nil => rfl
  | cons a arrivals ih =>
    by_cases h : old.name = a.costume.name
    · have hput : putAllIn (a :: arrivals) (old :: costumes) =
          putAllIn arrivals (a.costume :: costumes) := by
        simp only [putAllIn, List.foldl_cons, Costume.putIn, if_pos h]
      rw [hput, ih, ← h]
      simp [← h, List.getLast?_cons]
    · have hput : putAllIn (a :: arrivals) (old :: costumes) =
          putAllIn arrivals (old :: a.costume.putIn costumes) := by
        simp only [putAllIn, List.foldl_cons, Costume.putIn, if_neg h]
      rw [hput, ih]
      simp [Ne.symm h, putAllIn]

/-- Those that pass all costumes make a place for each id, in the order of the ids. -/
theorem putAllIn_nil (arrivals : List Arrival) :
    putAllIn arrivals [] = (ids arrivals).filterMap (latest? arrivals) := by
  match arrivals with
  | [] => rfl
  | a :: arrivals =>
    have hput : putAllIn (a :: arrivals) [] = putAllIn arrivals [a.costume] := rfl
    have hname : ∀ b : Arrival, b.costume.name = a.costume.name ↔ b.id = a.id := fun b => by
      rw [name_costume, name_costume, Costume.nameOf_injective.eq_iff]
    have hhead : latest? (a :: arrivals) a.id =
        some (((arrivals.filter (·.id = a.id)).getLast?.map costume).getD a.costume) := by
      simp [latest?, List.getLast?_cons]
    have hothers : ∀ id ∈ ids (arrivals.filter (·.id ≠ a.id)), latest? (a :: arrivals) id =
        latest? (arrivals.filter (·.id ≠ a.id)) id := by
      intro id hid
      obtain ⟨b, hb, rfl⟩ := mem_ids.mp hid
      have hne : b.id ≠ a.id := by simpa using (List.mem_filter.mp hb).2
      have hpass : latest? (arrivals.filter (·.id ≠ a.id)) b.id = latest? arrivals b.id :=
        latest?_filter (fun id => id ≠ a.id) (decide_eq_true hne)
      rw [hpass, latest?, List.filter_cons_of_neg (by simpa using Ne.symm hne), latest?]
    rw [hput, putAllIn_cons, ids_cons]
    simp only [hname, ne_eq]
    rw [List.filterMap_cons_some hhead, List.filterMap_congr hothers, putAllIn_nil]
termination_by arrivals.length
decreasing_by exact Nat.lt_succ_of_le (List.length_filter_le _ _)

end Arrival

namespace Sprite

/-- The place of a name among costumes of which the first is known. -/
theorem slot_cons (sprite : Sprite) (old : Costume) (costumes : List Costume) (name : Text) :
    { sprite with costumes := old :: costumes }.slot name =
      if old.name = name then 0 else { sprite with costumes }.slot name + 1 := by
  simp only [slot, List.findIdx_cons]
  by_cases h : old.name = name
  · simp [h]
  · rw [if_neg h, beq_false_of_ne h, cond_false]

theorem dressedIn_eq_putIn (sprite : Sprite) (costume : Costume) (costumes : List Costume) :
    { sprite with costumes }.dressedIn costume = costume.putIn costumes := by
  induction costumes with
  | nil => rfl
  | cons old costumes ih =>
    unfold dressedIn at ih ⊢
    rw [slot_cons, Costume.putIn]
    by_cases h : old.name = costume.name
    · simp [h]
    · simp only [if_neg h, List.length_cons, Nat.add_lt_add_iff_right, List.set_cons_succ,
        List.cons_append, ← ih]
      split <;> rfl

theorem costumesAfter_nil (sprite : Sprite) (arrivals : List Arrival) :
    { sprite with costumes := [] }.costumesAfter arrivals = Arrival.putAllIn arrivals [] := by
  have hall : (Arrival.ids arrivals).filter (fun _ => true) = Arrival.ids arrivals := by simp
  rw [Arrival.putAllIn_nil]
  simp [costumesAfter, additions, slot, hall]

section Cons
variable (sprite : Sprite) (old : Costume) (costumes : List Costume) (arrivals : List Arrival)

theorem replacement?_cons_zero :
    { sprite with costumes := old :: costumes }.replacement? arrivals 0 =
      (arrivals.filter (·.costume.name = old.name)).getLast?.map Arrival.costume := by
  rw [← Arrival.find?_bind_latest?, replacement?]
  congr 2
  funext id
  rw [slot_cons]
  by_cases h : old.name = Costume.nameOf id
  · simp [h]
  · simp [h, Ne.symm h]

theorem slot_cons_eq_succ_iff {name : Text} {index : Nat} :
    { sprite with costumes := old :: costumes }.slot name = index + 1 ↔
      name ≠ old.name ∧ { sprite with costumes }.slot name = index := by
  rw [slot_cons]
  by_cases h : old.name = name
  · simp [h]
  · simp [h, Ne.symm h]

theorem replacement?_cons_succ (index : Nat) :
    { sprite with costumes := old :: costumes }.replacement? arrivals (index + 1) =
      { sprite with costumes }.replacement? (arrivals.filter (·.costume.name ≠ old.name))
        index := by
  unfold replacement?
  rw [Arrival.ids_pass, List.find?_filter]
  simp only [slot_cons_eq_succ_iff, decide_eq_true_eq]
  refine Option.bind_congr fun id hid => ?_
  have hpass : Costume.nameOf id ≠ old.name := by
    have htest := List.find?_some hid
    rw [decide_eq_true_iff] at htest
    exact htest.1
  exact (Arrival.latest?_pass hpass).symm

theorem additions_cons :
    { sprite with costumes := old :: costumes }.additions arrivals =
      { sprite with costumes }.additions (arrivals.filter (·.costume.name ≠ old.name)) := by
  unfold additions
  rw [Arrival.ids_pass, List.filter_filter]
  simp only [List.length_cons, slot_cons_eq_succ_iff, Bool.decide_and, Bool.and_comm]
  refine List.filterMap_congr fun id hid => ?_
  have hpass : Costume.nameOf id ≠ old.name := by
    have htest := (List.mem_filter.mp hid).2
    rw [Bool.and_eq_true, decide_eq_true_iff, decide_eq_true_iff] at htest
    exact htest.1
  exact (Arrival.latest?_pass hpass).symm

theorem costumesAfter_cons :
    { sprite with costumes := old :: costumes }.costumesAfter arrivals =
      ((arrivals.filter (·.costume.name = old.name)).getLast?.map Arrival.costume).getD old ::
        { sprite with costumes }.costumesAfter
          (arrivals.filter (·.costume.name ≠ old.name)) := by
  simp only [costumesAfter, List.mapIdx_cons, replacement?_cons_zero, replacement?_cons_succ,
    additions_cons, List.cons_append]

end Cons

/-- The costumes after arrivals are those that putting one after the other leaves. -/
theorem costumesAfter_eq (sprite : Sprite) (arrivals : List Arrival) :
    sprite.costumesAfter arrivals = Arrival.putAllIn arrivals sprite.costumes := by
  have hlist : ∀ costumes : List Costume, ∀ arrivals,
      { sprite with costumes }.costumesAfter arrivals = Arrival.putAllIn arrivals costumes := by
    intro costumes
    induction costumes with
    | nil => exact sprite.costumesAfter_nil
    | cons old costumes ih =>
      intro arrivals
      rw [costumesAfter_cons, Arrival.putAllIn_cons, ih]
  exact hlist sprite.costumes arrivals

theorem costumesAfter_concat (sprite : Sprite) (arrivals : List Arrival) (a : Arrival) :
    sprite.costumesAfter (arrivals ++ [a]) = a.costume.putIn (sprite.costumesAfter arrivals) := by
  simp only [costumesAfter_eq, Arrival.putAllIn, List.foldl_append, List.foldl_cons,
    List.foldl_nil]

theorem wear_eq (sprite : Sprite) (costume : Costume) :
    sprite.wear costume =
      { sprite with
        costumes := costume.putIn sprite.costumes
        selected := sprite.slot costume.name } := by
  rw [← dressedIn_eq_putIn sprite, wear, select, if_pos (slot_lt_length_dressedIn sprite costume)]

@[simp] theorem dressedBy_nil (sprite : Sprite) : sprite.dressedBy [] = sprite := by
  have hcostumes : sprite.costumesAfter [] = sprite.costumes := sprite.costumesAfter_eq []
  simp [dressedBy, hcostumes]

/-- **What a sprite wears after arrivals is what wearing one after the other leaves.** -/
theorem foldl_wear (sprite : Sprite) (arrivals : List Arrival) :
    arrivals.foldl (fun sprite a => sprite.wear a.costume) sprite = sprite.dressedBy arrivals := by
  induction arrivals using List.reverseRecOn with
  | nil => rw [dressedBy_nil, List.foldl_nil]
  | append_singleton arrivals a ih =>
    rw [List.foldl_append, ih, List.foldl_cons, List.foldl_nil, wear_eq]
    simp only [dressedBy, costumesAfter_concat, List.getLast?_append, List.getLast?_singleton,
      Option.some_or, slot, Arrival.name_costume]
    rw [← Arrival.name_costume, Costume.findIdx_putIn]

/-- Arrivals in two parts dress a sprite first with the one and then with the other. -/
theorem dressedBy_append (sprite : Sprite) (first second : List Arrival) :
    sprite.dressedBy (first ++ second) = (sprite.dressedBy first).dressedBy second := by
  simp only [← foldl_wear, List.foldl_append]

/-- Textures of `a`, `b` and `a` again come to a sprite with two costumes for `b`.  The first of
these is replaced, the costume for `a` is added once, as it came last, and it is worn. -/
example :
    let old : Text → Costume := fun url => ⟨Costume.nameOf ['b'], .raster, [], url, [], {}⟩
    let sprite : Sprite := { name := ['s'], costumes := [old ['0'], old ['1']] }
    let arrival : Text → Text → Arrival := fun id url =>
      ⟨⟨id, ['s'], url, .raster, .ok ⟨[], none⟩⟩, ⟨[], none⟩, rfl⟩
    let after := sprite.dressedBy [arrival ['a'] ['2'], arrival ['b'] ['3'], arrival ['a'] ['4']]
    after.costumes.map (·.url) = [['3'], ['1'], ['4']] ∧ after.selected = 2 := by
  decide

end Sprite

end PlanetScript
