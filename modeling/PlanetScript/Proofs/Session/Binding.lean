import Mathlib.Data.Finset.Card
import PlanetScript.Proofs.Scene.Order
import PlanetScript.Proofs.Session.Clicking

/-! # What bindings remember

A name that is bound again keeps its place among the names and changes its id.  So the names that
are bound to an id are listed in the order in which they were bound first, to whatever id that was,
while what each name is bound to is what it was bound to last (`Registry.Records`).

When a session follows the position of an object, it comes once to each sprite whose name is bound
to the object's id, and to no other one.  Such a sprite stands where the object stands afterwards
and counts one move more, or one redraw if it has no setter (`Session.Visits`).
-/
namespace PlanetScript
open Text

namespace Registry

/-- The registry that writing values at keys makes, one after the other. -/
def ofWrites {α : Type} (writes : List (Text × α)) : Registry α :=
  writes.foldl (fun r write => (r.exchange write.1 write.2).2) .empty

/-- The value that was written at a key last. -/
def lastWritten? {α : Type} (writes : List (Text × α)) (key : Text) : Option α :=
  (writes.filter (·.1 = key)).getLast?.map Prod.snd

/-- What a registry of ids tells of the writes that made it. -/
structure Records (r : Registry Text) (writes : List (Text × Text)) : Prop where
  nodup : r.keys.Nodup
  /-- The keys stand in the order in which they were written first. -/
  keys : r.keys = (writes.map Prod.fst).eraseDups
  size : r.size = (writes.map Prod.fst).toFinset.card
  get? : ∀ key, r.get? key = lastWritten? writes key
  /-- One more write answers what was written at its key before. -/
  exchange : ∀ key id, (r.exchange key id).1 = lastWritten? writes key
  keysWhere : ∀ id, r.keysWhere (· = id) =
    (writes.map Prod.fst).eraseDups.filter fun key => lastWritten? writes key = some id
  keyWhere? : ∀ id, r.keyWhere? (· = id) = (r.keysWhere (· = id)).head?

end Registry

/-- The name and the id that an operation binds. -/
def Operation.binding? : Operation → Option (Text × Text)
  | .bindObject name id | .bindBackground name id => some (name, id)
  | _ => none

/-- Following an object visits the sprites whose names are bound to its id, each of them once.
A sprite that is visited stands where the object stands, and has been moved by its setter or redrawn
once more; nothing else of it changes, and nothing else of the session. -/
structure Session.Visits (s : Session) (id : Text) (object : Object) (visits : List Nat) :
    Prop where
  nodup : visits.Nodup
  mem : ∀ index, index ∈ visits ↔
    ∃ sprite, s.stage[index]? = some sprite ∧ s.bindings.get? sprite.name = some id
  /-- The sprites are placed visit by visit, and counted. -/
  loop : s.followPosition id =
    let placed := visits.foldl (Stage.place object.position) (s.stage, 0)
    ({ s with stage := placed.1 }, placed.2)
  session : (s.followPosition id).1 = { s with
    stage := s.stage.map fun sprite =>
      if s.bindings.get? sprite.name = some id then
        if sprite.hasSetter then
          { sprite with position := object.position, moves := sprite.moves + 1 }
        else { sprite with position := object.position, redraws := sprite.redraws + 1 }
      else sprite }
  count : (s.followPosition id).2 =
    s.stage.countP fun sprite => s.bindings.get? sprite.name = some id

/-! ### Writes -/

namespace Registry
variable {α : Type} (writes : List (Text × α)) (write : Text × α)

theorem ofWrites_concat :
    ofWrites (writes ++ [write]) = (ofWrites writes).insert write.1 write.2 := by
  rw [ofWrites, List.foldl_append, List.foldl_cons, List.foldl_nil, exchange_eq]
  rfl

theorem lastWritten?_concat (key : Text) :
    lastWritten? (writes ++ [write]) key =
      if key = write.1 then some write.2 else lastWritten? writes key := by
  unfold lastWritten?
  rw [List.filter_append]
  by_cases h : key = write.1
  · simp [h]
  · simp [h, Ne.symm h]

/-- A key stays where it was written first. -/
theorem keys_ofWrites : (ofWrites writes).keys = (writes.map Prod.fst).eraseDups := by
  induction writes using List.reverseRecOn with
  | nil => rfl
  | append_singleton writes write ih =>
    rw [ofWrites_concat, keysWith_insert, keysWith_eq ih, List.map_append]
    rfl

/-- A key says what was written at it last. -/
theorem get?_ofWrites (key : Text) : (ofWrites writes).get? key = lastWritten? writes key := by
  induction writes using List.reverseRecOn with
  | nil => rfl
  | append_singleton writes write ih =>
    rw [ofWrites_concat, get?_insert, lastWritten?_concat, ih]

theorem size_ofWrites : (ofWrites writes).size = (writes.map Prod.fst).toFinset.card := by
  have hkeys := keys_ofWrites writes
  have hnodup : (writes.map Prod.fst).eraseDups.Nodup := hkeys ▸ (ofWrites writes).nodup
  have hsame : (writes.map Prod.fst).toFinset = (writes.map Prod.fst).eraseDups.toFinset := by
    ext key
    simp
  rw [hsame, List.toFinset_card_of_nodup hnodup, ← hkeys, keys, List.length_map, size]

/-- **A registry records its writes.** -/
theorem records_ofWrites (writes : List (Text × Text)) : (ofWrites writes).Records writes where
  nodup := (ofWrites writes).nodup
  keys := keys_ofWrites writes
  size := size_ofWrites writes
  get? := get?_ofWrites writes
  exchange := by
    intro key id
    rw [exchange_eq, get?_ofWrites]
  keysWhere := by
    intro id
    rw [keysWhere_eq_filter, keys_ofWrites]
    refine List.filter_congr fun key _ => ?_
    rw [get?_ofWrites]
    cases lastWritten? writes key <;> simp
  keyWhere? := fun id => keyWhere?_eq _ _

/-- A name that was bound to something else first stands before one that was bound to the id
earlier. -/
example :
    (ofWrites [(['a'], ['1']), (['b'], ['2']), (['a'], ['2'])]).keysWhere (· = ['2']) =
      [['a'], ['b']] := by
  decide

end Registry

namespace Session

/-! ### Bindings of a run -/

theorem bindings_apply (s : Session) (operation : Operation) :
    (s.apply operation).1.bindings =
      operation.binding?.elim s.bindings fun binding => s.bindings.insert binding.1 binding.2 := by
  have hbindings := congrArg Prod.fst (s.tables_apply operation)
  simp only at hbindings
  rw [hbindings]
  cases operation <;> rfl

/-- **The bindings after a run are those that its bindings of names make.** -/
theorem bindings_run (settings : Settings) (stage : Stage) (source : TextureSource)
    (operations : List Operation) :
    ((fresh settings stage source).run operations).bindings =
      .ofWrites (operations.filterMap Operation.binding?) := by
  induction operations using List.reverseRecOn with
  | nil => rfl
  | append_singleton operations operation ih =>
    rw [run_append, run_cons, run_nil, bindings_apply, ih, List.filterMap_append]
    cases h : operation.binding? with
    | none => simp [h]
    | some binding => simp [h, Registry.ofWrites_concat]

/-! ### Following an object -/

/-- **Following an object visits each sprite that is bound to it once.** -/
theorem visits_namesOf {s : Session} {id : Text} {object : Object}
    (h : s.scene.objects.get? id = some object) :
    s.Visits id object (s.stage.visits (s.namesOf id)) where
  nodup := Stage.nodup_visits (s.nodup_namesOf id) s.stage
  mem := fun _ => mem_visits_namesOf
  loop := by
    rw [followPosition, h]
    simp only [Stage.foldl_placeNamed]
  session := by
    rw [followPosition_of_get? h]
    simp only [Stage.placeWhere, Sprite.moveTo, decide_eq_true_eq]
  count := by
    rw [followPosition_of_get? h]
    rfl

/-- **Bindings against their history.**  A registry records the writes that made it, and the
bindings of a session are made by the bindings of names in its run.  Following a declared object
comes once to each sprite whose name is bound to the object's id: the sprite stands where the object
stands and counts one move or one redraw more.  No other sprite changes, and the answer is how many
there are.  Following what is not declared does nothing. -/
theorem bindings_visits :
    (∀ writes, (Registry.ofWrites writes).Records writes) ∧
      (∀ settings stage source operations,
        ((fresh settings stage source).run operations).bindings =
          .ofWrites (operations.filterMap Operation.binding?)) ∧
      ∀ (s : Session) id,
        (∀ object, s.scene.objects.get? id = some object →
          s.Visits id object (s.stage.visits (s.namesOf id))) ∧
        (s.scene.objects.get? id = none → s.followPosition id = (s, 0)) :=
  ⟨Registry.records_ofWrites, bindings_run, fun _ _ =>
    ⟨fun _ => visits_namesOf, followPosition_of_get?_eq_none⟩⟩

/-- A name that was bound to a tree before it is bound to a rock leaves the tree to the other name;
both clones of the rock are placed once, each in its own way. -/
theorem bindings_visits_clones :
    let rock : Sprite := { name := "Rock".toList }
    let clone : Sprite := { name := "Rock".toList, hasSetter := false, redraws := 4 }
    let tree : Sprite := { name := "Tree".toList }
    let s := (fresh {} [rock, tree, clone] .empty).run
      [.bindObject "Rock".toList "tree".toList, .bindObject "Tree".toList "tree".toList,
        .read "new Object:rock;\nsetPositionOf with id \"rock\"\nx: 3".toList,
        .bindObject "Rock".toList "rock".toList]
    s.bindings.entries =
        [("Rock".toList, "rock".toList), ("Tree".toList, "tree".toList)] ∧
      (∃ object, s.scene.objects.get? "rock".toList = some object ∧
        (s.followPosition "rock".toList).1.stage =
          [{ rock with position := object.position, moves := 1 }, tree,
            { clone with position := object.position, redraws := 5 }] ∧
        (s.followPosition "rock".toList).2 = 2) ∧
      s.scene.objects.get? "tree".toList = none ∧ s.followPosition "tree".toList = (s, 0) := by
  intro rock clone tree s
  have hentries : s.bindings.entries =
      [("Rock".toList, "rock".toList), ("Tree".toList, "tree".toList)] := by decide
  have hstage : s.stage = [rock, tree, clone] := by decide
  have hrock : s.bindings.get? "Rock".toList = some "rock".toList := by decide
  have htree : s.bindings.get? "Tree".toList ≠ some "rock".toList := by decide
  have hdeclared : (s.scene.objects.get? "rock".toList).isSome = true := by decide
  have hnone : s.scene.objects.get? "tree".toList = none := by decide
  obtain ⟨object, hobject⟩ := Option.isSome_iff_exists.mp hdeclared
  obtain ⟨-, -, hfollow⟩ := bindings_visits
  have hvisits := (hfollow s "rock".toList).1 object hobject
  refine ⟨hentries, ⟨object, hobject, ?_, ?_⟩, hnone, (hfollow s _).2 hnone⟩
  · rw [hvisits.session]
    simp only [hstage, List.map_cons, List.map_nil, rock, tree, clone, hrock, htree]
    rfl
  · rw [hvisits.count, hstage]
    decide

end Session
end PlanetScript
