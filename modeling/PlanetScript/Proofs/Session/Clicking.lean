import PlanetScript.Proofs.Session.Following

/-! # Clicks along a run

Two tables with different lifetimes decide whether an id counts as clicked.  Bindings outlive
scripts and are only ever made anew; a click is stored under the id that its sprite name is
bound to at that time, and is forgotten when a script is read, when the scene is cleared and
when an object is bound to the id, but not when a background is.

Both tables can be read off the operations alone.  A name is bound to what it was bound to
last (`Session.get?_bindings_run`), and an id counts as clicked if some name was clicked while
it was bound to the id and no operation since forgets the id (`Session.isClicked_run`).
-/
namespace PlanetScript
open Text

namespace Operation

/-- The id that an operation binds a sprite name to. -/
def boundTo? (sprite : Text) : Operation → Option Text
  | .bindObject name id | .bindBackground name id => if name = sprite then some id else none
  | _ => none

/-- Whether an id counts as not clicked after an operation, whatever was before. -/
def Forgets (id : Text) : Operation → Prop
  | .read _ | .clear => True
  | .bindObject _ bound => bound = id
  | _ => False

end Operation

/-- The id that a sprite name was bound to last, as an object or as a background. -/
def lastBound? (operations : List Operation) (sprite : Text) : Option Text :=
  (operations.filterMap (Operation.boundTo? sprite)).getLast?

theorem lastBound?_concat (operations : List Operation) (operation : Operation) (sprite : Text) :
    lastBound? (operations ++ [operation]) sprite =
      (operation.boundTo? sprite).or (lastBound? operations sprite) := by
  unfold lastBound?
  rw [List.filterMap_append, List.getLast?_append]
  cases h : operation.boundTo? sprite <;> simp [h]

/-- Whether a name was clicked while it was bound to the id, and no operation after that
forgets the id. -/
def ClickedIn (operations : List Operation) (id : Text) : Prop :=
  ∃ before sprite after, operations = before ++ .click sprite :: after ∧
    lastBound? before sprite = some id ∧ ∀ operation ∈ after, ¬ operation.Forgets id

theorem not_clickedIn_nil (id : Text) : ¬ ClickedIn [] id := by
  rintro ⟨before, sprite, after, h, -⟩
  simp at h

/-- One more operation adds a click, or keeps those that were before unless it forgets them. -/
theorem clickedIn_concat {operations : List Operation} {operation : Operation} {id : Text} :
    ClickedIn (operations ++ [operation]) id ↔
      ¬ operation.Forgets id ∧ (ClickedIn operations id ∨
        ∃ sprite, operation = .click sprite ∧ lastBound? operations sprite = some id) := by
  constructor
  · rintro ⟨before, sprite, after, h, hbound, hafter⟩
    rcases List.eq_nil_or_concat after with rfl | ⟨init, last, rfl⟩
    · obtain ⟨rfl, hlast⟩ := List.append_inj' h rfl
      obtain rfl : operation = .click sprite := by simpa using hlast
      exact ⟨nofun, Or.inr ⟨sprite, rfl, hbound⟩⟩
    · rw [List.concat_eq_append, ← List.cons_append, ← List.append_assoc] at h
      obtain ⟨rfl, hlast⟩ := List.append_inj' h rfl
      obtain rfl : operation = last := by simpa using hlast
      refine ⟨hafter operation (by simp), Or.inl ⟨before, sprite, init, rfl, hbound, ?_⟩⟩
      intro o ho
      exact hafter o (by simp [ho])
  · rintro ⟨hkeeps, ⟨before, sprite, after, rfl, hbound, hafter⟩ | ⟨sprite, rfl, hbound⟩⟩
    · refine ⟨before, sprite, after ++ [operation], by simp, hbound, ?_⟩
      intro o ho
      rcases List.mem_append.mp ho with ho | ho
      · exact hafter o ho
      · rw [List.mem_singleton.mp ho]
        exact hkeeps
    · exact ⟨operations, sprite, [], rfl, hbound, List.forall_mem_nil _⟩

namespace Session

/-! ### One operation -/

section Apply
variable (s : Session) (operation : Operation)

/-- The bindings and clicks after an operation.  They depend on nothing else in the session. -/
def tablesAfter : Operation → Registry Text × Clicks
  | .read _ | .clear => (s.bindings, .none)
  | .bindObject sprite id => (s.bindings.insert sprite id, s.clicks.unmark id)
  | .bindBackground sprite id => (s.bindings.insert sprite id, s.clicks)
  | .click sprite => (s.bindings, (s.bindings.get? sprite).elim s.clicks s.clicks.mark)
  | _ => (s.bindings, s.clicks)

theorem tables_apply :
    ((s.apply operation).1.bindings, (s.apply operation).1.clicks) = s.tablesAfter operation := by
  cases operation with
  | read script =>
    show ((s.read script).bindings, (s.read script).clicks) = _
    rw [bindings_read, clicks_read]
    rfl
  | bindObject sprite id =>
    obtain ⟨_, _, _, h⟩ := s.bindObject_eq sprite id
    show ((s.bindObject sprite id).bindings, (s.bindObject sprite id).clicks) = _
    rw [h]
    rfl
  | bindBackground sprite id =>
    obtain ⟨_, _, _, h⟩ := s.bindBackground_eq sprite id
    show ((s.bindBackground sprite id).bindings, (s.bindBackground sprite id).clicks) = _
    rw [h]
    rfl
  | click sprite =>
    show ((s.click sprite).bindings, (s.click sprite).clicks) = _
    rw [click_eq]
    rfl
  | showTexture id =>
    obtain ⟨_, _, _, h⟩ := s.showTexture_eq id
    show ((s.showTexture id).1.bindings, (s.showTexture id).1.clicks) = _
    rw [h]
    rfl
  | followPosition id =>
    obtain ⟨_, -, h⟩ := s.followPosition_eq id
    show ((s.followPosition id).1.bindings, (s.followPosition id).1.clicks) = _
    rw [h]
    rfl
  | flush =>
    obtain ⟨_, _, h⟩ := s.flush_eq
    show (s.flush.1.bindings, s.flush.1.clicks) = _
    rw [h]
    rfl
  | askTexture id =>
    obtain ⟨_, _, h⟩ := s.textureText_eq id
    show ((s.textureText id).1.bindings, (s.textureText id).1.clicks) = _
    rw [h]
    rfl
  | clear | addSprite | removeSprites | supplyTexture => rfl

/-- A name is bound to what an operation binds it to, and else to what it was bound to. -/
theorem get?_bindings_apply (sprite : Text) :
    (s.apply operation).1.bindings.get? sprite =
      (operation.boundTo? sprite).or (s.bindings.get? sprite) := by
  have hbindings := congrArg Prod.fst (s.tables_apply operation)
  simp only at hbindings
  rw [hbindings]
  cases operation with
  | bindObject name id | bindBackground name id =>
    simp only [tablesAfter, Registry.get?_insert, Operation.boundTo?]
    by_cases hname : sprite = name
    · simp [hname]
    · simp [hname, Ne.symm hname]
  | _ => rfl

/-- An id counts as clicked if it was clicked by an operation or before one, and the operation
does not forget it. -/
theorem isClicked_apply (id : Text) :
    (s.apply operation).1.isClicked id = true ↔
      ¬ operation.Forgets id ∧ (s.isClicked id = true ∨
        ∃ sprite, operation = .click sprite ∧ s.bindings.get? sprite = some id) := by
  have hclicks := congrArg Prod.snd (s.tables_apply operation)
  simp only at hclicks
  rw [isClicked, hclicks]
  cases operation with
  | bindObject name bound => simp [tablesAfter, Operation.Forgets, isClicked, @eq_comm _ id bound]
  | click name =>
    cases hb : s.bindings.get? name with
    | none => simp [tablesAfter, Operation.Forgets, isClicked, hb]
    | some bound =>
      simp [tablesAfter, Operation.Forgets, isClicked, hb, or_comm, @eq_comm _ id bound]
  | _ => simp [tablesAfter, Operation.Forgets, isClicked]

end Apply

/-! ### A run -/

section Run
variable (settings : Settings) (stage : Stage) (source : TextureSource)
  (operations : List Operation)

/-- **A sprite name is bound to what it was bound to last.** -/
theorem get?_bindings_run (sprite : Text) :
    ((fresh settings stage source).run operations).bindings.get? sprite =
      lastBound? operations sprite := by
  induction operations using List.reverseRecOn with
  | nil => rfl
  | append_singleton operations operation ih =>
    rw [run_append, run_cons, run_nil, get?_bindings_apply, lastBound?_concat, ih]

/-- **An id counts as clicked if a name that was last bound to it was clicked, and since then no
script was read, the scene was not cleared, and no object was bound to the id.** -/
theorem isClicked_run (id : Text) :
    ((fresh settings stage source).run operations).isClicked id = true ↔
      ClickedIn operations id := by
  induction operations using List.reverseRecOn with
  | nil => simp [not_clickedIn_nil, isClicked, fresh]
  | append_singleton operations operation ih =>
    rw [run_append, run_cons, run_nil, isClicked_apply, clickedIn_concat, ih]
    simp only [get?_bindings_run]

end Run

end Session
end PlanetScript
