import PlanetScript.Proofs.Session.Flushing
import PlanetScript.Proofs.Session.Sending

/-! # The costumes of a run

A costume comes to a sprite by a sync, which may wait in the queue while scripts are read, the
source changes its answers and sprites leave the stage.  What the costume shows was fixed when the
sync was issued, and the sprite that wears it was found when the sync landed.

Two things hold of every sprite after any run.  Its costumes have different names and one of them
is worn (`Sprite.Orderly`), since a costume takes the place of its name and is worn from then on;
and each of its costumes shows what the source answered when a sync to its name was issued
(`Session.Supplied`), since the queue holds only what was issued before.  Both are said of one
operation first: whatever it does, a sprite that stays is dressed by syncs that a flush lands, and
moved (`Session.redresses_apply`).
-/
namespace PlanetScript
open Text

/-- No two costumes have one name, and a sprite that has costumes wears one of them. -/
structure Sprite.Orderly (sprite : Sprite) : Prop where
  names : (sprite.costumes.map (·.name)).Nodup
  worn : sprite.costumes ≠ [] → sprite.selected < sprite.costumes.length

/-- A sync carries what a source answers at the sync's URL. -/
structure Sync.AnsweredBy (sync : Sync) (source : TextureSource) : Prop where
  nonempty : sync.url ≠ []
  kind : sync.kind = .ofUrl sync.url
  result : sync.result = source.answer sync.url

/-- A sync brings a texture to a sprite, the first of its name, which then wears it. -/
def Sync.Dresses (sync : Sync) (stage : Stage) (before after : Sprite) : Prop :=
  sync.sprite = before.name ∧ stage.find? before.name = some before ∧
    ∃ texture, sync.result = .ok texture ∧ after = before.wear (sync.costume texture)

namespace Session

/-- A costume shows what the source answered when some operation of a run issued a sync to a
sprite of this name. -/
def Supplied (start : Session) (operations : List Operation) (name : Text) (costume : Costume) :
    Prop :=
  ∃ before operation after sync texture, operations = before ++ operation :: after ∧
    .issued sync ∈ (start.run before).events operation ∧ sync.sprite = name ∧ sync.url ≠ [] ∧
    (start.run before).source.answer sync.url = .ok texture ∧
    costume.Shows sync.id sync.url texture.bytes

/-- The sprites that are on the stage after an operation, as they were before it. -/
def cast (s : Session) : Operation → Stage
  | .addSprite sprite => s.stage.add sprite
  | .removeSprites name => s.stage.remove name
  | _ => s.stage

/-- An operation brings these arrivals to a sprite: those that it lands, and only to the first
sprite of their name. -/
structure Brings (s : Session) (operation : Operation) (sprite : Sprite)
    (arrivals : List Arrival) : Prop where
  flush : arrivals ≠ [] → operation = .flush
  first : arrivals ≠ [] → s.stage.find? sprite.name = some sprite
  pending : ∀ a ∈ arrivals, a.sync ∈ s.pending
  name : ∀ a ∈ arrivals, a.sync.sprite = sprite.name

/-- A sprite before and after an operation that dresses and moves it at most. -/
def Redresses (s : Session) (operation : Operation) (before after : Sprite) : Prop :=
  ∃ arrivals, s.Brings operation before arrivals ∧ (before.dressedBy arrivals).MovedTo after

/-- A sprite before and after an operation that keeps its name, takes no costume away, and lets it
wear others only where a flush lands a texture on it. -/
structure KeepsCostumes (s : Session) (operation : Operation) (before after : Sprite) : Prop where
  name : after.name = before.name
  length : before.costumes.length ≤ after.costumes.length
  change : after.costumes ≠ before.costumes ∨ after.selected ≠ before.selected →
    operation = .flush ∧ s.stage.find? before.name = some before ∧
      ∃ sync ∈ s.pending, sync.sprite = before.name ∧ ∃ texture, sync.result = .ok texture

end Session

/-! ### One costume -/

namespace Costume
variable {costumes : List Costume}

theorem names_putIn (costume : Costume) (costumes : List Costume) :
    (costume.putIn costumes).map (·.name) =
      if costume.name ∈ costumes.map (·.name) then costumes.map (·.name)
      else costumes.map (·.name) ++ [costume.name] := by
  induction costumes with
  | nil => simp [putIn]
  | cons old costumes ih =>
    unfold putIn
    by_cases h : old.name = costume.name
    · simp [h]
    · rw [if_neg h, List.map_cons, ih]
      by_cases hmem : costume.name ∈ costumes.map (·.name) <;> simp [hmem, Ne.symm h]

theorem nodup_names_putIn (costume : Costume) (h : (costumes.map (·.name)).Nodup) :
    ((costume.putIn costumes).map (·.name)).Nodup := by
  rw [names_putIn]
  split
  · exact h
  · next hnew =>
    refine List.nodup_append.mpr ⟨h, by simp, fun name hname other hother => ?_⟩
    rw [List.mem_singleton.mp hother]
    exact fun heq => hnew (heq ▸ hname)

theorem length_le_putIn (costume : Costume) (costumes : List Costume) :
    costumes.length ≤ (costume.putIn costumes).length := by
  have hlength := congrArg List.length (names_putIn costume costumes)
  rw [List.length_map] at hlength
  rw [hlength]
  split <;> simp

theorem mem_putIn {costume other : Costume} (h : other ∈ costume.putIn costumes) :
    other = costume ∨ other ∈ costumes := by
  induction costumes with
  | nil => exact Or.inl (List.mem_singleton.mp h)
  | cons old costumes ih =>
    unfold putIn at h
    split at h
    · rcases List.mem_cons.mp h with rfl | hmem
      · exact Or.inl rfl
      · exact Or.inr (List.mem_cons_of_mem _ hmem)
    · rcases List.mem_cons.mp h with rfl | hmem
      · exact Or.inr List.mem_cons_self
      · exact (ih hmem).imp id (List.mem_cons_of_mem _)

end Costume

/-! ### One sprite -/

namespace Sprite
variable {sprite before after : Sprite}

theorem costumes_wear_eq (sprite : Sprite) (costume : Costume) :
    (sprite.wear costume).costumes = costume.putIn sprite.costumes := by rw [wear_eq]

theorem orderly_of_bare (h : sprite.costumes = []) : sprite.Orderly where
  names := by simp [h]
  worn := fun hne => absurd h hne

/-- A sprite that puts on a costume stays orderly. -/
theorem Orderly.wear (h : sprite.Orderly) (costume : Costume) : (sprite.wear costume).Orderly where
  names := by
    rw [costumes_wear_eq]
    exact Costume.nodup_names_putIn costume h.names
  worn := by
    intro _
    rw [selected_wear, costumes_wear]
    exact sprite.slot_lt_length_dressedIn costume

theorem Orderly.dressedBy (h : sprite.Orderly) (arrivals : List Arrival) :
    (sprite.dressedBy arrivals).Orderly := by
  rw [← foldl_wear]
  induction arrivals generalizing sprite with
  | nil => exact h
  | cons a arrivals ih => exact ih (h.wear a.costume)

theorem Orderly.movedTo (h : before.Orderly) (hmoved : before.MovedTo after) : after.Orderly := by
  obtain ⟨_, _, _, rfl⟩ := hmoved
  exact ⟨h.names, h.worn⟩

theorem length_le_dressedBy (sprite : Sprite) (arrivals : List Arrival) :
    sprite.costumes.length ≤ (sprite.dressedBy arrivals).costumes.length := by
  rw [← foldl_wear]
  induction arrivals generalizing sprite with
  | nil => exact Nat.le_refl _
  | cons a arrivals ih =>
    have hone := a.costume.length_le_putIn sprite.costumes
    rw [← costumes_wear_eq] at hone
    exact hone.trans (ih _)

/-- A costume of a sprite was there before the arrivals, or came with one of them. -/
theorem mem_costumes_dressedBy {arrivals : List Arrival} {costume : Costume}
    (h : costume ∈ (sprite.dressedBy arrivals).costumes) :
    costume ∈ sprite.costumes ∨ ∃ a ∈ arrivals, costume = a.costume := by
  rw [← foldl_wear] at h
  induction arrivals generalizing sprite with
  | nil => exact Or.inl h
  | cons a arrivals ih =>
    rcases ih h with hold | ⟨b, hb, hcostume⟩
    · rw [costumes_wear_eq] at hold
      rcases Costume.mem_putIn hold with hnew | hold
      · exact Or.inr ⟨a, List.mem_cons_self, hnew⟩
      · exact Or.inl hold
    · exact Or.inr ⟨b, List.mem_cons_of_mem _ hb, hcostume⟩

theorem MovedTo.refl (sprite : Sprite) : sprite.MovedTo sprite := ⟨_, _, _, rfl⟩

theorem movedTo_moveTo (sprite : Sprite) (p : Point) : sprite.MovedTo (sprite.moveTo p) := by
  unfold moveTo
  split
  · exact ⟨_, _, _, rfl⟩
  · exact ⟨_, _, _, rfl⟩

end Sprite

/-! ### The sprites of a stage -/

/-- Changing the first sprites changes a sprite only if it is found by its name. -/
theorem Stage.forall₂_mapFirsts {R : Sprite → Sprite → Prop} {stage : Stage} {f : Sprite → Sprite}
    (hfirst : ∀ sprite, stage.find? sprite.name = some sprite → R sprite (f sprite))
    (hother : ∀ sprite, R sprite sprite) : List.Forall₂ R stage (stage.mapFirsts f) := by
  refine List.forall₂_iff_get.mpr ⟨List.length_mapIdx.symm, fun index hindex _ => ?_⟩
  simp only [List.get_eq_getElem, mapFirsts, List.getElem_mapIdx]
  split
  · next hidx =>
    refine hfirst _ ?_
    have hfound : List.findIdx (fun sprite => sprite.name == stage[index].name) stage = index := by
      rwa [List.idxOf, List.findIdx_map] at hidx
    rw [Stage.find?, List.find?_eq_getElem?_findIdx, hfound, List.getElem?_eq_getElem hindex]
  · exact hother _

/-- **A sync that lands changes a sprite only by dressing it.** -/
theorem Sync.forall₂_land (sync : Sync) (stage : Stage) :
    List.Forall₂ (fun before after => after = before ∨ sync.Dresses stage before after)
      stage (sync.land stage).1 := by
  unfold land
  cases hresult : sync.result with
  | error failure => exact List.forall₂_same.mpr fun _ _ => Or.inl rfl
  | ok texture =>
    simp only
    split
    · rw [Stage.modifyFirst_eq]
      refine Stage.forall₂_mapFirsts (fun sprite hfirst => ?_) fun _ => Or.inl rfl
      split
      · next hname => exact Or.inr ⟨hname.symm, hfirst, texture, hresult, rfl⟩
      · exact Or.inl rfl
    · exact List.forall₂_same.mpr fun _ _ => Or.inl rfl

namespace Session

/-! ### One operation -/

section Redress
variable (s : Session) {operation : Operation} {before after : Sprite}

theorem brings_nothing (operation : Operation) (sprite : Sprite) :
    s.Brings operation sprite [] where
  flush := fun hne => absurd rfl hne
  first := fun hne => absurd rfl hne
  pending := List.forall_mem_nil _
  name := List.forall_mem_nil _

variable {s}

theorem redresses_of_movedTo (h : before.MovedTo after) : s.Redresses operation before after :=
  ⟨[], s.brings_nothing operation before, by rwa [Sprite.dressedBy_nil]⟩

theorem forall₂_redresses_self {stage : Stage} :
    List.Forall₂ (s.Redresses operation) stage stage :=
  List.forall₂_same.mpr fun sprite _ => redresses_of_movedTo (Sprite.MovedTo.refl sprite)

/-- The first sprite of a name is brought what is pending for the name. -/
theorem brings_flush (hfirst : s.stage.find? before.name = some before) :
    s.Brings .flush before (s.pending.arrivals before.name) := by
  have hmem : ∀ a ∈ s.pending.arrivals before.name,
      a.sync ∈ s.pending ∧ a.sync.sprite = before.name := by
    intro a ha
    obtain ⟨sync, hsync, hsome⟩ := List.mem_filterMap.mp ha
    obtain ⟨hpending, hname⟩ := List.mem_filter.mp hsync
    unfold Sync.arrival? at hsome
    split at hsome
    · cases hsome
      exact ⟨hpending, of_decide_eq_true hname⟩
    · cases hsome
  exact ⟨fun _ => rfl, fun _ => hfirst, fun a ha => (hmem a ha).1, fun a ha => (hmem a ha).2⟩

variable (s)

theorem redresses_flush : List.Forall₂ (s.Redresses .flush) s.stage s.flush.1.stage := by
  rw [stage_flush, Backlog.landed_eq]
  refine Stage.forall₂_mapFirsts (fun sprite hfirst => ?_) fun sprite =>
    redresses_of_movedTo (Sprite.MovedTo.refl sprite)
  exact ⟨_, brings_flush hfirst, Sprite.MovedTo.refl _⟩

theorem redresses_followPosition (id : Text) :
    List.Forall₂ (s.Redresses (.followPosition id)) s.stage (s.followPosition id).1.stage := by
  cases h : s.scene.objects.get? id with
  | none =>
    rw [followPosition_of_get?_eq_none h]
    exact forall₂_redresses_self
  | some object =>
    rw [followPosition_of_get? h, Stage.placeWhere, List.forall₂_map_right_iff, List.forall₂_same]
    intro sprite _
    split
    · exact redresses_of_movedTo (sprite.movedTo_moveTo object.position)
    · exact redresses_of_movedTo (Sprite.MovedTo.refl sprite)

/-- **An operation dresses a sprite by the syncs that it lands, and moves it; nothing else happens
to a sprite that stays on the stage.** -/
theorem redresses_apply (operation : Operation) :
    List.Forall₂ (s.Redresses operation) (s.cast operation) (s.apply operation).1.stage := by
  -- the stage itself stays, except that a flush dresses and that two operations move sprites
  cases operation with
  | read script =>
    exact (s.framed_read script).imp fun _ _ h => redresses_of_movedTo h.moved
  | flush => exact s.redresses_flush
  | followPosition id => exact s.redresses_followPosition id
  | bindObject sprite id =>
    obtain ⟨_, _, _, h⟩ := s.bindObject_eq sprite id
    show List.Forall₂ _ s.stage (s.bindObject sprite id).stage
    rw [h]
    exact forall₂_redresses_self
  | bindBackground sprite id =>
    obtain ⟨_, _, _, h⟩ := s.bindBackground_eq sprite id
    show List.Forall₂ _ s.stage (s.bindBackground sprite id).stage
    rw [h]
    exact forall₂_redresses_self
  | click sprite =>
    show List.Forall₂ _ s.stage (s.click sprite).stage
    rw [click_eq]
    exact forall₂_redresses_self
  | showTexture id =>
    obtain ⟨_, _, _, h⟩ := s.showTexture_eq id
    show List.Forall₂ _ s.stage (s.showTexture id).1.stage
    rw [h]
    exact forall₂_redresses_self
  | askTexture id =>
    obtain ⟨_, _, h⟩ := s.textureText_eq id
    show List.Forall₂ _ s.stage (s.textureText id).1.stage
    rw [h]
    exact forall₂_redresses_self
  | clear | addSprite | removeSprites | supplyTexture => exact forall₂_redresses_self

variable {s}

theorem Redresses.name (h : s.Redresses operation before after) : after.name = before.name := by
  obtain ⟨arrivals, -, _, _, _, rfl⟩ := h
  rfl

theorem Redresses.orderly (h : s.Redresses operation before after) (horderly : before.Orderly) :
    after.Orderly := by
  obtain ⟨arrivals, -, hmoved⟩ := h
  exact (horderly.dressedBy arrivals).movedTo hmoved

/-- A costume after an operation was there before it, or came with a pending sync. -/
theorem Redresses.mem_costumes (h : s.Redresses operation before after) {costume : Costume}
    (hmem : costume ∈ after.costumes) :
    costume ∈ before.costumes ∨ ∃ a : Arrival,
      a.sync ∈ s.pending ∧ a.sync.sprite = before.name ∧ costume = a.costume := by
  obtain ⟨arrivals, hbrings, _, _, _, rfl⟩ := h
  rcases Sprite.mem_costumes_dressedBy hmem with hold | ⟨a, ha, hcostume⟩
  · exact Or.inl hold
  · exact Or.inr ⟨a, hbrings.pending a ha, hbrings.name a ha, hcostume⟩

theorem Redresses.keepsCostumes (h : s.Redresses operation before after) :
    s.KeepsCostumes operation before after := by
  obtain ⟨arrivals, hbrings, _, _, _, rfl⟩ := h
  refine ⟨rfl, before.length_le_dressedBy arrivals, fun hchange => ?_⟩
  cases arrivals with
  | nil =>
    rw [Sprite.dressedBy_nil] at hchange
    exact hchange.elim (absurd rfl) (absurd rfl)
  | cons a arrivals =>
    have hne : a :: arrivals ≠ [] := List.cons_ne_nil a arrivals
    exact ⟨hbrings.flush hne, hbrings.first hne, a.sync, hbrings.pending a List.mem_cons_self,
      hbrings.name a List.mem_cons_self, a.texture, a.answered⟩

end Redress

/-! ### The syncs of a run -/

section Issue
variable {s : Session} {sync : Sync}

theorem Carries.answeredBy (h : s.Carries sync) : sync.AnsweredBy s.source :=
  ⟨h.nonempty, h.kind, h.result⟩

theorem answeredBy_of_mem_shown {id : Text} (h : .issued sync ∈ s.shown id) :
    sync.AnsweredBy s.source := by
  unfold shown at h
  cases hs : s.syncOf? id with
  | none => simp [hs] at h
  | some issued =>
    obtain rfl : sync = issued := by simpa [hs] using h
    exact (carries_of_syncOf? hs).answeredBy

/-- Reading a line does not change what the source answers. -/
theorem answer_readLine (state : Session × Focus) (line : Text) :
    (readLine state line).1.source.answer = state.1.source.answer := by
  obtain ⟨s, focus⟩ := state
  simp only [readLine]
  generalize Reading.step s.settings ⟨s.scene, focus⟩ line = step
  obtain ⟨reading, effect⟩ := step
  cases effect with
  | none => rfl
  | some effect =>
    obtain ⟨_, _, _, _, _, h⟩ := perform_eq { s with scene := reading.scene } effect
    simp only [Option.elim_some, h]

theorem answeredBy_of_mem_linesRead {lines : List Text} {state : Session × Focus}
    (h : .issued sync ∈ linesRead state lines) : sync.AnsweredBy state.1.source := by
  induction lines generalizing state with
  | nil => cases h
  | cons line lines ih =>
    have hanswer := answer_readLine state line
    rcases List.mem_append.mp h with hline | hlines
    · rcases lineRead_eq state line with hnone | ⟨sent, hone, hcarries⟩
      · rw [hnone] at hline
        cases hline
      · rw [hone, List.mem_singleton] at hline
        cases hline
        exact ⟨hcarries.nonempty, hcarries.kind, hanswer ▸ hcarries.result⟩
    · have hrest := ih hlines
      exact ⟨hrest.nonempty, hrest.kind, hanswer ▸ hrest.result⟩

/-- **A sync is issued with what the source answers before the operation that issues it.** -/
theorem answeredBy_of_issued {operation : Operation} (h : .issued sync ∈ s.events operation) :
    sync.AnsweredBy s.source := by
  cases operation with
  | read script =>
    have hlines : sync.AnsweredBy s.clear.source := answeredBy_of_mem_linesRead h
    exact ⟨hlines.nonempty, hlines.kind, hlines.result⟩
  | bindObject sprite id =>
    have hshown := answeredBy_of_mem_shown h
    exact ⟨hshown.nonempty, hshown.kind, hshown.result⟩
  | bindBackground sprite id =>
    simp only [events] at h
    split at h
    · have hshown := answeredBy_of_mem_shown h
      exact ⟨hshown.nonempty, hshown.kind, hshown.result⟩
    · cases h
  | showTexture id => exact answeredBy_of_mem_shown h
  | flush => simp [events] at h
  | askTexture id => simp [events] at h
  | clear | click | followPosition | addSprite | removeSprites | supplyTexture => cases h

/-- An event of a run belongs to one of its operations. -/
theorem mem_history {event : Event} {operations : List Operation}
    (h : event ∈ s.history operations) :
    ∃ before operation after, operations = before ++ operation :: after ∧
      event ∈ (s.run before).events operation := by
  induction operations generalizing s with
  | nil => cases h
  | cons first operations ih =>
    rcases List.mem_append.mp h with hfirst | hrest
    · exact ⟨[], first, operations, rfl, hfirst⟩
    · obtain ⟨before, operation, after, rfl, hevent⟩ := ih hrest
      exact ⟨first :: before, operation, after, rfl, hevent⟩

/-- What is pending after a run was issued in it, if nothing was pending at its start. -/
theorem issued_of_pending {operations : List Operation} (hstart : s.pending = [])
    (h : sync ∈ (s.run operations).pending) :
    ∃ before operation after, operations = before ++ operation :: after ∧
      .issued sync ∈ (s.run before).events operation := by
  have hqueue := (s.accounts_run operations).queue
  rw [hstart, List.nil_append] at hqueue
  have hissued : sync ∈ (s.history operations).filterMap Event.issued? :=
    hqueue ▸ List.mem_append_right _ h
  obtain ⟨event, hevent, hsome⟩ := List.mem_filterMap.mp hissued
  cases event with
  | issued issued =>
    cases hsome
    exact mem_history hevent
  | landed landed => cases hsome
  | asked url => cases hsome

end Issue

/-! ### A run -/

section Run
variable {start : Session} {operations : List Operation} {name : Text} {costume : Costume}

theorem Supplied.concat (h : start.Supplied operations name costume) (operation : Operation) :
    start.Supplied (operations ++ [operation]) name costume := by
  obtain ⟨before, issuer, after, sync, texture, rfl, hrest⟩ := h
  exact ⟨before, issuer, after ++ [operation], sync, texture, by simp, hrest⟩

/-- The costume of a sync that is pending shows what the source answered when it was issued. -/
theorem supplied_of_pending (hstart : start.pending = []) (a : Arrival)
    (h : a.sync ∈ (start.run operations).pending) :
    start.Supplied operations a.sync.sprite a.costume := by
  obtain ⟨before, operation, after, hoperations, hissued⟩ := issued_of_pending hstart h
  have hanswered := answeredBy_of_issued hissued
  refine ⟨before, operation, after, a.sync, a.texture, hoperations, hissued, rfl,
    hanswered.nonempty, hanswered.result.symm.trans a.answered, ?_⟩
  have hshows := Costume.shows_make a.sync.id a.sync.url a.texture.bytes
  rwa [← hanswered.kind] at hshows

/-- Of a sprite that is on the stage after one more operation, all is known that is known of the
sprites before it and of those that come to the stage. -/
theorem forall_mem_stage_apply {s : Session} {operation : Operation} {P Q : Sprite → Prop}
    (hstage : ∀ sprite ∈ s.stage, P sprite)
    (hcomes : ∀ sprite, operation = .addSprite sprite → P sprite)
    (hstep : ∀ before after, P before → s.Redresses operation before after → Q after) :
    ∀ sprite ∈ (s.apply operation).1.stage, Q sprite := by
  have hcast : ∀ sprite ∈ s.cast operation, P sprite := by
    intro sprite hmem
    cases operation with
    | addSprite added =>
      rcases List.mem_append.mp hmem with hold | hnew
      · exact hstage sprite hold
      · rw [List.mem_singleton.mp hnew]
        exact hcomes added rfl
    | removeSprites name => exact hstage sprite (List.mem_of_mem_filter hmem)
    | _ => exact hstage sprite hmem
  intro after hmem
  obtain ⟨index, hindex, rfl⟩ := List.getElem_of_mem hmem
  obtain ⟨hlength, hpairs⟩ := List.forall₂_iff_get.mp (s.redresses_apply operation)
  exact hstep _ _ (hcast _ (List.getElem_mem _)) (hpairs index (hlength ▸ hindex) hindex)

/-- What is true of all sprites in a run: they are orderly, and syncs of the run supplied their
costumes. -/
theorem orderly_supplied_run (hstart : start.pending = [])
    (hbare : ∀ sprite ∈ start.stage, sprite.costumes = [])
    (hcomes : ∀ sprite, .addSprite sprite ∈ operations → sprite.costumes = []) :
    ∀ sprite ∈ (start.run operations).stage, sprite.Orderly ∧
      ∀ costume ∈ sprite.costumes, start.Supplied operations sprite.name costume := by
  -- a bare sprite is orderly and has no costume to speak of
  have hnothing : ∀ sprite : Sprite, ∀ operations, sprite.costumes = [] → sprite.Orderly ∧
      ∀ costume ∈ sprite.costumes, start.Supplied operations sprite.name costume := by
    intro sprite operations hsprite
    refine ⟨Sprite.orderly_of_bare hsprite, ?_⟩
    rw [hsprite]
    exact List.forall_mem_nil _
  induction operations using List.reverseRecOn with
  | nil => exact fun sprite hmem => hnothing sprite [] (hbare sprite hmem)
  | append_singleton operations operation ih =>
    rw [run_append, run_cons, run_nil]
    have hbefore := ih fun sprite hmem => hcomes sprite (List.mem_append_left _ hmem)
    refine forall_mem_stage_apply hbefore (fun sprite heq => ?_) ?_
    · exact hnothing sprite operations (hcomes sprite (by simp [heq]))
    · rintro before after ⟨horderly, hsupplied⟩ hredresses
      refine ⟨hredresses.orderly horderly, fun costume hmem => ?_⟩
      rw [hredresses.name]
      rcases hredresses.mem_costumes hmem with hold | ⟨a, hpending, hname, rfl⟩
      · exact (hsupplied costume hold).concat operation
      · rw [← hname]
        exact (supplied_of_pending hstart a hpending).concat operation

/-- **The costumes of sprites that came without any.**  After any run the costumes of a sprite have
different names, and one of them is worn if there are any.  Each costume shows what the source
answered at a non-empty URL when an operation of the run issued a sync to the sprite's name,
however the source answers when the sync lands; it is named for the id of the sync, its kind is
that which the end of the URL announces, its asset id is the digest of its bytes with that ending,
and it turns about the origin.  No operation takes a costume from a sprite, and only a flush that
lands a texture on a sprite changes its costumes, one landing at a time. -/
theorem costumes_run (settings : Settings) {stage : Stage} (source : TextureSource)
    (hbare : ∀ sprite ∈ stage, sprite.costumes = [])
    (hcomes : ∀ sprite, .addSprite sprite ∈ operations → sprite.costumes = []) :
    let start := fresh settings stage source
    (∀ sprite ∈ (start.run operations).stage,
      (sprite.costumes.map (·.name)).Nodup ∧
      (sprite.costumes ≠ [] →
        sprite.selected < sprite.costumes.length ∧ sprite.worn?.isSome = true) ∧
      ∀ costume ∈ sprite.costumes, start.Supplied operations sprite.name costume) ∧
    (∀ bytes, (Sha256.hexDigest bytes).length = 64 ∧
      ∀ c ∈ Sha256.hexDigest bytes, c ∈ "0123456789abcdef".toList) ∧
    (∀ (s : Session) operation,
      List.Forall₂ (s.KeepsCostumes operation) (s.cast operation) (s.apply operation).1.stage) ∧
    ∀ (sync : Sync) (stage : Stage),
      List.Forall₂ (fun before after => after = before ∨ sync.Dresses stage before after)
        stage (sync.land stage).1 := by
  intro start
  refine ⟨fun sprite hmem => ?_, fun bytes => ⟨Sha256.length_hexDigest bytes, ?_⟩,
    fun s operation => (s.redresses_apply operation).imp fun _ _ h => h.keepsCostumes,
    Sync.forall₂_land⟩
  · have hstart : start.pending = [] := rfl
    obtain ⟨horderly, hsupplied⟩ := orderly_supplied_run hstart hbare hcomes sprite hmem
    refine ⟨horderly.names, fun hne => ⟨horderly.worn hne, ?_⟩, hsupplied⟩
    rw [Sprite.worn?, List.getElem?_eq_getElem (horderly.worn hne)]
    rfl
  · exact fun c hc => Sha256.mem_hexDigest hc

end Run

/-- A texture that is there when a rock is bound is worn after the flush, although its URL answers
with another one by then. -/
theorem costumes_run_late_flush :
    let url := "rock.svg".toList
    let script := "new Object:rock;\nsetTextureOf(Object) with id \"rock\"\nurl: rock.svg;".toList
    let operations := [.supplyTexture url (.ok ⟨[1], none⟩), .read script,
      .bindObject "Rock".toList "rock".toList, .supplyTexture url (.ok ⟨[2], none⟩), .flush]
    let stage : Stage := [{ name := "Rock".toList }]
    let s := (fresh {} stage .empty).run operations
    (∀ sprite ∈ stage, sprite.costumes = []) ∧
      (∀ sprite, Operation.addSprite sprite ∉ operations) ∧
      s.stage.map (fun sprite => sprite.costumes.map (·.bytes)) = [[[1]]] ∧
      ∀ sprite ∈ s.stage, ∀ costume ∈ sprite.costumes,
        (fresh {} stage .empty).Supplied operations sprite.name costume := by
  intro url script operations stage s
  have hbare : ∀ sprite ∈ stage, sprite.costumes = [] := by simp [stage]
  have hcomes : ∀ sprite, Operation.addSprite sprite ∉ operations := by simp [operations]
  have hworn : s.stage.map (fun sprite => sprite.costumes.map (·.bytes)) = [[[1]]] := by
    decide +kernel
  have hadded : ∀ sprite, .addSprite sprite ∈ operations → sprite.costumes = [] :=
    fun sprite hadd => absurd hadd (hcomes sprite)
  refine ⟨hbare, hcomes, hworn, fun sprite hmem => ?_⟩
  exact ((costumes_run {} .empty hbare hadded).1 sprite hmem).2.2

end Session
end PlanetScript
