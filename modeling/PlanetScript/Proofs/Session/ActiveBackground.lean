import PlanetScript.Proofs.Session.Following

/-! # The active background

At most one background is active at any time.  Two edits touch activity: switching to a
background that was declared makes it the only active one, and a declaration makes its
background inactive.  Every edit keeps uniqueness (`Scene.SingleActive.edited`), hence
scripts and runs do (`Session.singleActive_run`).

Which background is active after a script is read off its lines: the one that the last
switch to a declared background names, unless a later line declares it anew
(`Describes.isActive_iff`).
-/
namespace PlanetScript
open Text

namespace Scene
variable {scene : Scene}

/-- Whether an id names a background that is active. -/
def IsActive (scene : Scene) (id : Text) : Prop :=
  ∃ background, scene.backgrounds.get? id = some background ∧ background.active = true

/-- At most one background is active. -/
def SingleActive (scene : Scene) : Prop :=
  ∀ id other, scene.IsActive id → scene.IsActive other → id = other

theorem mem_keysWhere_active_iff {id : Text} :
    id ∈ scene.backgrounds.keysWhere (·.active) ↔ scene.IsActive id :=
  Registry.mem_keysWhere_iff

/-- A background that is active after an edit was switched to by it, or was active before an
edit that switches to none. -/
theorem IsActive.of_edited {style : NumberStyle} {e : Edit} {id : Text}
    (h : (scene.edited style e).IsActive id) :
    (e = .activate id ∧ scene.backgrounds.contains id = true) ∨
      (scene.IsActive id ∧
        ∀ target, e = .activate target → scene.backgrounds.contains target = false) := by
  obtain ⟨background, hget, hactive⟩ := h
  rw [get?_backgrounds_edited] at hget
  split at hget
  · -- a background that was just declared is inactive
    cases hget
    cases hactive
  · obtain ⟨old, hold, rfl⟩ := Option.map_eq_some_iff.mp hget
    by_cases ha : ∃ target, e = .activate target
    · obtain ⟨target, rfl⟩ := ha
      simp only [Edit.onBackground] at hactive
      split at hactive
      · next hc =>
        obtain rfl : target = id := of_decide_eq_true hactive
        exact Or.inl ⟨rfl, hc⟩
      · next hc =>
        refine Or.inr ⟨⟨old, hold, hactive⟩, fun other he => ?_⟩
        rw [← Edit.activate.inj he]
        exact Bool.eq_false_iff.mpr hc
    · refine Or.inr ⟨⟨old, hold, ?_⟩, fun target he => absurd ⟨target, he⟩ ha⟩
      rwa [Edit.active_onBackground fun target he => ha ⟨target, he⟩] at hactive

/-- **An edit leaves at most one background active.** -/
theorem SingleActive.edited (h : scene.SingleActive) (style : NumberStyle) (e : Edit) :
    (scene.edited style e).SingleActive := by
  intro id other hid hother
  -- if the edit switches, both are its target; if not, both were active before
  rcases hid.of_edited with ⟨rfl, hc⟩ | ⟨hold, hnone⟩
  · rcases hother.of_edited with ⟨he, -⟩ | ⟨-, hnone⟩
    · exact Edit.activate.inj he
    · exact absurd hc (by simp [hnone id rfl])
  · rcases hother.of_edited with ⟨rfl, hc⟩ | ⟨hold', -⟩
    · exact absurd hc (by simp [hnone other rfl])
    · exact h id other hold hold'

theorem SingleActive.foldl_edited (h : scene.SingleActive) (style : NumberStyle)
    (es : List Edit) : (es.foldl (Scene.edited style) scene).SingleActive := by
  induction es generalizing scene with
  | nil => exact h
  | cons e es ih => exact ih (h.edited style e)

theorem singleActive_empty : empty.SingleActive := by
  rintro id other ⟨background, hget, -⟩
  cases hget

/-- **A script makes at most one background active.** -/
theorem singleActive_ofScript (settings : Settings) (script : Text) :
    (ofScript settings script).SingleActive := by
  rw [ofScript, Reading.scene_run]
  exact singleActive_empty.foldl_edited _ _

theorem SingleActive.length_le_one (h : scene.SingleActive) :
    (scene.backgrounds.keysWhere (·.active)).length ≤ 1 := by
  have hnodup := scene.backgrounds.nodup_keysWhere (·.active)
  have hmem : ∀ id ∈ scene.backgrounds.keysWhere (·.active), scene.IsActive id :=
    fun id => mem_keysWhere_active_iff.mp
  generalize scene.backgrounds.keysWhere (·.active) = ids at hnodup hmem
  match ids with
  | [] | [_] => simp
  | id :: other :: _ =>
    have hsame : id = other := h id other (hmem id (by simp)) (hmem other (by simp))
    simp [hsame] at hnodup

/-- The active background is the one that is found. -/
theorem SingleActive.active?_eq_some_iff (h : scene.SingleActive) {id : Text} :
    scene.active? = some id ↔ scene.IsActive id := by
  rw [active?, ← mem_keysWhere_active_iff]
  constructor
  · exact List.mem_of_head?
  · intro hid
    cases hkeys : scene.backgrounds.keysWhere (·.active) with
    | nil =>
      rw [hkeys] at hid
      cases hid
    | cons first rest =>
      have hfirst : scene.IsActive first := by
        rw [← mem_keysWhere_active_iff, hkeys]
        exact List.mem_cons_self
      rw [h id first (mem_keysWhere_active_iff.mp hid) hfirst]
      rfl

end Scene

/-! ### Which background is active -/

/-- Whether the last switch to a declared background names this one, and no later line
declares it anew. -/
def SwitchedTo (lines : List Text) (id : Text) : Prop :=
  ∃ before line after, lines = before ++ line :: after ∧
    Directive.ofLine line = .switchBackground (some id) ∧ DeclaresBackground before id ∧
    (∀ p ∈ placesBehind (before ++ [line]) after, p.switchedTo? = none) ∧
    ¬ DeclaresBackground after id

namespace Place

theorem activity?_eq_some_true_iff {p : Place} {id : Text} :
    p.activity? id = some true ↔
      p.directive = .switchBackground (some id) ∧ DeclaresBackground p.before id := by
  unfold activity? switchedTo?
  cases p.directive with
  | newBackground target => by_cases h : target = some id <;> simp [h]
  | switchBackground target =>
    cases target with
    | none => simp
    | some target =>
      by_cases ht : target = id
      · simp [ht]
      · by_cases hd : DeclaresBackground p.before target <;> simp [ht, hd]
  | _ => simp

theorem activity?_eq_none_iff {p : Place} {id : Text} :
    p.activity? id = none ↔ p.directive ≠ .newBackground (some id) ∧ p.switchedTo? = none := by
  unfold activity?
  by_cases h : p.directive = .newBackground (some id) <;> simp [h]

end Place

theorem forall_line_placesBehind_iff (before lines : List Text) {q : Text → Prop} :
    (∀ p ∈ placesBehind before lines, q p.line) ↔ ∀ line ∈ lines, q line := by
  induction lines generalizing before with
  | nil => simp [placesBehind]
  | cons line lines ih => simp [placesBehind, ih]

theorem switchedTo_iff {lines : List Text} {id : Text} :
    SwitchedTo lines id ↔ lastGiven (·.activity? id) lines = some true := by
  rw [lastGiven_eq_some_iff]
  refine exists_congr fun before => exists_congr fun line => exists_congr fun after =>
    and_congr_right fun _ => ?_
  have hnew : ¬ DeclaresBackground after id ↔ ∀ p ∈ placesBehind (before ++ [line]) after,
      p.directive ≠ .newBackground (some id) := by
    have hlines := forall_line_placesBehind_iff (before ++ [line]) after
      (q := fun l => Directive.ofLine l ≠ .newBackground (some id))
    refine Iff.trans ?_ hlines.symm
    simp [DeclaresBackground]
  simp only [Place.activity?_eq_some_true_iff, Place.activity?_eq_none_iff, hnew, and_assoc]
  refine and_congr_right fun _ => and_congr_right fun _ => ?_
  constructor
  · exact fun h p hp => ⟨h.2 p hp, h.1 p hp⟩
  · exact fun h => ⟨fun p hp => (h p hp).2, fun p hp => (h p hp).1⟩

/-- **The active background of lines.** -/
theorem Describes.isActive_iff {settings : Settings} {lines : List Text} {scene : Scene}
    (h : Describes settings lines scene) (id : Text) :
    scene.IsActive id ↔ SwitchedTo lines id := by
  constructor
  · rintro ⟨background, hget, hactive⟩
    rw [h.backgrounds id] at hget
    split at hget
    · cases hget
      rw [switchedTo_iff]
      simp only [backgroundOf] at hactive
      cases hlast : lastGiven (·.activity? id) lines with
      | none => rw [hlast] at hactive; cases hactive
      | some active => rw [hlast] at hactive; rw [← hactive]; rfl
    · cases hget
  · intro hs
    have hlast := switchedTo_iff.mp hs
    obtain ⟨before, line, after, hlines, -, ⟨l, hl, hnew⟩, -⟩ := hs
    have hd : DeclaresBackground lines id := ⟨l, by rw [hlines]; simp [hl], hnew⟩
    refine ⟨backgroundOf settings lines id, by rw [h.backgrounds id, if_pos hd], ?_⟩
    rw [backgroundOf, hlast]
    rfl

/-- A switch without an id, or to an id that no background was declared with, changes
nothing. -/
theorem Reading.scene_run_of_switch (settings : Settings) {lines : List Text} {line : Text}
    {target : Option Text} (hswitch : Directive.ofLine line = .switchBackground target)
    (hnone : ∀ id, target = some id → ¬ DeclaresBackground lines id) :
    (Reading.run settings {} (lines ++ [line])).scene = (Reading.run settings {} lines).scene := by
  have hedit : (focusAt settings.blockScope lines).edit? line = target.map .activate := by
    simp only [Focus.edit?, hswitch]
  rw [scene_run, scene_run, edits_concat, hedit, List.foldl_append, ← scene_run]
  cases target with
  | none => rfl
  | some id =>
    have hcontains := (describes_run settings lines).contains_backgrounds id
    show (if _ then _ else _) = _
    rw [if_neg fun hc => hnone id rfl (hcontains.mp hc)]

namespace Session

/-- **At any time at most one background is active.** -/
theorem singleActive_run (settings : Settings) (stage : Stage) (source : TextureSource)
    (operations : List Operation) :
    ((fresh settings stage source).run operations).scene.SingleActive := by
  obtain ⟨script, h⟩ := exists_scene_run settings stage source operations
  rw [h]
  exact Scene.singleActive_ofScript settings script

/-- **The active background of a session.**  There is at most one at any time of a run.  After
a script it is the one that the script switched to last, if it was not declared anew, and
else there is none.  A switch that names no declared background changes nothing. -/
theorem active_background (settings : Settings) (stage : Stage) (source : TextureSource)
    (operations : List Operation) (s : Session) (script : Text) :
    (((fresh settings stage source).run operations).scene.backgrounds.keysWhere
        (·.active)).length ≤ 1 ∧
      (∀ id, ((s.read script).scene.IsActive id ↔ SwitchedTo (contentLines script) id) ∧
        ((s.read script).scene.active? = some id ↔ SwitchedTo (contentLines script) id)) ∧
      ((∀ id, ¬ SwitchedTo (contentLines script) id) →
        (s.read script).scene.active? = none ∧ ∀ id, ¬ (s.read script).scene.IsActive id) ∧
      ∀ lines line target, Directive.ofLine line = .switchBackground target →
        (∀ id, target = some id → ¬ DeclaresBackground lines id) →
        (Reading.run settings {} (lines ++ [line])).scene =
          (Reading.run settings {} lines).scene := by
  have hscene := s.scene_read script
  have hactive : ∀ id,
      (s.read script).scene.IsActive id ↔ SwitchedTo (contentLines script) id := by
    rw [hscene]
    exact (describes_run s.settings (contentLines script)).isActive_iff
  have hsingle : (s.read script).scene.SingleActive := by
    rw [hscene]
    exact Scene.singleActive_ofScript s.settings script
  have hfound : ∀ id,
      (s.read script).scene.active? = some id ↔ SwitchedTo (contentLines script) id :=
    fun id => hsingle.active?_eq_some_iff.trans (hactive id)
  refine ⟨(singleActive_run settings stage source operations).length_le_one,
    fun id => ⟨hactive id, hfound id⟩, ?_, ?_⟩
  · intro hnone
    refine ⟨Option.eq_none_iff_forall_ne_some.mpr fun id hid => ?_, fun id hid => ?_⟩
    · exact hnone id ((hfound id).mp hid)
    · exact hnone id ((hactive id).mp hid)
  · intro lines line target hswitch hnone
    exact Reading.scene_run_of_switch settings hswitch hnone

/-- An object is no background to switch to, and without a script no background is active. -/
theorem active_background_of_object :
    let before := ["new Object:o".toList]
    let line := "switchBackgroundImgTo with id \"o\"".toList
    ((∀ id, ¬ SwitchedTo (contentLines []) id) ∧ (read {} []).scene.active? = none) ∧
      Directive.ofLine line = .switchBackground (some "o".toList) ∧
      ¬ DeclaresBackground before "o".toList ∧
      (Reading.run {} {} (before ++ [line])).scene = (Reading.run {} {} before).scene := by
  intro before line
  obtain ⟨-, -, hinactive, hkept⟩ := active_background {} [] .empty [] {} []
  have hempty : ∀ id, ¬ SwitchedTo (contentLines []) id := by
    rintro id ⟨before, line, after, hlines, -⟩
    exact absurd hlines (by simp [contentLines, splitLines])
  have hswitch : Directive.ofLine line = .switchBackground (some "o".toList) := by decide
  have hobject : ¬ DeclaresBackground before "o".toList := by decide
  refine ⟨⟨hempty, (hinactive hempty).1⟩, hswitch, hobject, ?_⟩
  refine hkept before line _ hswitch fun id hid => ?_
  rw [← Option.some.inj hid]
  exact hobject

end Session
end PlanetScript
