import PlanetScript.Proofs.Script.Place

/-! # Edits

A line changes the scene in one of a few ways, and an edit is one such change as a value.
Which edit a line makes depends on the line and its focus alone (`Focus.edit?`); what the
edit does to the scene, and what it asks of the world outside, depends on the scene alone
(`Scene.edited`, `Scene.effect?`).  So a script is the list of its edits (`edits`), and its
scene is what they make of the empty scene (`Reading.scene_run`).

Facts about every line are proved here once per edit: the lines that make no edit leave
the scene as it is.
-/
namespace PlanetScript
open Text

/-- A change to a scene. -/
inductive Edit where
  /-- The script has the signature. -/
  | validate
  | thumbnail (url : Text)
  /-- The texts of the coordinates that are given. -/
  | spawn (x y : Option Text)
  | declareBackground (id : Text)
  | declareObject (id : Text)
  /-- Makes a background the active one, if it was declared. -/
  | activate (id : Text)
  /-- Stores a texture on what the kind names, or else on what the id stands for. -/
  | texture (id : Text) (kind : Option Kind) (url : Text)
  | position (id : Text) (x y : Option Text)
  | size (id size : Text)
  | gravity (id raw : Text)
  | removeByClick (id : Text)
deriving DecidableEq, Repr

namespace Focus

/-- The edit that a content line makes in an open block. -/
def fieldEdit? (focus : Focus) (line : Text) : Block → Option Edit
  | .thumbnail => (rest? "url:".toList line).map fun url => .thumbnail (stored url)
  | .spawn => some (.spawn (rest? "x:".toList line) (rest? "y:".toList line))
  | .texture => focus.id.bind fun id =>
      (restAfter? "url:".toList line).map fun url => .texture id focus.kind (stored url)
  | .position => focus.id.bind fun id =>
      let x := restAfter? "x:".toList line
      let y := restAfter? "y:".toList line
      if x.isSome ∨ y.isSome then some (.position id x y) else none
  | .size => focus.id.map fun id => .size id (stored line)
  | .properties => focus.id.bind fun id => (rest? "gravity:".toList line).map (.gravity id)
  | .onClick => none

/-- The edit that a line makes. -/
def edit? (focus : Focus) (line : Text) : Option Edit :=
  match Directive.ofLine line with
  | .signature => some .validate
  | .newBackground id => id.map .declareBackground
  | .newObject id => id.map .declareObject
  | .switchBackground id => id.map .activate
  | .remove => if focus.block = some .onClick then focus.id.map .removeByClick else none
  | .content => focus.block.bind (focus.fieldEdit? line)
  | _ => none

/-- Focuses that are the same make the same edits. -/
theorem Same.edit?_eq {f g : Focus} (h : f.Same g) (line : Text) : f.edit? line = g.edit? line := by
  obtain ⟨hb, hi, hk⟩ := h
  unfold edit?
  cases Directive.ofLine line with
  | remove => rw [hb, hi]
  | content =>
    simp only [← hb]
    refine Option.bind_congr fun block hblock => ?_
    cases block with
    | texture => simp only [fieldEdit?, hi, hk hblock]
    | _ => simp only [fieldEdit?, hi]
  | _ => rfl

/-- Only content and removals look at the focus. -/
theorem edit?_eq_of_directive {line : Text} (hc : Directive.ofLine line ≠ .content)
    (hr : Directive.ofLine line ≠ .remove) (f g : Focus) : f.edit? line = g.edit? line := by
  unfold edit?
  split <;> first | rfl | contradiction

/-- Without a block, content and removals make no edit. -/
theorem edit?_eq_none_of_block {focus : Focus} {line : Text} (hb : focus.block = none)
    (hd : Directive.ofLine line = .content ∨ Directive.ofLine line = .remove) :
    focus.edit? line = none := by
  rcases hd with hd | hd
  · simp [edit?, hd, hb]
  · simp [edit?, hd, hb]

/-- What has to stand where for a line to make an edit. -/
def Makes (focus : Focus) (line : Text) : Edit → Prop
  | .validate => Directive.ofLine line = .signature
  | .declareBackground id => Directive.ofLine line = .newBackground (some id)
  | .declareObject id => Directive.ofLine line = .newObject (some id)
  | .activate id => Directive.ofLine line = .switchBackground (some id)
  | .removeByClick id =>
    Directive.ofLine line = .remove ∧ focus.block = some .onClick ∧ focus.id = some id
  | .thumbnail url => Directive.ofLine line = .content ∧ focus.block = some .thumbnail ∧
      (rest? "url:".toList line).map stored = some url
  | .spawn x y => Directive.ofLine line = .content ∧ focus.block = some .spawn ∧
      x = rest? "x:".toList line ∧ y = rest? "y:".toList line
  | .texture id kind url => Directive.ofLine line = .content ∧ focus.block = some .texture ∧
      focus.id = some id ∧ kind = focus.kind ∧
      (restAfter? "url:".toList line).map stored = some url
  | .position id x y => Directive.ofLine line = .content ∧ focus.block = some .position ∧
      focus.id = some id ∧ x = restAfter? "x:".toList line ∧ y = restAfter? "y:".toList line ∧
      (x.isSome ∨ y.isSome)
  | .size id word => Directive.ofLine line = .content ∧ focus.block = some .size ∧
      focus.id = some id ∧ word = stored line
  | .gravity id raw => Directive.ofLine line = .content ∧ focus.block = some .properties ∧
      focus.id = some id ∧ rest? "gravity:".toList line = some raw

theorem makes_of_fieldEdit? {focus : Focus} {line : Text} {block : Block} {e : Edit}
    (hd : Directive.ofLine line = .content) (hb : focus.block = some block)
    (h : focus.fieldEdit? line block = some e) : focus.Makes line e := by
  cases block with
  | thumbnail =>
    obtain ⟨url, hurl, rfl⟩ := Option.map_eq_some_iff.mp h
    exact ⟨hd, hb, by rw [hurl]; rfl⟩
  | spawn =>
    cases h
    exact ⟨hd, hb, rfl, rfl⟩
  | texture =>
    obtain ⟨id, hid, h⟩ := Option.bind_eq_some_iff.mp h
    obtain ⟨url, hurl, rfl⟩ := Option.map_eq_some_iff.mp h
    exact ⟨hd, hb, hid, rfl, by rw [hurl]; rfl⟩
  | position =>
    obtain ⟨id, hid, h⟩ := Option.bind_eq_some_iff.mp h
    simp only at h
    split at h
    · next hxy =>
      cases h
      exact ⟨hd, hb, hid, rfl, rfl, hxy⟩
    · cases h
  | size =>
    obtain ⟨id, hid, rfl⟩ := Option.map_eq_some_iff.mp h
    exact ⟨hd, hb, hid, rfl⟩
  | properties =>
    obtain ⟨id, hid, h⟩ := Option.bind_eq_some_iff.mp h
    obtain ⟨raw, hraw, rfl⟩ := Option.map_eq_some_iff.mp h
    exact ⟨hd, hb, hid, hraw⟩
  | onClick => cases h

theorem fieldEdit?_of_makes {focus : Focus} {line : Text} {e : Edit}
    (hd : Directive.ofLine line = .content) (h : focus.Makes line e) :
    focus.block.bind (focus.fieldEdit? line) = some e := by
  cases e with
  | validate => exact absurd (hd.symm.trans h) nofun
  | declareBackground id | declareObject id | activate id => exact absurd (hd.symm.trans h) nofun
  | removeByClick id => exact absurd (hd.symm.trans h.1) nofun
  | thumbnail url =>
    obtain ⟨-, hb, hurl⟩ := h
    obtain ⟨raw, hraw, rfl⟩ := Option.map_eq_some_iff.mp hurl
    simp only [hb, Option.bind_some, fieldEdit?, hraw, Option.map_some]
  | spawn x y =>
    obtain ⟨-, hb, rfl, rfl⟩ := h
    simp only [hb, Option.bind_some, fieldEdit?]
  | texture id kind url =>
    obtain ⟨-, hb, hid, rfl, hurl⟩ := h
    obtain ⟨raw, hraw, rfl⟩ := Option.map_eq_some_iff.mp hurl
    simp only [hb, Option.bind_some, fieldEdit?, hid, hraw, Option.map_some]
  | position id x y =>
    obtain ⟨-, hb, hid, rfl, rfl, hxy⟩ := h
    simp only [hb, Option.bind_some, fieldEdit?, hid, if_pos hxy]
  | size id word =>
    obtain ⟨-, hb, hid, rfl⟩ := h
    simp only [hb, Option.bind_some, fieldEdit?, hid, Option.map_some]
  | gravity id raw =>
    obtain ⟨-, hb, hid, hraw⟩ := h
    simp only [hb, Option.bind_some, fieldEdit?, hid, hraw, Option.map_some]

/-- **Which lines make which edit.** -/
theorem edit?_eq_some_iff {focus : Focus} {line : Text} {e : Edit} :
    focus.edit? line = some e ↔ focus.Makes line e := by
  unfold edit?
  cases hd : Directive.ofLine line with
  | content =>
    constructor
    · intro h
      obtain ⟨block, hb, hf⟩ := Option.bind_eq_some_iff.mp h
      exact makes_of_fieldEdit? hd hb hf
    · exact fieldEdit?_of_makes hd
  | remove =>
    by_cases hb : focus.block = some .onClick
    · cases e <;> simp [Makes, hd, hb]
    · cases e <;> simp [Makes, hd, hb]
  | newBackground id | newObject id | switchBackground id =>
    cases id <;> cases e <;> simp [Makes, hd]
  | _ => cases e <;> simp [Makes, hd]

end Focus

namespace Scene
variable (style : NumberStyle) (scene : Scene)

/-- The scene after an edit. -/
def edited : Edit → Scene
  | .validate => { scene with valid := true }
  | .thumbnail url => { scene with thumbnail := url }
  | .spawn x y => { scene with spawn := scene.spawn.update style x y }
  | .declareBackground id => scene.declareBackground id
  | .declareObject id => scene.declareObject id
  | .activate id => if scene.backgrounds.contains id then scene.activate id else scene
  | .texture id kind url => (scene.storeTexture? kind id url).getD scene
  | .position id x y => scene.modifyObject id fun object =>
      { object with position := object.position.update style x y }
  | .size id size => scene.modifyObject id fun object => { object with size }
  | .gravity id raw => scene.modifyObject id fun object => { object with gravity := .read raw }
  | .removeByClick id => scene.modifyObject id fun object => { object with removedByClick := true }

/-- What an edit of the scene asks of the world outside. -/
def effect? : Edit → Option Effect
  | .activate id => if scene.backgrounds.contains id then some (.showTexture id) else none
  | .texture id kind url => (scene.storeTexture? kind id url).map fun _ => .showTexture id
  | .position id _ _ => if scene.objects.contains id then some (.followPosition id) else none
  | _ => none

end Scene

/-- Changing the value of a key that has none changes nothing. -/
theorem Registry.modify_of_contains_eq_false {α : Type} {r : Registry α} {key : Text}
    (h : r.contains key = false) (f : α → α) : r.modify key f = r := by
  obtain ⟨entries, nodup⟩ := r
  have hkey : ∀ entry ∈ entries, entry.1 ≠ key := by
    intro entry he hk
    have hmem : key ∈ Registry.keys ⟨entries, nodup⟩ := List.mem_map.mpr ⟨entry, he, hk⟩
    rw [mem_keys_iff, h] at hmem
    cases hmem
  have hmap : modifyEntry key f entries = entries := by
    refine (List.map_congr_left fun entry he => ?_).trans (List.map_id entries)
    exact if_neg (hkey entry he)
  simp only [modify, hmap]

theorem Scene.modifyObject_of_contains_eq_false {scene : Scene} {id : Text}
    (h : scene.objects.contains id = false) (f : Object → Object) :
    scene.modifyObject id f = scene := by
  rw [modifyObject, Registry.modify_of_contains_eq_false h]

/-- An edit of a content line is what the line does and asks for. -/
theorem Reading.field_of_fieldEdit? {style : NumberStyle} {line : Text} {focus : Focus}
    {scene : Scene} {block : Block} {e : Edit} (h : focus.fieldEdit? line block = some e) :
    Reading.field style line focus scene block = (scene.edited style e, scene.effect? e) := by
  cases block with
  | thumbnail =>
    obtain ⟨url, hurl, rfl⟩ := Option.map_eq_some_iff.mp h
    simp only [field, hurl]
    rfl
  | spawn =>
    cases h
    rfl
  | texture =>
    obtain ⟨id, hid, h⟩ := Option.bind_eq_some_iff.mp h
    obtain ⟨url, hurl, rfl⟩ := Option.map_eq_some_iff.mp h
    simp only [field, hid, hurl, Scene.edited, Scene.effect?]
    cases scene.storeTexture? focus.kind id (stored url) <;> rfl
  | position =>
    obtain ⟨id, hid, h⟩ := Option.bind_eq_some_iff.mp h
    simp only at h
    split at h
    · next hxy =>
      cases h
      simp only [field, hid, Scene.edited, Scene.effect?]
      cases hc : scene.objects.contains id with
      | true => rw [if_pos ⟨rfl, hxy⟩, if_pos rfl]
      | false =>
        -- the line stops at an unknown object, and the edit changes nothing
        simp [Scene.modifyObject_of_contains_eq_false hc]
    · cases h
  | size =>
    obtain ⟨id, hid, rfl⟩ := Option.map_eq_some_iff.mp h
    simp only [field, hid]
    rfl
  | properties =>
    obtain ⟨id, hid, h⟩ := Option.bind_eq_some_iff.mp h
    obtain ⟨raw, hraw, rfl⟩ := Option.map_eq_some_iff.mp h
    simp only [field, hid, hraw]
    rfl
  | onClick => cases h

/-- A content line without an edit does nothing and asks for nothing. -/
theorem Reading.field_of_fieldEdit?_eq_none {style : NumberStyle} {line : Text} {focus : Focus}
    {scene : Scene} {block : Block} (h : focus.fieldEdit? line block = none) :
    Reading.field style line focus scene block = (scene, none) := by
  cases block with
  | thumbnail =>
    have hurl : rest? "url:".toList line = none := Option.map_eq_none_iff.mp h
    simp only [field, hurl]
  | spawn => cases h
  | texture =>
    cases hid : focus.id with
    | none => simp only [field, hid]
    | some id =>
      simp only [Focus.fieldEdit?, hid, Option.bind_some, Option.map_eq_none_iff] at h
      simp only [field, hid, h]
  | position =>
    cases hid : focus.id with
    | none => simp only [field, hid]
    | some id =>
      simp only [Focus.fieldEdit?, hid, Option.bind_some] at h
      split at h
      · cases h
      · next hxy => simp only [field, hid, hxy, and_false, if_false]
  | size =>
    have hid : focus.id = none := Option.map_eq_none_iff.mp h
    simp only [field, hid]
  | properties =>
    cases hid : focus.id with
    | none => simp only [field, hid]
    | some id =>
      simp only [Focus.fieldEdit?, hid, Option.bind_some, Option.map_eq_none_iff] at h
      simp only [field, hid, h]
  | onClick => rfl

namespace Reading
variable (settings : Settings) {r : Reading} {line : Text}

/-- The edit of a line is what the line does to the scene, and its effect is the line's. -/
theorem step_of_edit? {e : Edit} (h : r.focus.edit? line = some e) :
    r.step settings line = (⟨r.scene.edited settings.numberStyle e,
      r.focus.next settings.blockScope (.ofLine line)⟩, r.scene.effect? e) := by
  have hfocus := focus_step settings r line
  suffices hs : (r.step settings line).1.scene = r.scene.edited settings.numberStyle e ∧
      (r.step settings line).2 = r.scene.effect? e by
    rw [← hfocus, ← hs.1, ← hs.2]
  clear hfocus
  unfold Focus.edit? at h
  unfold step
  cases hd : Directive.ofLine line with
  | content =>
    rw [hd] at h
    obtain ⟨block, hb, hf⟩ := Option.bind_eq_some_iff.mp h
    simp only [content, hb, field_of_fieldEdit? hf, and_self]
  | signature =>
    rw [hd] at h
    cases h
    exact ⟨rfl, rfl⟩
  | newBackground id | newObject id =>
    rw [hd] at h
    obtain ⟨id, rfl, rfl⟩ := Option.map_eq_some_iff.mp h
    exact ⟨rfl, rfl⟩
  | switchBackground id =>
    rw [hd] at h
    obtain ⟨id, rfl, rfl⟩ := Option.map_eq_some_iff.mp h
    simp only [directive, Scene.edited, Scene.effect?]
    split <;> exact ⟨rfl, rfl⟩
  | remove =>
    rw [hd] at h
    simp only at h
    split at h
    · next hb =>
      obtain ⟨id, hid, rfl⟩ := Option.map_eq_some_iff.mp h
      simp only [directive, hb, hid]
      exact ⟨rfl, rfl⟩
    · cases h
  | _ => rw [hd] at h; cases h

/-- A line without an edit leaves the scene as it is, and asks at most for a notice. -/
theorem step_of_edit?_eq_none (h : r.focus.edit? line = none) :
    ∃ effect : Option Effect, r.step settings line =
        (⟨r.scene, r.focus.next settings.blockScope (.ofLine line)⟩, effect) ∧
      (effect = none ∨ effect = some (.ignored line)) := by
  have hfocus := focus_step settings r line
  suffices hs : (r.step settings line).1.scene = r.scene ∧
      ((r.step settings line).2 = none ∨ (r.step settings line).2 = some (.ignored line)) by
    exact ⟨_, by rw [← hfocus, ← hs.1], hs.2⟩
  clear hfocus
  unfold Focus.edit? at h
  unfold step
  cases hd : Directive.ofLine line with
  | content =>
    rw [hd] at h
    simp only [content]
    cases hb : r.focus.block with
    | none => exact ⟨rfl, Or.inr rfl⟩
    | some block =>
      rw [hb] at h
      simp only [field_of_fieldEdit?_eq_none h]
      exact ⟨trivial, Or.inl trivial⟩
  | signature => rw [hd] at h; cases h
  | newBackground id | newObject id | switchBackground id =>
    rw [hd] at h
    rw [Option.map_eq_none_iff.mp h]
    exact ⟨rfl, Or.inl rfl⟩
  | remove =>
    rw [hd] at h
    simp only [directive]
    split
    · next id hb hid =>
      rw [hb, hid] at h
      cases h
    · exact ⟨rfl, Or.inl rfl⟩
  | _ => exact ⟨rfl, Or.inl rfl⟩

end Reading

/-! ### The edits of a script -/

/-- The edit of the line of a place. -/
def Place.edit? (scope : BlockScope) (p : Place) : Option Edit := (p.focus scope).edit? p.line

/-- The edits of some lines, in their order. -/
def edits (scope : BlockScope) (lines : List Text) : List Edit :=
  (places lines).filterMap (Place.edit? scope)

theorem edits_concat (scope : BlockScope) (lines : List Text) (line : Text) :
    edits scope (lines ++ [line]) =
      edits scope lines ++ ((focusAt scope lines).edit? line).toList := by
  rw [edits, places_concat, List.filterMap_append, List.filterMap_cons, List.filterMap_nil]
  rw [show Place.edit? scope ⟨lines, line⟩ = (focusAt scope lines).edit? line from rfl]
  cases (focusAt scope lines).edit? line <;> rfl

/-- **The scene of some lines is what their edits make of the empty scene.** -/
theorem Reading.scene_run (settings : Settings) (lines : List Text) :
    (Reading.run settings {} lines).scene =
      (edits settings.blockScope lines).foldl (Scene.edited settings.numberStyle) {} := by
  induction lines using List.reverseRecOn with
  | nil => rfl
  | append_singleton lines line ih =>
    have hedit := (Reading.focus_run settings lines).edit?_eq line
    rw [edits_concat, List.foldl_append, ← ih, ← hedit, Reading.run, List.foldl_append]
    show (Reading.step settings (Reading.run settings {} lines) line).1.scene = _
    cases he : (Reading.run settings {} lines).focus.edit? line with
    | some e => rw [step_of_edit? settings he]; rfl
    | none =>
      obtain ⟨effect, hs, -⟩ := step_of_edit?_eq_none settings he
      rw [hs]; rfl

end PlanetScript
