import PlanetScript.Proofs.Scene.Order
import PlanetScript.Proofs.Script.Segment

/-! # Segments in another order

A field of the scene is named by a block and an id, and edits of different fields can be made in
either order (`Scene.edited_comm`).  A segment edits one field, so segments without a field in
common can change places (`Segment.edited_comm`).

More than two segments are reordered step by step: what each field is given, and in which order,
is all that the scene depends on (`Segment.foldl_edited_eq`).  A segment that names no id where
its block takes one gives no field, and stands wherever it likes.
-/
namespace PlanetScript
open Text

/-! ### Edits of different fields -/

namespace Edit

/-- The field that an edit gives, by its block and the id that it belongs to; declarations,
switches and the signature give none. -/
def field? : Edit → Option (Block × Option Text)
  | .thumbnail _ => some (.thumbnail, none)
  | .spawn _ _ => some (.spawn, none)
  | .texture id _ _ => some (.texture, some id)
  | .position id _ _ => some (.position, some id)
  | .size id _ => some (.size, some id)
  | .gravity id _ => some (.properties, some id)
  | .removeByClick id => some (.onClick, some id)
  | _ => none

/-- What an edit makes of the thumbnail. -/
def onThumbnail (thumbnail : Text) : Edit → Text
  | .thumbnail url => url
  | _ => thumbnail

/-- What an edit makes of the spawn point. -/
def onSpawn (style : NumberStyle) (spawn : Point) : Edit → Point
  | .spawn x y => spawn.update style x y
  | _ => spawn

section Comm
variable {style : NumberStyle} {e f : Edit}

theorem onThumbnail_comm (h : e.field? ≠ f.field?) (thumbnail : Text) :
    f.onThumbnail (e.onThumbnail thumbnail) = e.onThumbnail (f.onThumbnail thumbnail) := by
  cases e with
  | thumbnail url =>
    cases f with
    | thumbnail other => exact absurd rfl h
    | _ => rfl
  | _ => rfl

theorem onSpawn_comm (h : e.field? ≠ f.field?) (spawn : Point) :
    f.onSpawn style (e.onSpawn style spawn) = e.onSpawn style (f.onSpawn style spawn) := by
  cases e with
  | spawn x y =>
    cases f with
    | spawn x' y' => exact absurd rfl h
    | _ => rfl
  | _ => rfl

/-- Edits of different fields change an object in either order. -/
theorem onObject_comm {id : Text} (h : e.field? ≠ f.field?) (object : Object) :
    f.onObject style id (e.onObject style id object) =
      e.onObject style id (f.onObject style id object) := by
  by_cases he : e.object? = some id
  · by_cases hf : f.object? = some id
    · -- both are about this object, so they are not of the same block
      cases e <;> cases he <;> cases f <;> cases hf <;>
        first
          | exact absurd rfl h
          | (simp only [onObject, true_and]; split_ifs <;> rfl)
    · rw [onObject_of_object?_ne hf, onObject_of_object?_ne hf]
  · rw [onObject_of_object?_ne he, onObject_of_object?_ne he]

/-- What a field makes of a background depends on the scene by the kind of the id alone. -/
theorem onBackground_congr (he : e.field?.isSome = true) {scene other : Scene} {id : Text}
    (hkind : scene.kind? id = other.kind? id) (background : Background) :
    e.onBackground scene id background = e.onBackground other id background := by
  cases e with
  | texture target kind url => simp only [onBackground, hkind]
  | activate target => cases he
  | _ => rfl

/-- Edits of different fields change a background in either order. -/
theorem onBackground_comm (he : e.field?.isSome = true) (hf : f.field?.isSome = true)
    (h : e.field? ≠ f.field?) (scene : Scene) (id : Text) (background : Background) :
    f.onBackground scene id (e.onBackground scene id background) =
      e.onBackground scene id (f.onBackground scene id background) := by
  have hactivate : ∀ g : Edit, g.field?.isSome = true → ∀ target, g ≠ .activate target := by
    rintro g hg target rfl
    cases hg
  by_cases hte : ∃ target kind url, e = .texture target kind url
  · by_cases htf : ∃ target kind url, f = .texture target kind url
    · obtain ⟨target, kind, url, rfl⟩ := hte
      obtain ⟨target', kind', url', rfl⟩ := htf
      -- two textures are of different ids, so one of them is not of this one
      have hne : target ≠ target' := by
        rintro rfl
        exact h rfl
      by_cases ht : target = id
      · have ht' : target' ≠ id := fun heq => hne (ht.trans heq.symm)
        simp [onBackground, ht']
      · simp [onBackground, ht]
    · have hsame : ∀ b, f.onBackground scene id b = b :=
        onBackground_of_ne (fun t k u hfe => htf ⟨t, k, u, hfe⟩) (hactivate f hf)
      rw [hsame, hsame]
  · have hsame : ∀ b, e.onBackground scene id b = b :=
      onBackground_of_ne (fun t k u hee => hte ⟨t, k, u, hee⟩) (hactivate e he)
    rw [hsame, hsame]

end Comm
end Edit

namespace Scene
variable {style : NumberStyle} {scene other : Scene} {e f : Edit}

/-- Scenes with the same planet and the same tables are equal. -/
theorem eq_of_tables (hvalid : scene.valid = other.valid)
    (hthumbnail : scene.thumbnail = other.thumbnail) (hspawn : scene.spawn = other.spawn)
    (hobjectKeys : scene.objects.keys = other.objects.keys)
    (hobjects : ∀ id, scene.objects.get? id = other.objects.get? id)
    (hbackgroundKeys : scene.backgrounds.keys = other.backgrounds.keys)
    (hbackgrounds : ∀ id, scene.backgrounds.get? id = other.backgrounds.get? id) :
    scene = other := by
  have ho : scene.objects = other.objects :=
    Registry.eq_of_keys_of_get? hobjectKeys fun id _ => hobjects id
  have hb : scene.backgrounds = other.backgrounds :=
    Registry.eq_of_keys_of_get? hbackgroundKeys fun id _ => hbackgrounds id
  cases scene
  cases other
  simp_all

theorem thumbnail_edited_eq (scene : Scene) (e : Edit) :
    (scene.edited style e).thumbnail = e.onThumbnail scene.thumbnail := by
  by_cases h : ∃ url, e = .thumbnail url
  · obtain ⟨url, rfl⟩ := h
    rfl
  · rw [thumbnail_edited style scene fun url he => h ⟨url, he⟩]
    cases e with
    | thumbnail url => exact absurd ⟨url, rfl⟩ h
    | _ => rfl

theorem spawn_edited_eq (scene : Scene) (e : Edit) :
    (scene.edited style e).spawn = e.onSpawn style scene.spawn := by
  by_cases h : ∃ x y, e = .spawn x y
  · obtain ⟨x, y, rfl⟩ := h
    rfl
  · rw [spawn_edited style scene fun x y he => h ⟨x, y, he⟩]
    cases e with
    | spawn x y => exact absurd ⟨x, y, rfl⟩ h
    | _ => rfl

/-- An edit of a field puts no id into a table. -/
theorem keys_edited_of_field (scene : Scene) (he : e.field?.isSome = true) :
    (scene.edited style e).objects.keys = scene.objects.keys ∧
      (scene.edited style e).backgrounds.keys = scene.backgrounds.keys := by
  have hkeys := e.keys_edited style scene
  cases e <;> first | exact hkeys | cases he

theorem get?_objects_edited_of_field (scene : Scene) (he : e.field?.isSome = true) (id : Text) :
    (scene.edited style e).objects.get? id =
      (scene.objects.get? id).map fun object => e.onObject style id object := by
  have hne : e ≠ .declareObject id := by
    rintro rfl
    cases he
  rw [get?_objects_edited, if_neg hne]

theorem get?_backgrounds_edited_of_field (scene : Scene) (he : e.field?.isSome = true)
    (id : Text) : (scene.edited style e).backgrounds.get? id =
      (scene.backgrounds.get? id).map fun background =>
        e.onBackground scene id background := by
  have hne : e ≠ .declareBackground id := by
    rintro rfl
    cases he
  rw [get?_backgrounds_edited, if_neg hne]

theorem contains_edited_of_field (style : NumberStyle) (scene : Scene)
    (he : e.field?.isSome = true) (id : Text) :
    (scene.edited style e).objects.contains id = scene.objects.contains id ∧
      (scene.edited style e).backgrounds.contains id = scene.backgrounds.contains id := by
  simp only [Registry.contains, get?_objects_edited_of_field scene he,
    get?_backgrounds_edited_of_field scene he, Option.isSome_map, and_self]

/-- An edit of a field leaves every id standing for what it stood for. -/
theorem kind?_edited_of_field (style : NumberStyle) (scene : Scene)
    (he : e.field?.isSome = true) (id : Text) :
    (scene.edited style e).kind? id = scene.kind? id := by
  obtain ⟨hobjects, hbackgrounds⟩ := scene.contains_edited_of_field style he id
  simp only [kind?, hobjects, hbackgrounds]

/-- **Edits of different fields can be made in either order.** -/
theorem edited_comm (he : e.field?.isSome = true) (hf : f.field?.isSome = true)
    (h : e.field? ≠ f.field?) (scene : Scene) :
    (scene.edited style e).edited style f = (scene.edited style f).edited style e := by
  apply eq_of_tables
  case hvalid =>
    simp only [valid_edited]
    exact Bool.or_right_comm _ _ _
  case hthumbnail => simp only [thumbnail_edited_eq, Edit.onThumbnail_comm h]
  case hspawn => simp only [spawn_edited_eq, Edit.onSpawn_comm h]
  case hobjectKeys =>
    simp only [(keys_edited_of_field _ he).1, (keys_edited_of_field _ hf).1]
  case hbackgroundKeys =>
    simp only [(keys_edited_of_field _ he).2, (keys_edited_of_field _ hf).2]
  case hobjects =>
    intro id
    simp only [get?_objects_edited_of_field _ he, get?_objects_edited_of_field _ hf,
      Option.map_map, Function.comp_def, Edit.onObject_comm h]
  case hbackgrounds =>
    intro id
    -- neither edit changes what the other one reads of the scene
    have hleft := fun b => Edit.onBackground_congr hf
      (scene.kind?_edited_of_field style he id) b
    have hright := fun b => Edit.onBackground_congr he
      (scene.kind?_edited_of_field style hf id) b
    simp only [get?_backgrounds_edited_of_field _ he, get?_backgrounds_edited_of_field _ hf,
      Option.map_map, Function.comp_def, hleft, hright, Edit.onBackground_comm he hf h]

end Scene

/-! ### Folds in another order -/

section Fold
variable {σ α κ : Type} {act : σ → α → σ}

/-- A step that commutes with others can be made before them. -/
theorem foldl_step_comm {xs : List α} {y : α}
    (h : ∀ x ∈ xs, ∀ s, act (act s x) y = act (act s y) x) (s : σ) :
    act (xs.foldl act s) y = xs.foldl act (act s y) := by
  induction xs generalizing s with
  | nil => rfl
  | cons x xs ih =>
    rw [List.forall_mem_cons] at h
    rw [List.foldl_cons, List.foldl_cons, ih h.2, h.1]

/-- Steps that commute with others can be made before them. -/
theorem foldl_foldl_comm {xs ys : List α}
    (h : ∀ x ∈ xs, ∀ y ∈ ys, ∀ s, act (act s x) y = act (act s y) x) (s : σ) :
    ys.foldl act (xs.foldl act s) = xs.foldl act (ys.foldl act s) := by
  induction ys generalizing s with
  | nil => rfl
  | cons y ys ih =>
    have hy : ∀ x ∈ xs, ∀ s, act (act s x) y = act (act s y) x :=
      fun x hx => h x hx y List.mem_cons_self
    rw [List.foldl_cons, foldl_step_comm hy, List.foldl_cons]
    exact ih (fun x hx other hother => h x hx other (List.mem_cons_of_mem y hother)) (act s y)

/-- **Where steps of different keys commute and steps without a key do nothing, a fold depends on
the steps of each key alone.** -/
theorem foldl_eq_of_filter_eq [DecidableEq κ] (key? : α → Option κ)
    (hskip : ∀ s a, key? a = none → act s a = s)
    (hcomm : ∀ a b, key? a ≠ key? b → ∀ s, act (act s a) b = act (act s b) a) {xs ys : List α}
    (h : ∀ k, (xs.filter fun a => key? a = some k) = ys.filter fun a => key? a = some k) (s : σ) :
    xs.foldl act s = ys.foldl act s := by
  induction xs generalizing ys s with
  | nil =>
    -- no step of the other list has a key
    have hnone : ∀ y ∈ ys, key? y = none := by
      intro y hy
      cases hk : key? y with
      | none => rfl
      | some k =>
        have hmem : y ∈ ys.filter fun a => key? a = some k :=
          List.mem_filter.mpr ⟨hy, decide_eq_true hk⟩
        rw [← h k] at hmem
        cases hmem
    clear h
    induction ys with
    | nil => rfl
    | cons y ys ih =>
      rw [List.forall_mem_cons] at hnone
      rw [List.foldl_cons, hskip s y hnone.1]
      exact ih hnone.2
  | cons x xs ih =>
    cases hk : key? x with
    | none =>
      have hne : ∀ k, ¬ key? x = some k := fun k hsome => nomatch hk.symm.trans hsome
      rw [List.foldl_cons, hskip s x hk]
      refine ih (fun k => ?_) s
      rw [← h k, List.filter_cons, if_neg (by simpa using hne k)]
    | some k =>
      -- the first step with this key can be taken to the front of the other list
      have hfirst : (ys.filter fun a => key? a = some k) =
          x :: xs.filter fun a => key? a = some k := by
        rw [← h k, List.filter_cons, if_pos (decide_eq_true hk)]
      obtain ⟨front, back, rfl, hfront, -, hback⟩ := List.filter_eq_cons_iff.mp hfirst
      have hne : ∀ a ∈ front, key? a ≠ key? x := by
        intro a ha heq
        exact hfront a ha (decide_eq_true (heq.trans hk))
      have hmoved : (front ++ x :: back).foldl act s = (front ++ back).foldl act (act s x) := by
        rw [List.foldl_append, List.foldl_cons,
          foldl_step_comm fun a ha => hcomm a x (hne a ha), List.foldl_append]
      rw [List.foldl_cons, hmoved]
      refine ih (fun other => ?_) (act s x)
      by_cases hother : other = k
      · rw [hother, List.filter_append, List.filter_eq_nil_iff.mpr hfront, List.nil_append, hback]
      · have hx : ¬ decide (key? x = some other) = true := by
          rw [hk]
          simpa using Ne.symm hother
        have hall := h other
        rw [List.filter_cons, if_neg hx, List.filter_append, List.filter_cons, if_neg hx,
          ← List.filter_append] at hall
        exact hall

end Fold

/-! ### Segments of different fields -/

/-- An edit of content or a removal gives the field of the open block, of the id that counts in
it. -/
theorem Focus.field?_of_edit? {focus : Focus} {line : Text} {e : Edit} {block : Block}
    (hd : Directive.ofLine line = .content ∨ Directive.ofLine line = .remove)
    (hblock : focus.block = some block) (he : focus.edit? line = some e) :
    e.field? = some (block, if block.takesId = true then focus.id else none) ∧
      (block.takesId = true → focus.id.isSome = true) := by
  have hmakes := edit?_eq_some_iff.mp he
  cases e with
  | validate | declareBackground | declareObject | activate =>
    rcases hd with hd | hd <;> exact absurd (hd.symm.trans hmakes) nofun
  | thumbnail | spawn =>
    obtain rfl := Option.some.inj (hblock.symm.trans hmakes.2.1)
    exact ⟨rfl, nofun⟩
  | texture | position | size | gravity =>
    obtain ⟨-, hb, hid, -⟩ := hmakes
    obtain rfl := Option.some.inj (hblock.symm.trans hb)
    rw [hid]
    exact ⟨rfl, fun _ => rfl⟩
  | removeByClick =>
    obtain ⟨-, hb, hid⟩ := hmakes
    obtain rfl := Option.some.inj (hblock.symm.trans hb)
    rw [hid]
    exact ⟨rfl, fun _ => rfl⟩

namespace Segment
variable {scope : BlockScope} {style : NumberStyle} {a b : Segment}

/-- Whether two segments are of different blocks, or of one block without having the same id in
it.  A segment that names no id has none in common with any other. -/
def Apart (a b : Segment) : Prop :=
  a.block ≠ b.block ∨ (a.block.takesId = true ∧ ∀ id, a.id = some id → b.id ≠ some id)

/-- The field that a segment gives; none if its block takes an id and the segment names none. -/
def field? (a : Segment) : Option (Block × Option Text) :=
  if a.block.takesId = true then a.id.map fun id => (a.block, some id) else some (a.block, none)

theorem field?_eq_some_iff {field : Block × Option Text} :
    a.field? = some field ↔ a.block = field.1 ∧
      field.2 = (if a.block.takesId = true then a.id else none) ∧
      (a.block.takesId = true → field.2.isSome = true) := by
  obtain ⟨block, id⟩ := field
  unfold field?
  by_cases htakes : a.block.takesId = true
  · cases a.id <;> cases id <;> simp [htakes, eq_comm]
  · cases id <;> simp [htakes]

/-- The edits of a segment are of the segment's field. -/
theorem field?_of_mem_edits {e : Edit} (he : e ∈ a.edits scope) :
    e.field? = a.field? ∧ e.field?.isSome = true := by
  obtain ⟨line, hline, hedit⟩ := exists_field_of_mem_edits he
  obtain ⟨hfield, hsome⟩ := Focus.field?_of_edit? (a.speak line hline) rfl hedit
  refine ⟨?_, by rw [hfield]; rfl⟩
  rw [hfield, eq_comm, field?_eq_some_iff]
  refine ⟨rfl, rfl, fun htakes => ?_⟩
  rw [if_pos htakes]
  exact hsome htakes

/-- A segment without a field makes no edits. -/
theorem edits_eq_nil_of_field? (h : a.field? = none) : a.edits scope = [] := by
  refine List.eq_nil_iff_forall_not_mem.mpr fun e he => ?_
  obtain ⟨hfield, hsome⟩ := field?_of_mem_edits he
  rw [hfield, h] at hsome
  cases hsome

/-- Segments that are apart have no field in common. -/
theorem Apart.field?_ne (h : a.Apart b) {field : Block × Option Text}
    (ha : a.field? = some field) : b.field? ≠ some field := by
  intro hb
  obtain ⟨hblock, hid, hsome⟩ := field?_eq_some_iff.mp ha
  obtain ⟨hblock', hid', -⟩ := field?_eq_some_iff.mp hb
  rcases h with hne | ⟨htakes, hne⟩
  · exact hne (hblock.trans hblock'.symm)
  · obtain ⟨id, hfield⟩ := Option.isSome_iff_exists.mp (hsome htakes)
    rw [hfield, if_pos htakes] at hid
    rw [hfield, if_pos ((congrArg Block.takesId (hblock'.trans hblock.symm)).trans htakes)] at hid'
    exact hne id hid.symm hid'.symm

/-- The scene after the edits of a segment. -/
def edited (scope : BlockScope) (style : NumberStyle) (scene : Scene) (a : Segment) : Scene :=
  (a.edits scope).foldl (Scene.edited style) scene

/-- **Segments without a field in common can be read in either order.** -/
theorem edited_comm (h : ∀ field, a.field? = some field → b.field? ≠ some field) (scene : Scene) :
    edited scope style (edited scope style scene a) b =
      edited scope style (edited scope style scene b) a := by
  refine foldl_foldl_comm (fun e he f hf scene => ?_) scene
  obtain ⟨hea, hesome⟩ := field?_of_mem_edits he
  obtain ⟨hfb, hfsome⟩ := field?_of_mem_edits hf
  refine Scene.edited_comm hesome hfsome (fun heq => ?_) scene
  obtain ⟨field, hfield⟩ := Option.isSome_iff_exists.mp hesome
  exact h field (hea.symm.trans hfield) (hfb.symm.trans (heq.symm.trans hfield))

/-- **Segments make the scene that the segments of each field make, in their order.** -/
theorem foldl_edited_eq {segments others : List Segment}
    (h : ∀ field, (segments.filter fun a => a.field? = some field) =
      others.filter fun a => a.field? = some field) (scene : Scene) :
    segments.foldl (edited scope style) scene = others.foldl (edited scope style) scene := by
  refine foldl_eq_of_filter_eq field? (fun scene a hnone => ?_) (fun a b hne => ?_) h
    scene
  · rw [edited, edits_eq_nil_of_field? hnone, List.foldl_nil]
  · exact edited_comm fun field ha hb => hne (ha.trans hb.symm)

end Segment

namespace Session

/-- The scene of lines with segments behind them. -/
theorem scene_read_segments (s : Session) {script : Text} {header : List Text}
    {segments : List Segment}
    (h : contentLines script = header ++ segments.flatMap Segment.lines) :
    (s.read script).scene =
      segments.foldl (Segment.edited s.settings.blockScope s.settings.numberStyle)
        ((edits s.settings.blockScope header).foldl (Scene.edited s.settings.numberStyle) {}) := by
  rw [scene_read, Scene.ofScript, Reading.scene_run, h, Focus.edits_split, Focus.edits_segments,
    List.foldl_append, List.foldl_flatMap]
  rfl

/-- **Segments of different fields can change places.**  Whatever stands in front of all
segments: two neighbours that are of different blocks, or of different ids in one block, can be
swapped, and the scene and its snapshot stay what they were.  So the scene depends on the segments
of each field, in their order, and on nothing else of how segments are mixed. -/
theorem segments_commute (s : Session) (header : List Text) :
    (∀ (before : List Segment) (a b : Segment) (behind : List Segment) (script swapped : Text),
      a.Apart b →
      contentLines script = header ++ (before ++ a :: b :: behind).flatMap Segment.lines →
      contentLines swapped = header ++ (before ++ b :: a :: behind).flatMap Segment.lines →
      (s.read script).scene = (s.read swapped).scene ∧
        (s.read script).scene.snapshot = (s.read swapped).scene.snapshot) ∧
      ∀ (segments others : List Segment) (script mixed : Text),
        (∀ field, (segments.filter fun a => a.field? = some field) =
          others.filter fun a => a.field? = some field) →
        contentLines script = header ++ segments.flatMap Segment.lines →
        contentLines mixed = header ++ others.flatMap Segment.lines →
        (s.read script).scene = (s.read mixed).scene := by
  constructor
  · intro before a b behind script swapped hapart hscript hswapped
    have hscene : (s.read script).scene = (s.read swapped).scene := by
      rw [s.scene_read_segments hscript, s.scene_read_segments hswapped]
      simp only [List.foldl_append, List.foldl_cons]
      rw [Segment.edited_comm fun field ha => hapart.field?_ne ha]
    exact ⟨hscene, congrArg Scene.snapshot hscene⟩
  · intro segments others script mixed hfields hscript hmixed
    rw [s.scene_read_segments hscript, s.scene_read_segments hmixed,
      Segment.foldl_edited_eq hfields]

/-- The sizes of two objects, in either order. -/
theorem segments_commute_sizes :
    let header := ["new Object:a;".toList, "new Object:b;".toList]
    let a : Segment := ⟨"setSizeOf with id \"a\"".toList, .size, by decide, ["small".toList],
      by decide⟩
    let b : Segment := ⟨"setSizeOf with id \"b\"".toList, .size, by decide, ["huge".toList],
      by decide⟩
    let script := ['\n'].intercalate (header ++ [a, b].flatMap Segment.lines)
    let swapped := ['\n'].intercalate (header ++ [b, a].flatMap Segment.lines)
    a.Apart b ∧ contentLines script = header ++ [a, b].flatMap Segment.lines ∧
      contentLines swapped = header ++ [b, a].flatMap Segment.lines ∧
      (∀ field, ([a, b].filter fun c => c.field? = some field) =
        [b, a].filter fun c => c.field? = some field) ∧
      (read {} script).scene.snapshot = (read {} swapped).scene.snapshot ∧
      (read {} script).scene = (read {} swapped).scene := by
  intro header a b script swapped
  have hapart : a.Apart b := by
    refine Or.inr ⟨rfl, fun id hid hid' => ?_⟩
    have hne : a.id ≠ b.id := by decide
    exact hne (hid.trans hid'.symm)
  have hscript : contentLines script = header ++ [a, b].flatMap Segment.lines := by decide
  have hswapped : contentLines swapped = header ++ [b, a].flatMap Segment.lines := by decide
  have hfields : ∀ field, ([a, b].filter fun c => c.field? = some field) =
      [b, a].filter fun c => c.field? = some field := by
    intro field
    -- no field is that of both
    by_cases ha : a.field? = some field
    · simp [ha, hapart.field?_ne ha]
    · simp [List.filter_cons, ha]
  exact ⟨hapart, hscript, hswapped, hfields,
    ((segments_commute {} header).1 [] a b [] script swapped hapart hscript hswapped).2,
    (segments_commute {} header).2 [a, b] [b, a] script swapped hfields hscript hswapped⟩

end Session
end PlanetScript
