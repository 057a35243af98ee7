import Mathlib.Logic.Function.Basic
import PlanetScript.Proofs.Script.Forms
import PlanetScript.Proofs.Session.Following
import PlanetScript.Scene.Document

/-! # The order of declarations

The tables of a scene are written in few ways: an object or a background is put in, one entry
or all of them are changed, or everything is dropped.  Whatever is written, a table lists the
ids that were put into it since it was last dropped, each once and in the order in which they
first came, and a snapshot shows each of them with its value (`SceneTables.lists_written`).
This is said of tables that keep their values and their order apart (`Indexed`), where each
write has to keep the two in step; a registry is such a table (`Registry.indexed`).

An edit is such writes, and it puts in what its line declares (`Edit.writes`).  So the ids of
a scene are those that the script declares, in the order of their first declaration
(`Session.declarations`).
-/
namespace PlanetScript
open Text

/-! ### Tables with an order -/

/-- A table in two parts: what each id stands for, and the ids in the order in which they
first came. -/
structure Indexed (α : Type) where
  value? : Text → Option α
  order : List Text

namespace Indexed
variable {α : Type}

/-- The table without entries. -/
def empty : Indexed α := ⟨fun _ => none, []⟩

/-- The order with an id behind it, unless the id has a value. -/
def orderWith (t : Indexed α) (id : Text) : List Text :=
  if (t.value? id).isSome then t.order else t.order ++ [id]

/-- Writes a value at an id. -/
def put (t : Indexed α) (id : Text) (value : α) : Indexed α :=
  ⟨Function.update t.value? id (some value), t.orderWith id⟩

/-- Writes a value at an id that has none. -/
def putIfNew (t : Indexed α) (id : Text) (value : α) : Indexed α :=
  ⟨Function.update t.value? id (some ((t.value? id).getD value)), t.orderWith id⟩

/-- Changes the value of an id in place. -/
def edit (t : Indexed α) (id : Text) (f : α → α) : Indexed α :=
  { t with value? := Function.update t.value? id ((t.value? id).map f) }

/-- Changes every value in place. -/
def editAll (t : Indexed α) (f : α → α) : Indexed α :=
  { t with value? := fun id => (t.value? id).map f }

/-- What a snapshot lists: the ids in their order, with the value that each has. -/
def listing (t : Indexed α) : List (Text × α) :=
  t.order.filterMap fun id => (t.value? id).map (id, ·)

/-- A table in a document: the pairs that it lists. -/
def json (t : Indexed α) (f : α → Json) : Json :=
  .array (t.listing.map fun entry => .array [.string entry.1, f entry.2])

/-- A table lists ids: its order holds each of them once, as they first came, and just those
that have a value; and a snapshot shows every one of them with its value. -/
structure Lists (t : Indexed α) (ids : List Text) : Prop where
  order : t.order = ids.eraseDups
  nodup : t.order.Nodup
  mem_order : ∀ id, id ∈ t.order ↔ (t.value? id).isSome = true
  listed : t.listing.map Prod.fst = t.order
  mem_listing : ∀ id value, (id, value) ∈ t.listing ↔ t.value? id = some value

end Indexed

/-- The distinct ids after one more: a known one is not listed again. -/
theorem eraseDups_concat (ids : List Text) (id : Text) :
    (ids ++ [id]).eraseDups = if id ∈ ids then ids.eraseDups else ids.eraseDups ++ [id] := by
  rw [List.eraseDups_append]
  by_cases h : id ∈ ids <;> simp [List.removeAll, List.eraseDups_cons, h]

namespace Registry
variable {α : Type} {r s : Registry α} {ids : List Text}

/-- The values and the order of a registry. -/
def indexed (r : Registry α) : Indexed α := ⟨r.get?, r.keys⟩

/-- A snapshot lists every entry once and drops none. -/
theorem listing_indexed (r : Registry α) : r.indexed.listing = r.entries := by
  rw [Indexed.listing, indexed, keys, List.filterMap_map]
  refine (List.filterMap_congr fun entry hentry => ?_).trans List.filterMap_some
  have hget : r.get? entry.1 = some entry.2 := get?_eq_some_iff.mpr hentry
  simp only [Function.comp_apply, hget, Option.map_some]

theorem json_indexed (r : Registry α) (f : α → Json) : r.json f = r.indexed.json f := by
  rw [Indexed.json, listing_indexed]
  rfl

/-- Registries with the same keys in the same order and the same values are equal. -/
theorem eq_of_keys_of_get? (hkeys : r.keys = s.keys)
    (hget : ∀ key ∈ r.keys, r.get? key = s.get? key) : r = s := by
  have hentries : r.entries = s.entries := by
    rw [← r.listing_indexed, ← s.listing_indexed, Indexed.listing, Indexed.listing]
    show r.keys.filterMap _ = s.keys.filterMap _
    rw [← hkeys]
    refine List.filterMap_congr fun key hkey => ?_
    show (r.get? key).map _ = (s.get? key).map _
    rw [hget key hkey]
  obtain ⟨entries, nodup⟩ := r
  cases hentries
  rfl

theorem lists_indexed (h : r.keys = ids.eraseDups) : r.indexed.Lists ids where
  order := h
  nodup := r.nodup
  mem_order _ := mem_keys_iff
  listed := by rw [listing_indexed]; rfl
  mem_listing _ _ := by rw [listing_indexed]; exact get?_eq_some_iff.symm

/-- The keys after an id was put in, if one was: a new one comes behind all others. -/
def keysWith (r : Registry α) : Option Text → List Text
  | none => r.keys
  | some id => if r.contains id then r.keys else r.keys ++ [id]

theorem keysWith_insert (r : Registry α) (id : Text) (value : α) :
    (r.insert id value).keys = r.keysWith (some id) :=
  (keys_insert r id value).trans (if_congr mem_keys_iff rfl rfl)

theorem keysWith_insertIfNew (r : Registry α) (id : Text) (value : α) :
    (r.insertIfNew id value).keys = r.keysWith (some id) :=
  (keys_insertIfNew r id value).trans (if_congr mem_keys_iff rfl rfl)

/-- With an id put in, the keys are the distinct ids with this one as well. -/
theorem keysWith_eq (h : r.keys = ids.eraseDups) (id : Option Text) :
    r.keysWith id = (ids ++ id.toList).eraseDups := by
  cases id with
  | none => rw [keysWith, h, Option.toList_none, List.append_nil]
  | some id =>
    simp only [keysWith, ← mem_keys_iff, h, List.mem_eraseDups, Option.toList_some,
      eraseDups_concat]

theorem orderWith_indexed (r : Registry α) (id : Text) :
    r.indexed.orderWith id = r.keysWith (some id) := rfl

/-! What is written to a registry is written to both of its parts. -/

theorem indexed_insert (r : Registry α) (id : Text) (value : α) :
    (r.insert id value).indexed = r.indexed.put id value := by
  have hvalues : (r.insert id value).get? = Function.update r.get? id (some value) := by
    funext k
    rw [get?_insert, Function.update_apply]
  rw [Indexed.put, orderWith_indexed, indexed, hvalues, keysWith_insert]
  rfl

theorem indexed_insertIfNew (r : Registry α) (id : Text) (value : α) :
    (r.insertIfNew id value).indexed = r.indexed.putIfNew id value := by
  have hvalues : (r.insertIfNew id value).get? =
      Function.update r.get? id (some ((r.get? id).getD value)) := by
    funext k
    rw [get?_insertIfNew, Function.update_apply]
  rw [Indexed.putIfNew, orderWith_indexed, indexed, hvalues, keysWith_insertIfNew]
  rfl

theorem indexed_modify (r : Registry α) (id : Text) (f : α → α) :
    (r.modify id f).indexed = r.indexed.edit id f := by
  have hvalues : (r.modify id f).get? = Function.update r.get? id ((r.get? id).map f) := by
    funext k
    rw [get?_modify, Function.update_apply]
    split
    · next hk => rw [hk]
    · rfl
  rw [Indexed.edit, indexed, hvalues, keys_modify]
  rfl

theorem indexed_mapValues (r : Registry α) (f : α → α) :
    (r.mapValues f).indexed = r.indexed.editAll f := by
  have hvalues : (r.mapValues f).get? = fun id => (r.get? id).map f := by
    funext k
    exact get?_mapValues r f k
  rw [Indexed.editAll, indexed, hvalues, keys_mapValues]
  rfl

end Registry

/-! ### Writing the tables of a scene -/

/-- One way in which a scene is written. -/
inductive SceneWrite where
  /-- The planet itself, which has no table. -/
  | planet (valid : Bool) (thumbnail : Text) (spawn : Point)
  | putBackground (id : Text) (background : Background)
  | declareObject (id : Text)
  | changeBackground (id : Text) (f : Background → Background)
  | changeBackgrounds (f : Background → Background)
  | changeObject (id : Text) (f : Object → Object)
  /-- Everything is dropped. -/
  | reset

namespace SceneWrite

/-- The id that is put into the table of objects. -/
def object? : SceneWrite → Option Text
  | .declareObject id => some id
  | _ => none

/-- The id that is put into the table of backgrounds. -/
def background? : SceneWrite → Option Text
  | .putBackground id _ => some id
  | _ => none

/-- Whether everything is dropped. -/
def isReset : SceneWrite → Bool
  | .reset => true
  | _ => false

/-- The writes after the last reset. -/
def sinceReset (writes : List SceneWrite) : List SceneWrite :=
  writes.rtakeWhile fun write => !write.isReset

/-- The ids that were put into a table since the last reset. -/
def putIn (id? : SceneWrite → Option Text) (writes : List SceneWrite) : List Text :=
  (sinceReset writes).filterMap id?

theorem putIn_concat (id? : SceneWrite → Option Text) (writes : List SceneWrite) {w : SceneWrite}
    (h : w.isReset = false) : putIn id? (writes ++ [w]) = putIn id? writes ++ (id? w).toList := by
  rw [putIn, sinceReset, List.rtakeWhile_concat, h, Bool.not_false, if_pos rfl,
    List.filterMap_append, List.filterMap_cons]
  cases id? w <;> rfl

theorem putIn_concat_of_isReset (id? : SceneWrite → Option Text) (writes : List SceneWrite)
    {w : SceneWrite} (h : w.isReset = true) : putIn id? (writes ++ [w]) = [] := by
  rw [putIn, sinceReset, List.rtakeWhile_concat, h]
  rfl

end SceneWrite

namespace Scene
variable (scene : Scene)

/-- The scene after a write. -/
def write : SceneWrite → Scene
  | .planet valid thumbnail spawn => { scene with valid, thumbnail, spawn }
  | .putBackground id background => scene.putBackground id background
  | .declareObject id => scene.declareObject id
  | .changeBackground id f => scene.modifyBackground id f
  | .changeBackgrounds f => { scene with backgrounds := scene.backgrounds.mapValues f }
  | .changeObject id f => scene.modifyObject id f
  | .reset => {}

/-- The scene that writes make of the empty one. -/
def written (writes : List SceneWrite) : Scene := writes.foldl write {}

theorem written_concat (writes : List SceneWrite) (w : SceneWrite) :
    written (writes ++ [w]) = (written writes).write w := List.foldl_concat ..

/-- **What one write does to the order of the tables**: it puts at most one id in. -/
theorem keys_write {w : SceneWrite} (h : w.isReset = false) :
    (scene.write w).objects.keys = scene.objects.keysWith w.object? ∧
      (scene.write w).backgrounds.keys = scene.backgrounds.keysWith w.background? := by
  cases w with
  | putBackground id background => exact ⟨rfl, Registry.keysWith_insert _ id background⟩
  | declareObject id => exact ⟨Registry.keysWith_insertIfNew scene.objects id {}, rfl⟩
  | changeBackground id f => exact ⟨rfl, Registry.keys_modify _ id f⟩
  | changeBackgrounds f => exact ⟨rfl, Registry.keys_mapValues _ f⟩
  | changeObject id f => exact ⟨Registry.keys_modify _ id f, rfl⟩
  | planet valid thumbnail spawn => exact ⟨rfl, rfl⟩
  | reset => cases h

theorem write_of_isReset {w : SceneWrite} (h : w.isReset = true) : scene.write w = {} := by
  cases w with
  | reset => rfl
  | _ => cases h

/-- The keys of the tables are the distinct ids that were put in since the last reset. -/
theorem keys_written (writes : List SceneWrite) :
    (written writes).objects.keys = (SceneWrite.putIn SceneWrite.object? writes).eraseDups ∧
      (written writes).backgrounds.keys =
        (SceneWrite.putIn SceneWrite.background? writes).eraseDups := by
  induction writes using List.reverseRecOn with
  | nil => exact ⟨rfl, rfl⟩
  | append_singleton writes w ih =>
    rw [written_concat]
    cases hw : w.isReset with
    | true =>
      rw [write_of_isReset _ hw, SceneWrite.putIn_concat_of_isReset _ _ hw,
        SceneWrite.putIn_concat_of_isReset _ _ hw]
      exact ⟨rfl, rfl⟩
    | false =>
      obtain ⟨hobjects, hbackgrounds⟩ := (written writes).keys_write hw
      rw [hobjects, hbackgrounds, SceneWrite.putIn_concat _ _ hw, SceneWrite.putIn_concat _ _ hw]
      exact ⟨Registry.keysWith_eq ih.1 _, Registry.keysWith_eq ih.2 _⟩

end Scene

/-- The tables of a scene, each with its values and its order apart. -/
structure SceneTables where
  objects : Indexed Object := .empty
  backgrounds : Indexed Background := .empty

/-- The tables of a scene. -/
def Scene.tables (scene : Scene) : SceneTables :=
  ⟨scene.objects.indexed, scene.backgrounds.indexed⟩

namespace SceneTables

/-- The tables after a write. -/
def write (tables : SceneTables) : SceneWrite → SceneTables
  | .planet _ _ _ => tables
  | .putBackground id background =>
    { tables with backgrounds := tables.backgrounds.put id background }
  | .declareObject id => { tables with objects := tables.objects.putIfNew id {} }
  | .changeBackground id f => { tables with backgrounds := tables.backgrounds.edit id f }
  | .changeBackgrounds f => { tables with backgrounds := tables.backgrounds.editAll f }
  | .changeObject id f => { tables with objects := tables.objects.edit id f }
  | .reset => {}

/-- The tables that writes make of empty ones. -/
def written (writes : List SceneWrite) : SceneTables := writes.foldl write {}

/-- The tables list what was put into them since the last reset. -/
structure ListsPut (tables : SceneTables) (writes : List SceneWrite) : Prop where
  objects : tables.objects.Lists (SceneWrite.putIn SceneWrite.object? writes)
  backgrounds : tables.backgrounds.Lists (SceneWrite.putIn SceneWrite.background? writes)

/-- **A write does the same to a scene and to its tables.** -/
theorem tables_write (scene : Scene) (w : SceneWrite) :
    (scene.write w).tables = scene.tables.write w := by
  cases w with
  | putBackground id background =>
    simp only [Scene.write, Scene.putBackground, Scene.tables, write, Registry.indexed_insert]
  | declareObject id =>
    simp only [Scene.write, Scene.declareObject, Scene.tables, write,
      Registry.indexed_insertIfNew]
  | changeBackground id f =>
    simp only [Scene.write, Scene.modifyBackground, Scene.tables, write, Registry.indexed_modify]
  | changeBackgrounds f =>
    simp only [Scene.write, Scene.tables, write, Registry.indexed_mapValues]
  | changeObject id f =>
    simp only [Scene.write, Scene.modifyObject, Scene.tables, write, Registry.indexed_modify]
  | planet valid thumbnail spawn => rfl
  | reset => rfl

theorem tables_written (writes : List SceneWrite) :
    (Scene.written writes).tables = written writes := by
  induction writes using List.reverseRecOn with
  | nil => rfl
  | append_singleton writes w ih =>
    rw [Scene.written_concat, tables_write, ih, written, written, List.foldl_concat]

/-- **The tables of a scene list what was put into them since the last reset.** -/
theorem lists_written (writes : List SceneWrite) : (written writes).ListsPut writes := by
  rw [← tables_written]
  obtain ⟨hobjects, hbackgrounds⟩ := Scene.keys_written writes
  exact ⟨Registry.lists_indexed hobjects, Registry.lists_indexed hbackgrounds⟩

end SceneTables

/-! ### The writes of an edit -/

namespace Edit

/-- The object that an edit declares. -/
def newObject? : Edit → Option Text
  | .declareObject id => some id
  | _ => none

/-- The background that an edit declares. -/
def newBackground? : Edit → Option Text
  | .declareBackground id => some id
  | _ => none

/-- The writes that an edit of a scene comes to. -/
def writes (style : NumberStyle) (scene : Scene) : Edit → List SceneWrite
  | .validate => [.planet true scene.thumbnail scene.spawn]
  | .thumbnail url => [.planet scene.valid url scene.spawn]
  | .spawn x y => [.planet scene.valid scene.thumbnail (scene.spawn.update style x y)]
  | .declareBackground id => [.putBackground id {}]
  | .declareObject id => [.declareObject id]
  | .activate id =>
    if scene.backgrounds.contains id then
      [.changeBackgrounds fun background => { background with active := false },
        .changeBackground id fun background => { background with active := true }]
    else []
  | .texture id kind url =>
    match kind.or (scene.kind? id) with
    | some .object => [.changeObject id fun object => { object with texture := url }]
    | some .background =>
      [.changeBackground id fun background => { background with texture := url }]
    | none => []
  | .position id x y => [.changeObject id fun object =>
      { object with position := object.position.update style x y }]
  | .size id word => [.changeObject id fun object => { object with size := word }]
  | .gravity id raw => [.changeObject id fun object => { object with gravity := .read raw }]
  | .removeByClick id => [.changeObject id fun object => { object with removedByClick := true }]

variable (style : NumberStyle) (scene : Scene) (e : Edit)

/-- The writes of an edit make the edit. -/
theorem foldl_writes : (e.writes style scene).foldl Scene.write scene = scene.edited style e := by
  cases e with
  | activate id =>
    simp only [writes, Scene.edited]
    split <;> rfl
  | texture id kind url =>
    simp only [writes, Scene.edited, Scene.storeTexture?]
    cases kind.or (scene.kind? id) with
    | none => rfl
    | some taker =>
      -- what is not there does not change, whether it is looked for or not
      cases taker with
      | object =>
        cases hc : scene.objects.contains id with
        | true => rfl
        | false => exact Scene.modifyObject_of_contains_eq_false hc _
      | background =>
        cases hc : scene.backgrounds.contains id with
        | true => rfl
        | false =>
          show { scene with backgrounds := scene.backgrounds.modify id _ } = scene
          rw [Registry.modify_of_contains_eq_false hc]
  | _ => rfl

/-- **What an edit does to the order of the tables**: it puts in what it declares. -/
theorem keys_edited :
    (scene.edited style e).objects.keys = scene.objects.keysWith e.newObject? ∧
      (scene.edited style e).backgrounds.keys = scene.backgrounds.keysWith e.newBackground? := by
  cases e with
  | declareBackground id => exact ⟨rfl, Registry.keysWith_insert scene.backgrounds id {}⟩
  | declareObject id => exact ⟨Registry.keysWith_insertIfNew scene.objects id {}, rfl⟩
  | activate id =>
    simp only [Scene.edited, newObject?, newBackground?, Registry.keysWith]
    split
    · exact ⟨rfl, (Registry.keys_modify _ id _).trans (Registry.keys_mapValues _ _)⟩
    · exact ⟨rfl, rfl⟩
  | texture id kind url =>
    rw [← foldl_writes]
    simp only [writes, newObject?, newBackground?, Registry.keysWith]
    split
    · exact ⟨Registry.keys_modify _ id _, rfl⟩
    · exact ⟨rfl, Registry.keys_modify _ id _⟩
    · exact ⟨rfl, rfl⟩
  | position id | size id | gravity id | removeByClick id =>
    exact ⟨Registry.keys_modify _ id _, rfl⟩
  | _ => exact ⟨rfl, rfl⟩

/-- **Edits put in what they declare**, in the order of the first declaration. -/
theorem keys_foldl_edited (es : List Edit) :
    (es.foldl (Scene.edited style) {}).objects.keys = (es.filterMap newObject?).eraseDups ∧
      (es.foldl (Scene.edited style) {}).backgrounds.keys =
        (es.filterMap newBackground?).eraseDups := by
  have hconcat : ∀ (f : Edit → Option Text) (es : List Edit) (e : Edit),
      (es ++ [e]).filterMap f = es.filterMap f ++ (f e).toList := by
    intro f es e
    rw [List.filterMap_append]
    cases hf : f e <;> simp [hf]
  induction es using List.reverseRecOn with
  | nil => exact ⟨rfl, rfl⟩
  | append_singleton es e ih =>
    obtain ⟨hobjects, hbackgrounds⟩ := e.keys_edited style (es.foldl (Scene.edited style) {})
    rw [List.foldl_concat, hobjects, hbackgrounds, hconcat, hconcat]
    exact ⟨Registry.keysWith_eq ih.1 _, Registry.keysWith_eq ih.2 _⟩

end Edit

/-- The object that a line declares is the one that its edit declares. -/
theorem Focus.newObject?_edit? (focus : Focus) (line : Text) :
    (focus.edit? line).bind Edit.newObject? = Form.newObject.declared? line := by
  refine Option.ext fun id => ?_
  rw [← Directive.ofLine_eq_newObject_iff, Option.bind_eq_some_iff]
  constructor
  · rintro ⟨e, he, hid⟩
    cases e <;> cases hid
    exact edit?_eq_some_iff.mp he
  · exact fun h => ⟨.declareObject id, edit?_eq_some_iff.mpr h, rfl⟩

theorem Focus.newBackground?_edit? (focus : Focus) (line : Text) :
    (focus.edit? line).bind Edit.newBackground? = Form.newBackground.declared? line := by
  refine Option.ext fun id => ?_
  rw [← Directive.ofLine_eq_newBackground_iff, Option.bind_eq_some_iff]
  constructor
  · rintro ⟨e, he, hid⟩
    cases e <;> cases hid
    exact edit?_eq_some_iff.mp he
  · exact fun h => ⟨.declareBackground id, edit?_eq_some_iff.mpr h, rfl⟩

/-- What the edits of lines say can be read off the lines if no edit says it in one focus and
not in another. -/
theorem filterMap_edits {f : Edit → Option Text} {g : Text → Option Text}
    (h : ∀ (focus : Focus) (line : Text), (focus.edit? line).bind f = g line)
    (scope : BlockScope) (lines : List Text) :
    (edits scope lines).filterMap f = lines.filterMap g := by
  induction lines using List.reverseRecOn with
  | nil => rfl
  | append_singleton lines line ih =>
    rw [edits_concat, List.filterMap_append, List.filterMap_append, ih, List.filterMap_cons,
      ← h (focusAt scope lines) line]
    cases (focusAt scope lines).edit? line with
    | none => rfl
    | some e => cases hf : f e <;> simp [hf]

/-! ### The writes of a script -/

namespace Reading
variable (settings : Settings) (r : Reading) (line : Text)

/-- **What a line does to the order of the tables**: it puts in what it declares, and a line
that declares nothing puts nothing in. -/
theorem keys_step :
    (r.step settings line).1.scene.objects.keys =
        r.scene.objects.keysWith (Form.newObject.declared? line) ∧
      (r.step settings line).1.scene.backgrounds.keys =
        r.scene.backgrounds.keysWith (Form.newBackground.declared? line) := by
  rw [← r.focus.newObject?_edit?, ← r.focus.newBackground?_edit?]
  cases he : r.focus.edit? line with
  | none =>
    obtain ⟨effect, hstep, -⟩ := step_of_edit?_eq_none settings he
    rw [hstep]
    exact ⟨rfl, rfl⟩
  | some e =>
    rw [step_of_edit? settings he]
    exact e.keys_edited settings.numberStyle r.scene

/-- **The ids of a scene are those that its lines declare**, in the order of their first
declaration. -/
theorem keys_run (lines : List Text) :
    (run settings {} lines).scene.objects.keys =
        (lines.filterMap Form.newObject.declared?).eraseDups ∧
      (run settings {} lines).scene.backgrounds.keys =
        (lines.filterMap Form.newBackground.declared?).eraseDups := by
  rw [scene_run, ← filterMap_edits Focus.newObject?_edit? settings.blockScope,
    ← filterMap_edits Focus.newBackground?_edit? settings.blockScope]
  exact Edit.keys_foldl_edited settings.numberStyle _

end Reading

/-- A script writes its scene. -/
theorem Scene.exists_written_ofScript (settings : Settings) (script : Text) :
    ∃ writes, Scene.ofScript settings script = Scene.written writes := by
  rw [Scene.ofScript, Reading.scene_run]
  generalize edits settings.blockScope (contentLines script) = es
  induction es using List.reverseRecOn with
  | nil => exact ⟨[], rfl⟩
  | append_singleton es e ih =>
    obtain ⟨writes, hscene⟩ := ih
    refine ⟨writes ++ e.writes settings.numberStyle (Scene.written writes), ?_⟩
    rw [List.foldl_concat, hscene, ← Edit.foldl_writes settings.numberStyle]
    exact List.foldl_append.symm

namespace Session

/-- **The order of declarations.**  However the tables of a scene are written, they list what
was put into them since the last reset; the scene of every session is written so; and a
snapshot shows what they list.  After a script the tables list what its lines declare, and no
other line puts anything in. -/
theorem declarations :
    (∀ writes : List SceneWrite,
      (Scene.written writes).tables = SceneTables.written writes ∧
        (SceneTables.written writes).ListsPut writes) ∧
    (∀ settings stage source operations,
      ∃ writes, ((fresh settings stage source).run operations).scene = Scene.written writes) ∧
    (∀ scene : Scene,
      scene.objects.json Object.json = scene.tables.objects.json Object.json ∧
        scene.backgrounds.json Background.json = scene.tables.backgrounds.json Background.json) ∧
    (∀ (s : Session) (script : Text),
      let tables := (s.read script).scene.tables
      tables.objects.Lists ((contentLines script).filterMap Form.newObject.declared?) ∧
        tables.backgrounds.Lists
          ((contentLines script).filterMap Form.newBackground.declared?)) ∧
    (∀ (settings : Settings) (r : Reading) (line : Text),
      let after := (r.step settings line).1
      after.scene.objects.keys = r.scene.objects.keysWith (Form.newObject.declared? line) ∧
        after.scene.backgrounds.keys =
          r.scene.backgrounds.keysWith (Form.newBackground.declared? line)) := by
  refine ⟨fun writes => ?written, fun settings stage source operations => ?reached,
    fun scene => ?shown, fun s script => ?declared, fun settings r line => ?step⟩
  case written => exact ⟨SceneTables.tables_written writes, SceneTables.lists_written writes⟩
  case reached =>
    obtain ⟨script, hscript⟩ := exists_scene_run settings stage source operations
    obtain ⟨writes, hwritten⟩ := Scene.exists_written_ofScript settings script
    exact ⟨writes, hscript.trans hwritten⟩
  case shown => exact ⟨Registry.json_indexed .., Registry.json_indexed ..⟩
  case declared =>
    obtain ⟨hobjects, hbackgrounds⟩ := Reading.keys_run s.settings (contentLines script)
    rw [scene_read]
    exact ⟨Registry.lists_indexed hobjects, Registry.lists_indexed hbackgrounds⟩
  case step => exact r.keys_step settings line

end Session
end PlanetScript
