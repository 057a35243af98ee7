import Mathlib.Data.List.Nodup
import PlanetScript.Proofs.Scene.Order
import PlanetScript.Proofs.Script.Statement

/-! # Scenes that can be written

A draft is a scene as someone wants it: whether it is valid, its thumbnail and spawn point, its
backgrounds with at most one of them active, and its objects with all their fields.  What it
holds can be written into a script, and its ids are distinct, or it is no draft.

Its script says each of these things once, with the fields of an object or background behind
its declaration; the declarations can all come first, or each entry can be finished before the
next one (`Layout`).  Either way the script is read as the scene that the draft stands for, in
every setting and by every session (`Session.read_draft`).

The statements about one id are all that its entry depends on, so an entry is what they make of
it (`Statement.get?_objects_filter`, `Statement.get?_backgrounds_filter`), and they are the same
in both layouts (`Draft.filter_body`).
-/
namespace PlanetScript
open Text

/-- A fold over the things that matter to it is the fold over all. -/
theorem foldl_filter_of_eq {α β : Type} {f : β → α → β} {p : α → Bool}
    (h : ∀ b a, p a = false → f b a = b) (l : List α) (b : β) :
    (l.filter p).foldl f b = l.foldl f b := by
  rw [List.foldl_filter]
  congr 1
  funext b a
  split
  · rfl
  · next hp => exact (h b a (Bool.eq_false_iff.mpr hp)).symm

/-- Of what distinct entries say, one entry's part is what is about it. -/
theorem filter_flatMap_of_nodup {α β κ : Type} [DecidableEq κ] {l : List α} {key : α → κ}
    {f : α → List β} {about : β → κ} (hkey : (l.map key).Nodup)
    (habout : ∀ a, ∀ s ∈ f a, about s = key a) {a : α} (ha : a ∈ l) :
    (l.flatMap f).filter (fun s => about s = key a) = f a := by
  have hother : ∀ b, key b ≠ key a → (f b).filter (fun s => about s = key a) = [] := by
    intro b hne
    refine List.filter_eq_nil_iff.mpr fun s hs hsame => hne ?_
    rw [← habout b s hs, of_decide_eq_true hsame]
  have hown : (f a).filter (fun s => about s = key a) = f a :=
    List.filter_eq_self.mpr fun s hs => decide_eq_true (habout a s hs)
  induction l with
  | nil => cases ha
  | cons b l ih =>
    rw [List.map_cons, List.nodup_cons] at hkey
    rw [List.flatMap_cons, List.filter_append]
    rcases List.mem_cons.mp ha with rfl | ha
    · have hrest : (l.flatMap f).filter (fun s => about s = key a) = [] := by
        rw [List.filter_flatMap]
        refine List.flatMap_eq_nil_iff.mpr fun b hb => hother b fun heq => hkey.1 ?_
        rw [← heq]
        exact List.mem_map_of_mem hb
      rw [hown, hrest, List.append_nil]
    · have hne : key b ≠ key a := fun heq => hkey.1 (heq ▸ List.mem_map_of_mem ha)
      rw [hother b hne, ih hkey.2 ha, List.nil_append]

/-- Distinct ids are their own distinct ids. -/
theorem eraseDups_eq_self {ids : List Text} (h : ids.Nodup) : ids.eraseDups = ids := by
  induction ids with
  | nil => rfl
  | cons id ids ih =>
    obtain ⟨hid, hids⟩ := List.nodup_cons.mp h
    have hrest : (ids.filter fun other => !other == id) = ids := by
      refine List.filter_eq_self.mpr fun other hother => ?_
      have hne : other ≠ id := fun heq => hid (heq ▸ hother)
      rw [beq_eq_false_iff_ne.mpr hne, Bool.not_false]
    rw [List.eraseDups_cons, hrest, ih hids]

/-! ### What statements make of one entry -/

namespace Statement
variable (style : NumberStyle) (id : Text)

/-- What a statement is about. -/
inductive Subject where
  | planet
  | object (id : Text)
  | background (id : Text)
  /-- All backgrounds at once. -/
  | switch
deriving DecidableEq

/-- What a statement is about. -/
def subject : Statement → Subject
  | .valid | .thumbnail _ | .spawnX _ | .spawnY _ => .planet
  | .newObject id | .objectX id _ | .objectY id _ | .objectTexture id _ | .size id _
  | .gravity id _ | .removeByClick id => .object id.text
  | .newBackground id | .backgroundTexture id _ => .background id.text
  | .activate _ => .switch

/-- Whether a statement is a declaration. -/
def declares : Statement → Bool
  | .newBackground _ | .newObject _ => true
  | _ => false

/-- Statements that are about something else are about nothing of it. -/
theorem filter_eq_nil {ss : List Statement} {subject : Subject}
    (h : ∀ s ∈ ss, s.subject ≠ subject) : ss.filter (fun s => s.subject = subject) = [] :=
  List.filter_eq_nil_iff.mpr fun s hs hsame => h s hs (of_decide_eq_true hsame)

/-- What a statement makes of the object of an id. -/
def onObject (object? : Option Object) (s : Statement) : Option Object :=
  if s.edit = .declareObject id then some (object?.getD {})
  else object?.map fun object => s.edit.onObject style id object

/-- What a statement that is no switch makes of the background of an id. -/
def onBackground (background? : Option Background) : Statement → Option Background
  | .newBackground target => if target.text = id then some {} else background?
  | .backgroundTexture target url =>
    background?.map fun background =>
      if target.text = id then { background with texture := url.text } else background
  | _ => background?

/-- The scene that statements make of another one. -/
def foldEdited (scene : Scene) (ss : List Statement) : Scene :=
  (ss.map edit).foldl (Scene.edited style) scene

theorem foldEdited_append (scene : Scene) (ss ts : List Statement) :
    foldEdited style scene (ss ++ ts) = foldEdited style (foldEdited style scene ss) ts := by
  rw [foldEdited, List.map_append, List.foldl_append]
  rfl

theorem onObject_of_ne {s : Statement} (h : s.subject ≠ .object id) (object? : Option Object) :
    s.onObject style id object? = object? := by
  cases s with
  | newObject target | objectX target _ | objectY target _ | objectTexture target _
  | size target _ | gravity target _ | removeByClick target =>
    have hne : target.text ≠ id := fun heq => h (congrArg Subject.object heq)
    simp [onObject, edit, Edit.onObject, hne]
  | _ => simp [onObject, edit, Edit.onObject]

theorem onBackground_of_ne {s : Statement} (h : s.subject ≠ .background id)
    (background? : Option Background) : onBackground id background? s = background? := by
  cases s with
  | newBackground target | backgroundTexture target _ =>
    have hne : target.text ≠ id := fun heq => h (congrArg Subject.background heq)
    simp [onBackground, hne]
  | _ => rfl

/-- **The object of an id is what the statements about it make of it.** -/
theorem get?_objects_filter (scene : Scene) (ss : List Statement) :
    (foldEdited style scene ss).objects.get? id =
      (ss.filter fun s => s.subject = .object id).foldl (onObject style id)
        (scene.objects.get? id) := by
  rw [foldl_filter_of_eq fun o s hs => onObject_of_ne style id (of_decide_eq_false hs) o]
  induction ss generalizing scene with
  | nil => rfl
  | cons s ss ih =>
    rw [List.foldl_cons, onObject, ← Scene.get?_objects_edited]
    exact ih (scene.edited style s.edit)

theorem get?_backgrounds_edit (scene : Scene) {s : Statement} (hs : s.subject ≠ .switch) :
    (scene.edited style s.edit).backgrounds.get? id =
      onBackground id (scene.backgrounds.get? id) s := by
  rw [Scene.get?_backgrounds_edited]
  cases s with
  | activate target => exact absurd rfl hs
  | newBackground target =>
    simp [edit, onBackground, Edit.onBackground]
  | _ => simp [edit, onBackground, Edit.onBackground]

/-- **The background of an id is what the statements about it make of it**, as long as nothing
is switched to. -/
theorem get?_backgrounds_filter (scene : Scene) {ss : List Statement}
    (hs : ∀ s ∈ ss, s.subject ≠ .switch) :
    (foldEdited style scene ss).backgrounds.get? id =
      (ss.filter fun s => s.subject = .background id).foldl (onBackground id)
        (scene.backgrounds.get? id) := by
  rw [foldl_filter_of_eq fun b s hs => onBackground_of_ne id (of_decide_eq_false hs) b]
  induction ss generalizing scene with
  | nil => rfl
  | cons s ss ih =>
    rw [List.forall_mem_cons] at hs
    rw [List.foldl_cons, ← get?_backgrounds_edit style id scene hs.1]
    exact ih (scene.edited style s.edit) hs.2

/-- What is not about the planet itself leaves it as it is. -/
theorem planet_foldEdited (scene : Scene) {ss : List Statement}
    (hs : ∀ s ∈ ss, s.subject ≠ .planet) :
    (foldEdited style scene ss).valid = scene.valid ∧
      (foldEdited style scene ss).thumbnail = scene.thumbnail ∧
      (foldEdited style scene ss).spawn = scene.spawn := by
  induction ss generalizing scene with
  | nil => exact ⟨rfl, rfl, rfl⟩
  | cons s ss ih =>
    rw [List.forall_mem_cons] at hs
    obtain ⟨hvalid, hthumbnail, hspawn⟩ := ih (scene.edited style s.edit) hs.2
    have hedit : s.edit ≠ .validate ∧ (∀ url, s.edit ≠ .thumbnail url) ∧
        ∀ x y, s.edit ≠ .spawn x y := by
      cases s with
      | valid | thumbnail | spawnX | spawnY => exact absurd rfl hs.1
      | _ => exact ⟨nofun, fun _ => nofun, fun _ _ => nofun⟩
    rw [Scene.valid_edited, decide_eq_false hedit.1, Bool.or_false] at hvalid
    exact ⟨hvalid, hthumbnail.trans (Scene.thumbnail_edited style scene hedit.2.1),
      hspawn.trans (Scene.spawn_edited style scene hedit.2.2)⟩

end Statement

/-! ### Drafts -/

/-- A background to be written. -/
structure BackgroundDraft where
  id : PlainId
  texture : FieldText

/-- An object to be written. -/
structure ObjectDraft where
  id : PlainId
  x : SafeInt
  y : SafeInt
  texture : FieldText
  size : SizeText
  gravity : Option FiniteLiteral
  removedByClick : Bool

/-- A scene to be written. -/
structure Draft where
  valid : Bool
  thumbnail : FieldText
  spawnX : SafeInt
  spawnY : SafeInt
  backgrounds : List BackgroundDraft
  backgrounds_nodup : (backgrounds.map (·.id.text)).Nodup
  /-- The background that is active, if one is. -/
  active : Option BackgroundDraft
  active_mem : ∀ background ∈ active, background ∈ backgrounds
  objects : List ObjectDraft
  objects_nodup : (objects.map (·.id.text)).Nodup

/-- The order in which a draft is written. -/
inductive Layout where
  /-- All declarations first, and then the fields. -/
  | declarationsFirst
  /-- Each declaration with its fields. -/
  | entryByEntry

/-- The fields of an object. -/
def ObjectDraft.fields (o : ObjectDraft) : List Statement :=
  [.objectX o.id o.x, .objectY o.id o.y, .objectTexture o.id o.texture, .size o.id o.size] ++
    o.gravity.toList.map (.gravity o.id) ++
    if o.removedByClick then [.removeByClick o.id] else []

/-- The object that a draft stands for. -/
def ObjectDraft.object (o : ObjectDraft) : Object where
  position := ⟨.ofInt o.x.value, .ofInt o.y.value⟩
  texture := o.texture.text
  size := o.size.text
  gravity := o.gravity.elim .unset fun literal => .value (.finite literal.value)
  removedByClick := o.removedByClick

/-- A background or an object to be written. -/
inductive EntryDraft where
  | background (b : BackgroundDraft)
  | object (o : ObjectDraft)

namespace EntryDraft

/-- What an entry is about. -/
def subject : EntryDraft → Statement.Subject
  | .background b => .background b.id.text
  | .object o => .object o.id.text

/-- The declaration of an entry. -/
def declaration : EntryDraft → Statement
  | .background b => .newBackground b.id
  | .object o => .newObject o.id

/-- The fields of an entry. -/
def fields : EntryDraft → List Statement
  | .background b => [.backgroundTexture b.id b.texture]
  | .object o => o.fields

/-- The statements about an entry. -/
def statements (e : EntryDraft) : List Statement := e.declaration :: e.fields

end EntryDraft

namespace Draft
variable (d : Draft)

/-- The statements about the planet itself. -/
def planet : List Statement :=
  (if d.valid then [.valid] else []) ++
    [.thumbnail d.thumbnail, .spawnX d.spawnX, .spawnY d.spawnY]

/-- The backgrounds and the objects. -/
def entries : List EntryDraft := d.backgrounds.map .background ++ d.objects.map .object

/-- The statements about backgrounds and objects. -/
def body : Layout → List Statement
  | .declarationsFirst =>
    d.entries.map EntryDraft.declaration ++ d.entries.flatMap EntryDraft.fields
  | .entryByEntry => d.entries.flatMap EntryDraft.statements

/-- The switch to the background that is active. -/
def switch : List Statement := d.active.toList.map fun b => .activate b.id

/-- The statements of a draft. -/
def statements (layout : Layout) : List Statement := d.planet ++ d.body layout ++ d.switch

/-- The script of a draft. -/
def script (layout : Layout) : Text := Statement.script (d.statements layout)

/-- The background that a draft stands for. -/
def background (b : BackgroundDraft) : Background where
  texture := b.texture.text
  active := decide (d.active.map (·.id.text) = some b.id.text)

/-- The scene that a draft stands for. -/
def scene : Scene where
  valid := d.valid
  thumbnail := d.thumbnail.text
  spawn := ⟨.ofInt d.spawnX.value, .ofInt d.spawnY.value⟩
  backgrounds :=
    ⟨d.backgrounds.map fun b => (b.id.text, d.background b), by
      rw [List.map_map]; exact d.backgrounds_nodup⟩
  objects :=
    ⟨d.objects.map fun o => (o.id.text, o.object), by
      rw [List.map_map]; exact d.objects_nodup⟩

end Draft

/-! ### What a draft says of one entry -/

section Entries
variable (style : NumberStyle)

theorem coordinate_fieldValue (n : SafeInt) {stop : Char} (hstop : stop = ',' ∨ stop = ';') :
    style.coordinate (fieldValue (Text.ofInt n.value) stop) = .ofInt n.value :=
  style.coordinate_ofInt n.bound hstop

theorem read_fieldValue (literal : FiniteLiteral) :
    Gravity.read (fieldValue literal.text ';') = .value (.finite literal.value) :=
  Gravity.read_of_read? literal.names

/-- **The statements about an object make the object.** -/
theorem ObjectDraft.foldl_statements (o : ObjectDraft) :
    (EntryDraft.object o).statements.foldl (Statement.onObject style o.id.text) none =
      some o.object := by
  have hx := coordinate_fieldValue style o.x (Or.inl rfl : ',' = ',' ∨ ',' = ';')
  have hy := coordinate_fieldValue style o.y (Or.inr rfl : ';' = ',' ∨ ';' = ';')
  obtain ⟨id, x, y, texture, size, gravity, removedByClick⟩ := o
  cases gravity with
  | none =>
    cases removedByClick <;>
      simp [EntryDraft.statements, EntryDraft.declaration, EntryDraft.fields, fields, object,
        Statement.onObject, Statement.edit, Edit.onObject, Point.update, hx, hy]
  | some literal =>
    have hgravity := read_fieldValue literal
    cases removedByClick <;>
      simp [EntryDraft.statements, EntryDraft.declaration, EntryDraft.fields, fields, object,
        Statement.onObject, Statement.edit, Edit.onObject, Point.update, hx, hy, hgravity]

/-- The statements about a background make the background, which is not active. -/
theorem BackgroundDraft.foldl_statements (b : BackgroundDraft) :
    (EntryDraft.background b).statements.foldl (Statement.onBackground b.id.text) none =
      some { texture := b.texture.text } := by
  simp [EntryDraft.statements, EntryDraft.declaration, EntryDraft.fields, Statement.onBackground]

end Entries

theorem ObjectDraft.of_mem_fields {o : ObjectDraft} {s : Statement} (hs : s ∈ o.fields) :
    s.subject = .object o.id.text ∧ s.declares = false := by
  rcases List.mem_append.mp hs with hs | hs
  · rcases List.mem_append.mp hs with hs | hs
    · simp only [List.mem_cons, List.not_mem_nil, or_false] at hs
      rcases hs with rfl | rfl | rfl | rfl <;> exact ⟨rfl, rfl⟩
    · obtain ⟨literal, -, rfl⟩ := List.mem_map.mp hs
      exact ⟨rfl, rfl⟩
  · split at hs
    · rw [List.mem_singleton.mp hs]
      exact ⟨rfl, rfl⟩
    · cases hs

namespace EntryDraft
variable {e : EntryDraft} {s : Statement}

theorem of_mem_fields (hs : s ∈ e.fields) : s.subject = e.subject ∧ s.declares = false := by
  cases e with
  | background b =>
    rw [List.mem_singleton.mp hs]
    exact ⟨rfl, rfl⟩
  | object o => exact ObjectDraft.of_mem_fields hs

theorem subject_declaration (e : EntryDraft) : e.declaration.subject = e.subject := by
  cases e <;> rfl

theorem subject_of_mem (hs : s ∈ e.statements) : s.subject = e.subject := by
  rcases List.mem_cons.mp hs with rfl | hs
  · exact e.subject_declaration
  · exact (of_mem_fields hs).1

end EntryDraft

namespace Draft
variable {d : Draft} {s : Statement}

theorem of_mem_planet (hs : s ∈ d.planet) : s.subject = .planet ∧ s.declares = false := by
  rcases List.mem_append.mp hs with hs | hs
  · split at hs
    · rw [List.mem_singleton.mp hs]
      exact ⟨rfl, rfl⟩
    · cases hs
  · simp only [List.mem_cons, List.not_mem_nil, or_false] at hs
    rcases hs with rfl | rfl | rfl <;> exact ⟨rfl, rfl⟩

theorem of_mem_switch (hs : s ∈ d.switch) : s.subject = .switch ∧ s.declares = false := by
  obtain ⟨b, -, rfl⟩ := List.mem_map.mp hs
  exact ⟨rfl, rfl⟩

/-- Every other statement is about an entry of the draft. -/
theorem subject_of_mem_body {layout : Layout} (hs : s ∈ d.body layout) :
    ∃ e : EntryDraft, s.subject = e.subject := by
  cases layout with
  | declarationsFirst =>
    rcases List.mem_append.mp hs with hs | hs
    · obtain ⟨e, -, rfl⟩ := List.mem_map.mp hs
      exact ⟨e, e.subject_declaration⟩
    · obtain ⟨e, -, hs⟩ := List.mem_flatMap.mp hs
      exact ⟨e, (EntryDraft.of_mem_fields hs).1⟩
  | entryByEntry =>
    obtain ⟨e, -, hs⟩ := List.mem_flatMap.mp hs
    exact ⟨e, EntryDraft.subject_of_mem hs⟩

theorem subject_ne_of_mem_body {layout : Layout} (hs : s ∈ d.body layout) :
    s.subject ≠ .planet ∧ s.subject ≠ .switch := by
  obtain ⟨e, he⟩ := subject_of_mem_body hs
  rw [he]
  cases e <;> exact ⟨nofun, nofun⟩

theorem nodup_subjects (d : Draft) : (d.entries.map EntryDraft.subject).Nodup := by
  have hbackgrounds : ((d.backgrounds.map (·.id.text)).map Statement.Subject.background).Nodup :=
    List.Nodup.map (fun _ _ => Statement.Subject.background.inj) d.backgrounds_nodup
  have hobjects : ((d.objects.map (·.id.text)).map Statement.Subject.object).Nodup :=
    List.Nodup.map (fun _ _ => Statement.Subject.object.inj) d.objects_nodup
  rw [List.map_map] at hbackgrounds hobjects
  rw [entries, List.map_append, List.map_map, List.map_map]
  refine List.nodup_append.mpr ⟨hbackgrounds, hobjects, fun a ha b hb => ?_⟩
  obtain ⟨-, -, rfl⟩ := List.mem_map.mp ha
  obtain ⟨-, -, rfl⟩ := List.mem_map.mp hb
  exact nofun

/-- **In both layouts the same statements are about an entry.** -/
theorem filter_body (layout : Layout) {e : EntryDraft} (he : e ∈ d.entries) :
    (d.body layout).filter (fun s => s.subject = e.subject) = e.statements := by
  have hown : ∀ f : EntryDraft → List Statement, (∀ e, ∀ s ∈ f e, s.subject = e.subject) →
      (d.entries.flatMap f).filter (fun s => s.subject = e.subject) = f e :=
    fun f hf => filter_flatMap_of_nodup d.nodup_subjects hf he
  cases layout with
  | declarationsFirst =>
    rw [body, List.map_eq_flatMap, List.filter_append,
      hown _ (by simp [EntryDraft.subject_declaration]),
      hown _ fun e s hs => (EntryDraft.of_mem_fields hs).1]
    rfl
  | entryByEntry => exact hown _ fun e s hs => EntryDraft.subject_of_mem hs

/-! ### The scene of a draft -/

/-- In both layouts the declarations come in the order of the draft: what only declarations
have is read off them one after the other. -/
theorem filterMap_statements {f : Statement → Option Text}
    (hf : ∀ s, s.declares = false → f s = none) (layout : Layout) :
    (d.statements layout).filterMap f = d.entries.filterMap fun e => f e.declaration := by
  have hquiet : ∀ ss : List Statement, (∀ s ∈ ss, s.declares = false) → ss.filterMap f = [] :=
    fun ss hss => List.filterMap_eq_nil_iff.mpr fun s hs => hf s (hss s hs)
  have hplanet : d.planet.filterMap f = [] := hquiet _ fun s hs => (of_mem_planet hs).2
  have hswitch : d.switch.filterMap f = [] := hquiet _ fun s hs => (of_mem_switch hs).2
  have hfields : ∀ e : EntryDraft, e.fields.filterMap f = [] := fun e =>
    hquiet _ fun s hs => (EntryDraft.of_mem_fields hs).2
  rw [statements, List.filterMap_append, List.filterMap_append, hplanet, hswitch, List.nil_append,
    List.append_nil]
  cases layout with
  | declarationsFirst =>
    have hrest : (d.entries.flatMap EntryDraft.fields).filterMap f = [] := by
      rw [List.filterMap_flatMap]
      exact List.flatMap_eq_nil_iff.mpr fun e _ => hfields e
    rw [body, List.filterMap_append, hrest, List.append_nil, List.filterMap_map]
    rfl
  | entryByEntry =>
    have hentry : ∀ e : EntryDraft, e.statements.filterMap f = (f e.declaration).toList := by
      intro e
      rw [EntryDraft.statements, List.filterMap_cons, hfields]
      cases f e.declaration <;> rfl
    rw [body, List.filterMap_flatMap]
    simp only [hentry, ← List.filterMap_eq_flatMap_toList]

variable (style : NumberStyle) (layout : Layout)

/-- **The tables of a draft hold its ids in its order.** -/
theorem keys_foldEdited (d : Draft) :
    (Statement.foldEdited style {} (d.statements layout)).objects.keys =
        d.objects.map (·.id.text) ∧
      (Statement.foldEdited style {} (d.statements layout)).backgrounds.keys =
        d.backgrounds.map (·.id.text) := by
  have hobjects : (d.statements layout).filterMap (fun s => s.edit.newObject?) =
      d.objects.map (·.id.text) := by
    rw [filterMap_statements fun s hs => ?_]
    · simp [entries, EntryDraft.declaration, Statement.edit, Edit.newObject?]
    · cases s <;> first | rfl | cases hs
  have hbackgrounds : (d.statements layout).filterMap (fun s => s.edit.newBackground?) =
      d.backgrounds.map (·.id.text) := by
    rw [filterMap_statements fun s hs => ?_]
    · simp [entries, EntryDraft.declaration, Statement.edit, Edit.newBackground?]
    · cases s <;> first | rfl | cases hs
  obtain ⟨hobjectKeys, hbackgroundKeys⟩ :=
    Edit.keys_foldl_edited style ((d.statements layout).map Statement.edit)
  rw [List.filterMap_map] at hobjectKeys hbackgroundKeys
  constructor
  · exact hobjectKeys.trans ((congrArg _ hobjects).trans (eraseDups_eq_self d.objects_nodup))
  · exact hbackgroundKeys.trans
      ((congrArg _ hbackgrounds).trans (eraseDups_eq_self d.backgrounds_nodup))

/-- The planet itself is what its statements say. -/
theorem planet_foldEdited (d : Draft) :
    (Statement.foldEdited style {} (d.statements layout)).valid = d.valid ∧
      (Statement.foldEdited style {} (d.statements layout)).thumbnail = d.thumbnail.text ∧
      (Statement.foldEdited style {} (d.statements layout)).spawn = d.scene.spawn := by
  have hx := coordinate_fieldValue style d.spawnX (Or.inl rfl : ',' = ',' ∨ ',' = ';')
  have hy := coordinate_fieldValue style d.spawnY (Or.inr rfl : ';' = ',' ∨ ';' = ';')
  have hplanet : (Statement.foldEdited style {} d.planet).valid = d.valid ∧
      (Statement.foldEdited style {} d.planet).thumbnail = d.thumbnail.text ∧
      (Statement.foldEdited style {} d.planet).spawn = d.scene.spawn := by
    cases hvalid : d.valid <;>
      simp [Statement.foldEdited, planet, Statement.edit, Scene.edited, Point.update, scene, hvalid,
        hx, hy]
  have hrest : ∀ s ∈ d.body layout ++ d.switch, s.subject ≠ .planet := by
    intro s hs
    rcases List.mem_append.mp hs with hs | hs
    · exact (subject_ne_of_mem_body hs).1
    · simp [(of_mem_switch hs).1]
  rw [statements, List.append_assoc, Statement.foldEdited_append]
  obtain ⟨hvalid, hthumbnail, hspawn⟩ := Statement.planet_foldEdited style _ hrest
  exact ⟨hvalid.trans hplanet.1, hthumbnail.trans hplanet.2.1, hspawn.trans hplanet.2.2⟩

theorem filter_planet (d : Draft) (e : EntryDraft) :
    d.planet.filter (fun s => s.subject = e.subject) = [] := by
  refine Statement.filter_eq_nil fun s hs => ?_
  rw [(of_mem_planet hs).1]
  cases e <;> exact nofun

theorem filter_switch (d : Draft) (e : EntryDraft) :
    d.switch.filter (fun s => s.subject = e.subject) = [] := by
  refine Statement.filter_eq_nil fun s hs => ?_
  rw [(of_mem_switch hs).1]
  cases e <;> exact nofun

/-- An object of the draft is in the table as the draft has it. -/
theorem get?_objects_foldEdited {o : ObjectDraft} (ho : o ∈ d.objects) :
    (Statement.foldEdited style {} (d.statements layout)).objects.get? o.id.text =
      some o.object := by
  have he : EntryDraft.object o ∈ d.entries :=
    List.mem_append_right _ (List.mem_map.mpr ⟨o, ho, rfl⟩)
  have hfilter : (d.statements layout).filter (fun s => s.subject = .object o.id.text) =
      (EntryDraft.object o).statements := by
    rw [statements, List.filter_append, List.filter_append]
    exact (congrArg₂ _ (congrArg₂ _ (d.filter_planet (.object o)) (filter_body layout he))
      (d.filter_switch (.object o))).trans (List.append_nil _)
  rw [Statement.get?_objects_filter, hfilter]
  exact o.foldl_statements style

/-- Before the switch, a background of the draft has its texture and is not active. -/
theorem get?_backgrounds_foldEdited_body {b : BackgroundDraft} (hb : b ∈ d.backgrounds) :
    (Statement.foldEdited style {} (d.planet ++ d.body layout)).backgrounds.get? b.id.text =
      some { texture := b.texture.text } := by
  have he : EntryDraft.background b ∈ d.entries :=
    List.mem_append_left _ (List.mem_map.mpr ⟨b, hb, rfl⟩)
  have hfilter : (d.planet ++ d.body layout).filter (fun s => s.subject = .background b.id.text) =
      (EntryDraft.background b).statements := by
    rw [List.filter_append]
    exact congrArg₂ _ (d.filter_planet (.background b)) (filter_body layout he)
  have hnoSwitch : ∀ s ∈ d.planet ++ d.body layout, s.subject ≠ .switch := by
    intro s hs
    rcases List.mem_append.mp hs with hs | hs
    · rw [(of_mem_planet hs).1]; exact nofun
    · exact (subject_ne_of_mem_body hs).2
  rw [Statement.get?_backgrounds_filter style _ _ hnoSwitch, hfilter]
  exact b.foldl_statements

/-- A background of the draft is in the table as the draft has it. -/
theorem get?_backgrounds_foldEdited {b : BackgroundDraft} (hb : b ∈ d.backgrounds) :
    (Statement.foldEdited style {} (d.statements layout)).backgrounds.get? b.id.text =
      some (d.background b) := by
  have hbody : ∀ b ∈ d.backgrounds,
      (Statement.foldEdited style {} (d.planet ++ d.body layout)).backgrounds.get? b.id.text =
        some { texture := b.texture.text } :=
    fun b hb => get?_backgrounds_foldEdited_body style layout hb
  rw [statements, Statement.foldEdited_append]
  generalize Statement.foldEdited style {} (d.planet ++ d.body layout) = before at hbody ⊢
  rw [background]
  cases hactive : d.active with
  | none =>
    rw [switch, hactive]
    exact hbody b hb
  | some a =>
    have hthere : before.backgrounds.contains a.id.text = true := by
      rw [Registry.contains, hbody a (d.active_mem a hactive)]
      rfl
    have hscene : Statement.foldEdited style before d.switch = before.activate a.id.text := by
      rw [switch, hactive]
      exact if_pos hthere
    rw [hscene, Scene.get?_backgrounds_activate, hbody b hb]
    simp

theorem keys_scene (d : Draft) : d.scene.objects.keys = d.objects.map (·.id.text) ∧
    d.scene.backgrounds.keys = d.backgrounds.map (·.id.text) := by
  constructor
  · rw [Registry.keys, scene]; exact List.map_map
  · rw [Registry.keys, scene]; exact List.map_map

theorem objects_foldEdited (d : Draft) :
    (Statement.foldEdited style {} (d.statements layout)).objects = d.scene.objects := by
  have hkeys := (d.keys_foldEdited style layout).1
  refine Registry.eq_of_keys_of_get? (hkeys.trans d.keys_scene.1.symm) fun id hid => ?_
  rw [hkeys] at hid
  obtain ⟨o, ho, rfl⟩ := List.mem_map.mp hid
  rw [get?_objects_foldEdited style layout ho]
  exact (Registry.get?_eq_some_iff.mpr (List.mem_map.mpr ⟨o, ho, rfl⟩)).symm

theorem backgrounds_foldEdited (d : Draft) :
    (Statement.foldEdited style {} (d.statements layout)).backgrounds = d.scene.backgrounds := by
  have hkeys := (d.keys_foldEdited style layout).2
  refine Registry.eq_of_keys_of_get? (hkeys.trans d.keys_scene.2.symm) fun id hid => ?_
  rw [hkeys] at hid
  obtain ⟨b, hb, rfl⟩ := List.mem_map.mp hid
  rw [get?_backgrounds_foldEdited style layout hb]
  exact (Registry.get?_eq_some_iff.mpr (List.mem_map.mpr ⟨b, hb, rfl⟩)).symm

/-- **The statements of a draft make its scene.** -/
theorem foldEdited_statements (d : Draft) :
    Statement.foldEdited style {} (d.statements layout) = d.scene := by
  obtain ⟨hvalid, hthumbnail, hspawn⟩ := d.planet_foldEdited style layout
  have hobjects := d.objects_foldEdited style layout
  have hbackgrounds := d.backgrounds_foldEdited style layout
  generalize Statement.foldEdited style {} (d.statements layout) = scene at *
  obtain ⟨valid, thumbnail, spawn, backgrounds, objects⟩ := scene
  cases hvalid
  cases hthumbnail
  cases hspawn
  cases hbackgrounds
  cases hobjects
  rfl

end Draft

namespace Session

/-- **A draft is read as the scene that it stands for.**  Every session, in every setting and
whatever it has read before, makes of the script of a draft the scene of the draft, in either
layout; and the integers in it are read as the numbers that they are. -/
theorem read_draft (d : Draft) (layout : Layout) (s : Session) :
    (s.read (d.script layout)).scene = d.scene ∧
      ∀ n : SafeInt, ∃ x, Number.ofInt n.value = .finite x ∧ x.value = n.value := by
  refine ⟨?_, fun n => Number.value_ofInt n.bound⟩
  rw [scene_read, Draft.script, Statement.ofScript_script]
  exact d.foldEdited_statements s.settings.numberStyle layout

/-- A draft of a sky and a rock. -/
def skyAndRock : Draft :=
  let sky : BackgroundDraft :=
    ⟨⟨"sky".toList, by decide, by decide, by simp⟩, ⟨"sky.png".toList, by decide, by decide⟩⟩
  { valid := true
    thumbnail := ⟨"cover.png".toList, by decide, by decide⟩
    spawnX := ⟨1, by decide⟩
    spawnY := ⟨-2, by decide⟩
    backgrounds := [sky]
    backgrounds_nodup := List.nodup_singleton _
    active := some sky
    active_mem := by simp
    objects :=
      [{ id := ⟨"a rock".toList, by decide, by decide, by simp⟩
         x := ⟨-5, by decide⟩
         y := ⟨7, by decide⟩
         texture := ⟨"rock.svg".toList, by decide, by decide⟩
         size := ⟨⟨"40".toList, by decide, by decide⟩, by decide⟩
         gravity := some ⟨"1.5".toList, _, rfl⟩
         removedByClick := true }]
    objects_nodup := List.nodup_singleton _ }

/-- The lines of a draft, and the scene that a session makes of them. -/
theorem read_skyAndRock :
    ((skyAndRock.statements .declarationsFirst).flatMap Statement.lines).map String.ofList =
      ["planets.push(new Planet);",
        "planets.thumbnail() \x7b", "url: cover.png;",
        "planets.spawn \x7b", "x: 1,", "planets.spawn \x7b", "y: -2;",
        "new Background:sky;", "new Object:a rock;",
        "setTextureOf(Background) with id \"sky\"", "url: sky.png;",
        "setPositionOf with id \"a rock\"", "x: -5,",
        "setPositionOf with id \"a rock\"", "y: 7;",
        "setTextureOf(Object) with id \"a rock\"", "url: rock.svg;",
        "setSizeOf with id \"a rock\"", "40;",
        "propertiesOf with id \"a rock\"", "gravity: 1.5;",
        "Object:a rock.onclick() \x7b", "remove(this);",
        "switchBackgroundImgTo with id \"sky\";"] ∧
    ((fresh {} [] .empty).read (skyAndRock.script .declarationsFirst)).scene = skyAndRock.scene :=
  ⟨by decide, (read_draft skyAndRock .declarationsFirst (fresh {} [] .empty)).1⟩

end Session
end PlanetScript
