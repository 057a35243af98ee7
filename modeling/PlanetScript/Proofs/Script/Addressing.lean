import PlanetScript.Proofs.Script.Statement
import PlanetScript.Proofs.Scene.Edited

/-! # Declared ids in other lines

An id that a declaration gives is trimmed and not empty, and that is all that is known of it
(`trimmed_of_declared`): it may have blanks, points, brackets and semicolons.  If it has no quote,
every line that has its id in quotes is about it.  Two lines look for more than the quotes
(`directives_of_declared`): a click block takes a point for the end of its id, and a texture line
takes a bracket in its id for the name of a kind.

What a `remove` line says is about the click block that is open, however far above it was opened
(`Reading.scene_run_remove`).
-/
namespace PlanetScript
open Text

/-- A declared id is not empty and has no blank at either end. -/
theorem trimmed_of_declared {text id : Text}
    (h : Directive.ofLine ("new Object:".toList ++ text) = .newObject (some id)) :
    Trimmed id ∧ id ≠ [] := by
  have hdeclared := Directive.ofLine_eq_newObject_iff.mp h
  have hopening : Form.newObject.opening = "new Object:".toList := rfl
  rw [Form.declared?, hopening, rest?_append, Option.bind_some, newId?,
    nonEmpty?_eq_some_iff] at hdeclared
  obtain ⟨rfl, hne⟩ := hdeclared
  exact ⟨trimmed_stored _, hne⟩

/-! ### What an open block waits for -/

/-- A line after which the block that is open and what it is about are the same. -/
structure Directive.LeavesOpen (scope : BlockScope) (d : Directive) : Prop where
  opened : d.opened? = none
  subject : d.subject? = none
  content : d = .content → scope = .sticky

theorem Directive.LeavesOpen.next_eq {scope : BlockScope} {d : Directive}
    (h : d.LeavesOpen scope) (focus : Focus) : focus.next scope d = focus := by
  unfold Focus.next
  by_cases hc : d = .content
  · have hcontent : d.isContent = true := decide_eq_true hc
    rw [h.content hc, if_pos hcontent]
    rfl
  · rw [if_neg (by simpa [isContent] using hc), h.opened, h.subject]
    rfl

namespace Reading
variable (settings : Settings) (r : Reading) {id : Text}

theorem run_append (before after : List Text) :
    run settings r (before ++ after) = run settings (run settings r before) after :=
  List.foldl_append

/-- Lines that leave the block open leave the focus of a reading as it is. -/
theorem focus_run_of_leavesOpen {lines : List Text}
    (h : ∀ line ∈ lines, (Directive.ofLine line).LeavesOpen settings.blockScope) :
    (run settings r lines).focus = r.focus := by
  induction lines generalizing r with
  | nil => rfl
  | cons line lines ih =>
    have hfirst := (h line List.mem_cons_self).next_eq r.focus
    have hrest := ih (r.step settings line).1 fun l hl => h l (List.mem_cons_of_mem line hl)
    rw [focus_step, hfirst] at hrest
    exact hrest

/-- A click block that is about an object waits for the line that says what a click does. -/
theorem scene_run_remove {line : Text} {between : List Text}
    (hline : Directive.ofLine line = .onClick (some id))
    (h : ∀ l ∈ between, (Directive.ofLine l).LeavesOpen settings.blockScope) :
    (run settings r (line :: between ++ ["remove(this);".toList])).scene =
      (run settings r (line :: between)).scene.modifyObject id fun object =>
        { object with removedByClick := true } := by
  have hopened : (r.step settings line).1.focus = ⟨some .onClick, some id, some .object⟩ := by
    rw [focus_step, hline]
    rfl
  have hfocus : (run settings r (line :: between)).focus = ⟨some .onClick, some id, some .object⟩ :=
    (focus_run_of_leavesOpen settings (r.step settings line).1 h).trans hopened
  have hremove : Directive.ofLine "remove(this);".toList = .remove := by decide
  have hedit : (run settings r (line :: between)).focus.edit? "remove(this);".toList =
      some (.removeByClick id) := by
    rw [hfocus]
    exact Focus.edit?_eq_some_iff.mpr ⟨hremove, rfl, rfl⟩
  rw [run_append]
  exact Statement.scene_run_line settings _ hedit

end Reading

/-- **The lines that a declared id can stand in.**  An id without a quote that some line declares
as an object is the id of every line that has it in quotes, whatever such a line is for.  A line
for the texture of a background names this kind; a line for the texture of an object names it
unless `(Background` is a piece of the id.  A click block is about the id if and only if the id has
no point; and if it has none, a `remove` line that comes while the block is open says of this
object, and of no other, that a click removes it. -/
theorem directives_of_declared {id : Text}
    (hdeclared : ∃ text, Directive.ofLine ("new Object:".toList ++ text) = .newObject (some id))
    (hquote : '\"' ∉ id) :
    (Directive.ofLine (lineAbout "setPositionOf ".toList id []) = .setPosition (some id) ∧
      Directive.ofLine (lineAbout "setSizeOf ".toList id []) = .setSize (some id) ∧
      Directive.ofLine (lineAbout "propertiesOf ".toList id []) = .properties (some id) ∧
      Directive.ofLine (lineAbout "switchBackgroundImgTo ".toList id [';']) =
        .switchBackground (some id)) ∧
    (Directive.ofLine (lineAbout "setTextureOf(Background) ".toList id []) =
        .setTexture (some id) (some .background) ∧
      Directive.ofLine (lineAbout "setTextureOf(Object) ".toList id []) =
        .setTexture (some id)
          (some (if contains "(Background".toList id = true then .background else .object))) ∧
    (Directive.ofLine (clickLine id) = .onClick (some id) ↔ '.' ∉ id) ∧
    ('.' ∉ id → ∀ (settings : Settings) (r : Reading) (between : List Text),
      (∀ line ∈ between, (Directive.ofLine line).LeavesOpen settings.blockScope) →
      let before := (Reading.run settings r (clickLine id :: between)).scene
      let after :=
        (Reading.run settings r (clickLine id :: between ++ ["remove(this);".toList])).scene
      (∀ other, after.objects.get? other = (before.objects.get? other).map fun object =>
          if id = other then { object with removedByClick := true } else object) ∧
        after.backgrounds = before.backgrounds) := by
  obtain ⟨text, hline⟩ := hdeclared
  obtain ⟨htrimmed, hne⟩ := trimmed_of_declared hline
  have hquotable : Quotable id := ⟨hne, hquote⟩
  have hclick : Directive.ofLine (clickLine id) = .onClick (some id) ↔ '.' ∉ id := by
    rw [ofLine_clickLine, Directive.onClick.injEq]
    exact clickedId?_eq_some_self_iff htrimmed hne
  refine ⟨⟨hquotable.ofLine_position, hquotable.ofLine_size, hquotable.ofLine_properties,
    hquotable.ofLine_switch⟩, ⟨hquotable.ofLine_backgroundTexture,
    hquotable.ofLine_objectTexture⟩, hclick, ?_⟩
  intro hpoint settings r between hbetween before after
  have hafter : after = before.modifyObject id fun object =>
      { object with removedByClick := true } :=
    Reading.scene_run_remove settings r (hclick.mpr hpoint) hbetween
  refine ⟨fun other => ?_, ?_⟩
  · rw [hafter, Scene.get?_objects_modifyObject]
  · rw [hafter]
    rfl

/-- An id with blanks, a bracket and a semicolon at its end stands in all of the lines. -/
theorem directives_of_declared_rock :
    let id := "(moon rock);".toList
    Directive.ofLine ("new Object:".toList ++ " (moon rock); ;".toList) = .newObject (some id) ∧
      '\"' ∉ id ∧ '.' ∉ id ∧
      Directive.ofLine (lineAbout "setTextureOf(Object) ".toList id []) =
        .setTexture (some id) (some .object) ∧
      Directive.ofLine (clickLine id) = .onClick (some id) := by
  intro id
  have hline : Directive.ofLine ("new Object:".toList ++ " (moon rock); ;".toList) =
      .newObject (some id) := by decide
  have hquote : '\"' ∉ id := by decide
  have hpoint : '.' ∉ id := by decide
  have hkind : ¬ contains "(Background".toList id = true := by decide
  obtain ⟨-, ⟨-, htexture⟩, hclick, -⟩ := directives_of_declared ⟨_, hline⟩ hquote
  rw [if_neg hkind] at htexture
  exact ⟨hline, hquote, hpoint, htexture, hclick.mpr hpoint⟩

/-- Of two objects whose ids differ behind a point, a click block marks the other one. -/
theorem directives_of_point :
    let script := "new Object:a;\nnew Object:a.b;\nObject:a.b.onclick() \x7b\nremove(this);".toList
    let scene := Scene.ofScript {} script
    Directive.ofLine "new Object:a.b;".toList = .newObject (some "a.b".toList) ∧
      Directive.ofLine (clickLine "a.b".toList) = .onClick (some "a".toList) ∧
      (scene.objects.get? "a.b".toList).map (·.removedByClick) = some false ∧
      (scene.objects.get? "a".toList).map (·.removedByClick) = some true := by
  decide +kernel

end PlanetScript
