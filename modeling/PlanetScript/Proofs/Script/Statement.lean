import PlanetScript.Proofs.Number.Integer
import PlanetScript.Proofs.Number.Literal
import PlanetScript.Proofs.Script.Edit
import PlanetScript.Proofs.Script.Naming
import PlanetScript.Proofs.Text.Lines

/-! # Statements

A statement is one thing that a script can say, written in its plainest form: a declaration or
a switch on a line of its own, and a field on a line behind the line that opens its block.  What
stands in a statement carries the conditions under which it can be written there.

Wherever a statement stands, and in every setting, its lines make its edit and nothing else
(`Statement.scene_run`); so a script of statements makes their edits one after the other
(`Statement.ofScript_script`).
-/
namespace PlanetScript
open Text

/-! ### What can be written -/

/-- A text that can be written into a field. -/
structure FieldText where
  text : Text
  storable : Storable text
  lineFeed : '\n' ∉ text

/-- A text that can be written as a size, where it has a line for itself. -/
structure SizeText extends FieldText where
  content : Directive.ofLine (text ++ [';']) = .content

/-- An integer that is a number. -/
structure SafeInt where
  value : Int
  bound : value.natAbs ≤ 2 ^ 53

/-- A literal of a finite number. -/
structure FiniteLiteral where
  text : Text
  value : FiniteNumber
  names : Number.read? text = some (.finite value)

theorem FiniteLiteral.lineFeed (literal : FiniteLiteral) : '\n' ∉ literal.text :=
  Number.notMem_of_read? literal.names (.of_isBlank isBlank_lineFeed)

theorem SafeInt.notMem {c : Char} (n : SafeInt) (hdigit : isAsciiDigit c = false)
    (hsign : c ≠ '-') : c ∉ Text.ofInt n.value := by
  intro hc
  rcases isAsciiDigit_of_mem_ofInt hc with rfl | h
  · exact hsign rfl
  · rw [hdigit] at h
    cases h

/-- What stands behind the key of a field. -/
def fieldValue (value : Text) (stop : Char) : Text := ' ' :: (value ++ [stop])

/-- The line of a field. -/
def fieldLine (key value : Text) (stop : Char) : Text := key ++ fieldValue value stop

theorem ofLine_fieldLine (key value : Text) (stop : Char)
    (h : ∀ f ∈ Form.all, ¬ f.opening <+: key ∧ ¬ key <+: f.opening) :
    Directive.ofLine (fieldLine key value stop) = .content := Directive.ofLine_of_key _ h

theorem notMem_fieldLine {c stop : Char} {key value : Text} (hkey : c ∉ key ++ [' ', stop])
    (hvalue : c ∉ value) : c ∉ fieldLine key value stop := by
  simp only [fieldLine, fieldValue, List.mem_append, List.mem_cons, List.not_mem_nil, or_false,
    not_or] at hkey ⊢
  exact ⟨hkey.1, hkey.2.1, hvalue, hkey.2.2⟩

theorem counts_fieldLine {key value : Text} {stop : Char} (h : Frames (key ++ [' ']) [stop])
    (hvalue : '\n' ∉ value) : Counts (fieldLine key value stop) := by
  have hcounts := h.counts hvalue
  rwa [List.append_assoc] at hcounts

/-! ### Statements -/

/-- One thing that a script says. -/
inductive Statement where
  | valid
  | thumbnail (url : FieldText)
  | spawnX (x : SafeInt)
  | spawnY (y : SafeInt)
  | newBackground (id : PlainId)
  | newObject (id : PlainId)
  | backgroundTexture (id : PlainId) (url : FieldText)
  | objectX (id : PlainId) (x : SafeInt)
  | objectY (id : PlainId) (y : SafeInt)
  | objectTexture (id : PlainId) (url : FieldText)
  | size (id : PlainId) (word : SizeText)
  | gravity (id : PlainId) (literal : FiniteLiteral)
  | removeByClick (id : PlainId)
  | activate (id : PlainId)

namespace Statement

/-- The lines of a statement. -/
def lines : Statement → List Text
  | .valid => ["planets.push(new Planet);".toList]
  | .thumbnail url => ["planets.thumbnail() \x7b".toList, fieldLine "url:".toList url.text ';']
  | .spawnX x => ["planets.spawn \x7b".toList, fieldLine "x:".toList (Text.ofInt x.value) ',']
  | .spawnY y => ["planets.spawn \x7b".toList, fieldLine "y:".toList (Text.ofInt y.value) ';']
  | .newBackground id => [id.declaration "new Background:".toList]
  | .newObject id => [id.declaration "new Object:".toList]
  | .backgroundTexture id url =>
    [lineAbout "setTextureOf(Background) ".toList id.text [], fieldLine "url:".toList url.text ';']
  | .objectX id x =>
    [lineAbout "setPositionOf ".toList id.text [], fieldLine "x:".toList (Text.ofInt x.value) ',']
  | .objectY id y =>
    [lineAbout "setPositionOf ".toList id.text [], fieldLine "y:".toList (Text.ofInt y.value) ';']
  | .objectTexture id url =>
    [lineAbout "setTextureOf(Object) ".toList id.text [], fieldLine "url:".toList url.text ';']
  | .size id word => [lineAbout "setSizeOf ".toList id.text [], word.text ++ [';']]
  | .gravity id literal =>
    [lineAbout "propertiesOf ".toList id.text [], fieldLine "gravity:".toList literal.text ';']
  | .removeByClick id => [clickLine id.text, "remove(this);".toList]
  | .activate id => [lineAbout "switchBackgroundImgTo ".toList id.text [';']]

/-- The edit that a statement makes. -/
def edit : Statement → Edit
  | .valid => .validate
  | .thumbnail url => .thumbnail url.text
  | .spawnX x => .spawn (some (fieldValue (Text.ofInt x.value) ',')) none
  | .spawnY y => .spawn none (some (fieldValue (Text.ofInt y.value) ';'))
  | .newBackground id => .declareBackground id.text
  | .newObject id => .declareObject id.text
  | .backgroundTexture id url => .texture id.text (some .background) url.text
  | .objectX id x => .position id.text (some (fieldValue (Text.ofInt x.value) ',')) none
  | .objectY id y => .position id.text none (some (fieldValue (Text.ofInt y.value) ';'))
  | .objectTexture id url => .texture id.text (some .object) url.text
  | .size id word => .size id.text word.text
  | .gravity id literal => .gravity id.text (fieldValue literal.text ';')
  | .removeByClick id => .removeByClick id.text
  | .activate id => .activate id.text

/-! ### The lines count -/

theorem counts_declaration (id : PlainId) {opening : Text} (h : Frames opening [';']) :
    Counts (id.declaration opening) := h.counts (id.plain '\n' (by decide))

theorem counts_line (id : PlainId) {key closing : Text}
    (h : Frames (key ++ "with id \"".toList) ('\"' :: closing)) :
    Counts (lineAbout key id.text closing) := by
  have hcounts := h.counts (id.plain '\n' (by decide))
  rwa [List.append_assoc] at hcounts

theorem counts_clickLine (id : PlainId) : Counts (clickLine id.text) := by
  have hframes : Frames "Object:".toList ".onclick() \x7b".toList := by decide
  exact hframes.counts (id.plain '\n' (by decide))

theorem counts_size (word : SizeText) : Counts (word.text ++ [';']) where
  lineFeed := by
    rw [List.mem_append, not_or]
    exact ⟨word.lineFeed, by decide⟩
  trimmed := word.storable.trimmed.concat isBlank_semicolon
  ne_nil := List.append_ne_nil_of_right_ne_nil _ (List.cons_ne_nil _ _)

/-- **The lines of a statement count as they are written.** -/
theorem counts_of_mem_lines (s : Statement) : ∀ line ∈ s.lines, Counts line := by
  have hbefore : ∀ line content : Text, Counts line → Counts content →
      ∀ l ∈ [line, content], Counts l := by
    intro line content hline hcontent l hl
    rcases List.mem_pair.mp hl with rfl | rfl
    · exact hline
    · exact hcontent
  have hinteger : ∀ n : SafeInt, '\n' ∉ Text.ofInt n.value := fun n =>
    n.notMem (by decide) (by decide)
  cases s with
  | valid => exact List.forall_mem_singleton.mpr (by decide)
  | thumbnail url =>
    exact hbefore _ _ (by decide) (counts_fieldLine (by decide) url.lineFeed)
  | spawnX n | spawnY n =>
    exact hbefore _ _ (by decide) (counts_fieldLine (by decide) (hinteger n))
  | newBackground id | newObject id =>
    exact List.forall_mem_singleton.mpr (counts_declaration id (by decide))
  | backgroundTexture id url | objectTexture id url =>
    exact hbefore _ _ (counts_line id (by decide)) (counts_fieldLine (by decide) url.lineFeed)
  | objectX id n | objectY id n =>
    exact hbefore _ _ (counts_line id (by decide)) (counts_fieldLine (by decide) (hinteger n))
  | size id word => exact hbefore _ _ (counts_line id (by decide)) (counts_size word)
  | gravity id literal =>
    exact hbefore _ _ (counts_line id (by decide)) (counts_fieldLine (by decide) literal.lineFeed)
  | removeByClick id => exact hbefore _ _ (counts_clickLine id) (by decide)
  | activate id => exact List.forall_mem_singleton.mpr (counts_line id (by decide))

/-! ### The lines make the edit -/

section Run
variable (settings : Settings) (r : Reading)

theorem step_of_ofLine {line : Text} {d : Directive} (hd : Directive.ofLine line = d)
    (hne : d ≠ .content) : r.step settings line = r.directive d := by
  unfold Reading.step
  rw [hd]
  cases d <;> first | rfl | exact absurd rfl hne

theorem scene_run_line {line : Text} {e : Edit} (h : r.focus.edit? line = some e) :
    (Reading.run settings r [line]).scene = r.scene.edited settings.numberStyle e := by
  rw [Reading.run, List.foldl_cons, List.foldl_nil, Reading.step_of_edit? settings h]

/-- A line that opens a block, and one that makes an edit in it. -/
theorem scene_run_block {line content : Text} {d : Directive} {focus : Focus} {e : Edit}
    (hd : Directive.ofLine line = d) (hne : d ≠ .content)
    (hopens : (r.directive d).1 = ⟨r.scene, focus⟩) (h : focus.Makes content e) :
    (Reading.run settings r [line, content]).scene = r.scene.edited settings.numberStyle e := by
  have hedit : focus.edit? content = some e := Focus.edit?_eq_some_iff.mpr h
  rw [Reading.run, List.foldl_cons, step_of_ofLine settings r hd hne, hopens]
  exact scene_run_line settings ⟨r.scene, focus⟩ hedit

theorem url_fieldLine (url : FieldText) :
    (rest? "url:".toList (fieldLine "url:".toList url.text ';')).map stored = some url.text := by
  rw [fieldLine, rest?_append, Option.map_some]
  exact congrArg some url.storable.stored_blank_closed

theorem urlAfter_fieldLine (url : FieldText) :
    (restAfter? "url:".toList (fieldLine "url:".toList url.text ';')).map stored =
      some url.text := by
  rw [fieldLine, restAfter?_self (by decide), Option.map_some]
  exact congrArg some url.storable.stored_blank_closed

/-- A coordinate gives no other one. -/
theorem other_notMem_fieldLine {other stop : Char} {key : Text} (n : SafeInt)
    (hkey : other ∉ key ++ [' ', stop]) (hdigit : isAsciiDigit other = false)
    (hsign : other ≠ '-') : other ∉ fieldLine key (Text.ofInt n.value) stop :=
  notMem_fieldLine hkey (n.notMem hdigit hsign)

/-- **Wherever a statement stands, its lines make its edit.** -/
theorem scene_run (s : Statement) :
    (Reading.run settings r s.lines).scene = r.scene.edited settings.numberStyle s.edit := by
  have hurl : ∀ value, Directive.ofLine (fieldLine "url:".toList value ';') = .content :=
    fun value => ofLine_fieldLine "url:".toList value ';' (by decide)
  have hx : ∀ value, Directive.ofLine (fieldLine "x:".toList value ',') = .content :=
    fun value => ofLine_fieldLine "x:".toList value ',' (by decide)
  have hy : ∀ value, Directive.ofLine (fieldLine "y:".toList value ';') = .content :=
    fun value => ofLine_fieldLine "y:".toList value ';' (by decide)
  have hnoY : ∀ x : SafeInt, 'y' ∉ fieldLine "x:".toList (Text.ofInt x.value) ',' := fun x =>
    other_notMem_fieldLine x (by decide) (by decide) (by decide)
  have hnoX : ∀ y : SafeInt, 'x' ∉ fieldLine "y:".toList (Text.ofInt y.value) ';' := fun y =>
    other_notMem_fieldLine y (by decide) (by decide) (by decide)
  cases s with
  | valid =>
    have hline : Directive.ofLine "planets.push(new Planet);".toList = .signature := by decide
    exact scene_run_line settings r (Focus.edit?_eq_some_iff.mpr hline)
  | thumbnail url =>
    have hline : Directive.ofLine "planets.thumbnail() \x7b".toList = .thumbnail := by decide
    exact scene_run_block settings r hline nofun rfl ⟨hurl _, rfl, url_fieldLine url⟩
  | spawnX x =>
    have hline : Directive.ofLine "planets.spawn \x7b".toList = .spawn := by decide
    exact scene_run_block settings r hline nofun rfl
      ⟨hx _, rfl, (rest?_append _ _).symm, (rest?_of_notMem (hnoY x)).symm⟩
  | spawnY y =>
    have hline : Directive.ofLine "planets.spawn \x7b".toList = .spawn := by decide
    exact scene_run_block settings r hline nofun rfl
      ⟨hy _, rfl, (rest?_of_notMem (hnoX y)).symm, (rest?_append _ _).symm⟩
  | newBackground id =>
    exact scene_run_line settings r (Focus.edit?_eq_some_iff.mpr id.ofLine_newBackground)
  | newObject id =>
    exact scene_run_line settings r (Focus.edit?_eq_some_iff.mpr id.ofLine_newObject)
  | backgroundTexture id url =>
    exact scene_run_block settings r id.quotable.ofLine_backgroundTexture nofun rfl
      ⟨hurl _, rfl, rfl, rfl, urlAfter_fieldLine url⟩
  | objectX id x =>
    exact scene_run_block settings r id.quotable.ofLine_position nofun rfl
      ⟨hx _, rfl, rfl, (restAfter?_self (by decide) _).symm, (restAfter?_of_notMem (hnoY x)).symm,
        Or.inl rfl⟩
  | objectY id y =>
    exact scene_run_block settings r id.quotable.ofLine_position nofun rfl
      ⟨hy _, rfl, rfl, (restAfter?_of_notMem (hnoX y)).symm, (restAfter?_self (by decide) _).symm,
        Or.inr rfl⟩
  | objectTexture id url =>
    exact scene_run_block settings r id.ofLine_objectTexture nofun rfl
      ⟨hurl _, rfl, rfl, rfl, urlAfter_fieldLine url⟩
  | size id word =>
    exact scene_run_block settings r id.quotable.ofLine_size nofun rfl
      ⟨word.content, rfl, rfl, word.storable.stored_closed.symm⟩
  | gravity id literal =>
    have hline := ofLine_fieldLine "gravity:".toList literal.text ';' (by decide)
    exact scene_run_block settings r id.quotable.ofLine_properties nofun rfl
      ⟨hline, rfl, rfl, rest?_append _ _⟩
  | removeByClick id =>
    have hline : Directive.ofLine "remove(this);".toList = .remove := by decide
    exact scene_run_block settings r id.ofLine_click nofun rfl ⟨hline, rfl, rfl⟩
  | activate id =>
    exact scene_run_line settings r (Focus.edit?_eq_some_iff.mpr id.quotable.ofLine_switch)

/-- Statements make their edits one after the other. -/
theorem scene_run_flatMap (ss : List Statement) :
    (Reading.run settings r (ss.flatMap lines)).scene =
      (ss.map edit).foldl (Scene.edited settings.numberStyle) r.scene := by
  induction ss generalizing r with
  | nil => rfl
  | cons s ss ih =>
    have hsplit : Reading.run settings r ((s :: ss).flatMap lines) =
        Reading.run settings (Reading.run settings r s.lines) (ss.flatMap lines) := by
      rw [List.flatMap_cons]
      exact List.foldl_append
    rw [hsplit, ih, scene_run, List.map_cons, List.foldl_cons]

end Run

/-- The script of some statements. -/
def script (ss : List Statement) : Text := ['\n'].intercalate (ss.flatMap lines)

theorem contentLines_script (ss : List Statement) :
    contentLines (script ss) = ss.flatMap lines := by
  refine contentLines_of_counts fun line hline => ?_
  obtain ⟨s, -, hmem⟩ := List.mem_flatMap.mp hline
  exact s.counts_of_mem_lines line hmem

/-- **A script of statements describes what their edits make of the empty scene.** -/
theorem ofScript_script (settings : Settings) (ss : List Statement) :
    Scene.ofScript settings (script ss) =
      (ss.map edit).foldl (Scene.edited settings.numberStyle) {} := by
  rw [Scene.ofScript, contentLines_script]
  exact scene_run_flatMap settings {} ss

end Statement
end PlanetScript
