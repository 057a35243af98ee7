import PlanetScript.Proofs.Script.Classifying
import PlanetScript.Proofs.Script.Statement
import PlanetScript.Proofs.Session.Missing

/-! # The texts that a scene keeps

A scene keeps texts in a few places: the thumbnail, the textures, the sizes and the ids that were
declared (`TextSlot`).  Each of them is what is stored of the text that a line gave to its slot last
(`Describes.textAt?_eq_some_iff`).  So no blank stands at either end of it, and a semicolon ends it
only if blanks parted the semicolons that closed the given text.

A text that ends in no semicolon can be written back: on the line that gives it to its slot, where
the block of the slot is open, it is stored as it was (`Describes.textAt?_written`).  One size
cannot, for the line that would give it is the signature
(`Directive.ofLine_closed_of_content`).
-/
namespace PlanetScript
open Text

/-! ### Slots -/

/-- A place of a scene where a text is kept. -/
inductive TextSlot where
  | thumbnail
  | texture (kind : Kind) (id : Text)
  | size (id : Text)
  /-- The id itself of an object or background. -/
  | declared (kind : Kind) (id : Text)
deriving DecidableEq

/-- The text that a scene keeps in a slot. -/
def Scene.textAt? (scene : Scene) : TextSlot → Option Text
  | .thumbnail => some scene.thumbnail
  | .texture .object id => (scene.objects.get? id).map (·.texture)
  | .texture .background id => (scene.backgrounds.get? id).map (·.texture)
  | .size id => (scene.objects.get? id).map (·.size)
  | .declared .object id => if scene.objects.contains id then some id else none
  | .declared .background id => if scene.backgrounds.contains id then some id else none

/-- The form of the lines that declare a kind. -/
def Kind.declaration : Kind → Form
  | .object => .newObject
  | .background => .newBackground

namespace TextSlot

/-- Whether some line declares what a slot belongs to. -/
def DeclaredIn (lines : List Text) : TextSlot → Prop
  | .thumbnail => True
  | .texture kind id | .declared kind id => Declares lines id (some kind)
  | .size id => Declares lines id (some .object)

/-- Whether a line that stands behind some lines is a field of the slot.  A declaration can stand
anywhere. -/
def OpenAfter (scope : BlockScope) (lines : List Text) : TextSlot → Prop
  | .thumbnail => openBlock? scope lines = some .thumbnail
  | .texture kind id => openBlock? scope lines = some .texture ∧ currentId? lines = some id ∧
      (currentKind? lines).or (declaredKind? lines id) = some kind ∧ Declares lines id (some kind)
  | .size id => openBlock? scope lines = some .size ∧ currentId? lines = some id ∧
      Declares lines id (some .object)
  | .declared _ _ => True

/-- The line that gives a text to a slot. -/
def line (text : Text) : TextSlot → Text
  | .thumbnail | .texture _ _ => fieldLine "url:".toList text ';'
  | .size _ => text ++ [';']
  | .declared kind _ => kind.declaration.opening ++ (text ++ [';'])

end TextSlot

/-! ### What a place gives to a slot -/

theorem Text.stored_getD (given : Option Text) :
    stored (given.getD []) = (given.map stored).getD [] := by
  cases given <;> rfl

namespace Place
variable (scope : BlockScope) (p : Place)

/-- What a place gives to the texture of a background, as it stands in the line; a declaration gives
the empty text. -/
def backgroundText? (id : Text) : Option Text :=
  if p.directive = .newBackground (some id) then some []
  else if DeclaresBackground p.before id ∧ (p.focus scope).id = some id ∧
      p.textureKind? scope id = some .background then
    p.given? scope .texture (restAfter? "url:".toList)
  else none

/-- The text before a colon that a place declares an id by. -/
def declaredText? (kind : Kind) (id : Text) : Option Text :=
  if kind.declaration.declared? p.line = some id then
    (rest? kind.declaration.opening p.line).map fun rest => rest.takeWhile (· != ':')
  else none

/-- What a place gives to a slot, as it stands in the line. -/
def text? : TextSlot → Option Text
  | .thumbnail => p.given? scope .thumbnail (rest? "url:".toList)
  | .texture .object id => p.objectTexture? scope id
  | .texture .background id => p.backgroundText? scope id
  | .size id => p.givenTo? scope id .size some
  | .declared kind id => p.declaredText? kind id

variable {scope p}

theorem backgroundTexture?_eq (id : Text) :
    p.backgroundTexture? scope id = (p.backgroundText? scope id).map stored := by
  unfold backgroundTexture? backgroundText?
  split
  · rfl
  · split <;> rfl

theorem given?_eq_some_iff {α : Type} {block : Block} {read : Text → Option α} {v : α} :
    p.given? scope block read = some v ↔
      (p.directive = .content ∧ (p.focus scope).block = some block) ∧ read p.line = some v :=
  Option.ite_none_right_eq_some

theorem givenTo?_eq_some_iff {α : Type} {id : Text} {block : Block} {read : Text → Option α}
    {v : α} :
    p.givenTo? scope id block read = some v ↔
      (DeclaresObject p.before id ∧ (p.focus scope).id = some id) ∧
        p.given? scope block read = some v :=
  Option.ite_none_right_eq_some

theorem declaredText?_eq_some_iff {kind : Kind} {id raw : Text} :
    p.declaredText? kind id = some raw ↔ ∃ rest, rest? kind.declaration.opening p.line = some rest ∧
      rest.takeWhile (· != ':') = raw ∧ stored raw = id ∧ id ≠ [] := by
  unfold declaredText? Form.declared?
  cases rest? kind.declaration.opening p.line with
  | none => simp
  | some rest =>
    simp only [Option.bind_some, Option.map_some, newId?, nonEmpty?_eq_some_iff,
      Option.ite_none_right_eq_some, Option.some_inj]
    constructor
    · rintro ⟨⟨hid, hne⟩, rfl⟩
      exact ⟨rest, rfl, rfl, hid, hne⟩
    · rintro ⟨_, rfl, rfl, hid, hne⟩
      exact ⟨⟨hid, hne⟩, rfl⟩

/-- Where the block of a texture is open, content gives what stands behind the key. -/
theorem text?_texture {kind : Kind} {id : Text} (hd : p.directive = .content)
    (hopen : (TextSlot.texture kind id).OpenAfter scope p.before) :
    p.text? scope (.texture kind id) = restAfter? "url:".toList p.line := by
  obtain ⟨hblock, hid, hkind, hdeclared⟩ := hopen
  have hgiven : p.given? scope .texture (restAfter? "url:".toList) =
      restAfter? "url:".toList p.line := if_pos ⟨hd, hblock⟩
  cases kind with
  | object => exact (if_pos hkind).trans ((if_pos ⟨hdeclared, hid⟩).trans hgiven)
  | background =>
    have hdeclares : p.directive ≠ .newBackground (some id) := by
      rw [hd]
      exact nofun
    rw [text?, backgroundText?, if_neg hdeclares, if_pos ⟨hdeclared, hid, hkind⟩, hgiven]

/-- What a place gives stands in its line. -/
theorem infix_of_text? {slot : TextSlot} {raw : Text} (h : p.text? scope slot = some raw) :
    raw <:+: p.line := by
  cases slot with
  | thumbnail => exact infix_of_rest? (given?_eq_some_iff.mp h).2
  | texture kind id =>
    cases kind with
    | object =>
      obtain ⟨-, hgiven⟩ := Option.ite_none_right_eq_some.mp h
      exact infix_of_restAfter? (given?_eq_some_iff.mp (givenTo?_eq_some_iff.mp hgiven).2).2
    | background =>
      simp only [text?, backgroundText?] at h
      split at h
      · cases h
        exact List.nil_infix
      · obtain ⟨-, hgiven⟩ := Option.ite_none_right_eq_some.mp h
        exact infix_of_restAfter? (given?_eq_some_iff.mp hgiven).2
  | size id =>
    cases (given?_eq_some_iff.mp (givenTo?_eq_some_iff.mp h).2).2
    exact List.infix_rfl
  | declared kind id =>
    obtain ⟨rest, hrest, rfl, -, -⟩ := declaredText?_eq_some_iff.mp h
    exact (List.takeWhile_prefix _).isInfix.trans (infix_of_rest? hrest)

end Place

/-! ### What a scene keeps -/

namespace TextSlot
variable {scope : BlockScope} {lines : List Text} {slot : TextSlot}

/-- The text that was given to a slot last, or the empty text if none was. -/
def given (scope : BlockScope) (lines : List Text) (slot : TextSlot) : Text :=
  (lastGiven (·.text? scope slot) lines).getD []

/-- A text that was given stands in a line. -/
theorem given_eq_nil_or (scope : BlockScope) (lines : List Text) (slot : TextSlot) :
    slot.given scope lines = [] ∨
      ∃ p ∈ places lines, p.text? scope slot = some (slot.given scope lines) := by
  unfold given
  cases hlast : lastGiven (·.text? scope slot) lines with
  | none => exact Or.inl rfl
  | some raw => exact Or.inr (exists_place_of_lastGiven _ hlast)

end TextSlot

theorem declares_iff {lines : List Text} {kind : Kind} {id : Text} :
    Declares lines id (some kind) ↔ ∃ line ∈ lines, kind.declaration.declared? line = some id := by
  cases kind with
  | object =>
    simp only [Declares, DeclaresObject, Directive.ofLine_eq_newObject_iff, Kind.declaration]
  | background =>
    simp only [Declares, DeclaresBackground, Directive.ofLine_eq_newBackground_iff,
      Kind.declaration]

/-- What is stored of the text that an id was declared by is the id. -/
theorem stored_given_declared (scope : BlockScope) {lines : List Text} {kind : Kind} {id : Text}
    (h : Declares lines id (some kind)) :
    stored ((TextSlot.declared kind id).given scope lines) = id := by
  obtain ⟨line, hline, hdeclared⟩ := declares_iff.mp h
  obtain ⟨before, after, hsplit⟩ := List.append_of_mem hline
  have hplace : (⟨before, line⟩ : Place) ∈ places lines := mem_places_iff.mpr ⟨after, hsplit⟩
  have htext : ∃ raw, (⟨before, line⟩ : Place).text? scope (.declared kind id) = some raw := by
    obtain ⟨rest, hrest, -⟩ := Option.bind_eq_some_iff.mp hdeclared
    exact ⟨rest.takeWhile (· != ':'), by
      rw [Place.text?, Place.declaredText?, if_pos hdeclared, hrest]; rfl⟩
  obtain ⟨raw, hraw⟩ := htext
  obtain ⟨last, hlast⟩ := exists_lastGiven_of_place (·.text? scope (.declared kind id)) hplace hraw
  obtain ⟨p, -, hp⟩ := exists_place_of_lastGiven _ hlast
  obtain ⟨-, -, -, hid, -⟩ := Place.declaredText?_eq_some_iff.mp hp
  rw [TextSlot.given, hlast]
  exact hid

theorem texture_backgroundOf (settings : Settings) (lines : List Text) (id : Text) :
    (backgroundOf settings lines id).texture =
      stored ((TextSlot.texture .background id).given settings.blockScope lines) := by
  rw [TextSlot.given, stored_getD, ← lastGiven_map]
  simp only [backgroundOf, Place.backgroundTexture?_eq, Place.text?]

namespace Describes
variable {settings : Settings} {lines : List Text} {scene : Scene}

theorem map_objects_eq_some_iff (h : Describes settings lines scene) {id text : Text}
    {field : Object → Text} :
    (scene.objects.get? id).map field = some text ↔
      DeclaresObject lines id ∧ text = field (objectOf settings lines id) := by
  rw [h.objects id]
  by_cases hd : DeclaresObject lines id
  · simp [hd, eq_comm]
  · simp [hd]

theorem map_backgrounds_eq_some_iff (h : Describes settings lines scene) {id text : Text}
    {field : Background → Text} :
    (scene.backgrounds.get? id).map field = some text ↔
      DeclaresBackground lines id ∧ text = field (backgroundOf settings lines id) := by
  rw [h.backgrounds id]
  by_cases hd : DeclaresBackground lines id
  · simp [hd, eq_comm]
  · simp [hd]

/-- **What a scene keeps in a slot is what is stored of the text that was given to it last.** -/
theorem textAt?_eq_some_iff (h : Describes settings lines scene) {slot : TextSlot} {text : Text} :
    scene.textAt? slot = some text ↔
      slot.DeclaredIn lines ∧ text = stored (slot.given settings.blockScope lines) := by
  cases slot with
  | thumbnail =>
    rw [Scene.textAt?, h.thumbnail, ← stored_getD, Option.some_inj, eq_comm]
    exact (and_iff_right trivial).symm
  | texture kind id =>
    cases kind with
    | object =>
      rw [Scene.textAt?, h.map_objects_eq_some_iff, TextSlot.given, stored_getD]
      rfl
    | background =>
      rw [Scene.textAt?, h.map_backgrounds_eq_some_iff, texture_backgroundOf]
      rfl
  | size id =>
    rw [Scene.textAt?, h.map_objects_eq_some_iff, TextSlot.given, stored_getD]
    rfl
  | declared kind id =>
    have hhas : scene.textAt? (.declared kind id) = some text ↔
        Declares lines id (some kind) ∧ text = id := by
      rw [← h.has_iff id (some kind)]
      cases kind <;> exact Option.ite_none_right_eq_some.trans
        (and_congr_right fun _ => by rw [Option.some_inj, eq_comm])
    rw [hhas]
    refine and_congr_right fun hdeclares => ?_
    rw [stored_given_declared _ hdeclares]

end Describes

/-! ### Writing a text back -/

/-- **What is stored of a content line is content when a semicolon closes it, unless that makes it
the signature.** -/
theorem Directive.ofLine_closed_of_content {line : Text} (hline : Trimmed line)
    (h : Directive.ofLine line = .content) (hne : stored line ≠ "planets.push(new Planet)".toList) :
    Directive.ofLine (stored line ++ [';']) = .content := by
  by_contra hclosed
  obtain ⟨f, haccepts, -⟩ := Directive.exists_form_of_ofLine rfl hclosed
  have hsignature : f ≠ .signature := by
    rintro rfl
    have hwhole : stored line ++ [';'] = "planets.push(new Planet)".toList ++ [';'] :=
      of_decide_eq_true haccepts
    exact hne (List.append_cancel_right hwhole)
  -- the form that accepts the closed line would accept the line that it was stored from
  have hprefix : stored line <+: line := by
    have htrim := stored_prefix_trim line
    rwa [hline.trim_eq] at htrim
  have hself : f.accepts line = true :=
    Form.accepts_of_prefix hsignature hprefix (Form.accepts_of_accepts_closed hsignature haccepts)
  have hnone : Form.of? line = none := by
    rw [← Directive.form?_ofLine, h]
    rfl
  cases hnone.symm.trans (Form.of?_eq_some_iff.mpr hself)

namespace TextSlot

theorem lineFeed_notMem_given {scope : BlockScope} {lines : List Text} {slot : TextSlot}
    (hlines : ∀ line ∈ lines, Counts line) : '\n' ∉ slot.given scope lines := by
  rcases slot.given_eq_nil_or scope lines with hnil | ⟨p, hp, hgiven⟩
  · rw [hnil]
    exact List.not_mem_nil
  · exact fun hfeed => (hlines _ (line_mem_of_mem_places hp)).lineFeed
      ((Place.infix_of_text? hgiven).subset hfeed)

/-- The text that was given for a size is a content line. -/
theorem ofLine_closed_size {scope : BlockScope} {lines : List Text} {id : Text}
    (hlines : ∀ line ∈ lines, Counts line)
    (hne : stored ((size id).given scope lines) ≠ "planets.push(new Planet)".toList) :
    Directive.ofLine (stored ((size id).given scope lines) ++ [';']) = .content := by
  rcases (size id).given_eq_nil_or scope lines with hnil | ⟨p, hp, hgiven⟩
  · rw [hnil]
    decide
  · obtain ⟨⟨hcontent, -⟩, hline⟩ :=
      Place.given?_eq_some_iff.mp (Place.givenTo?_eq_some_iff.mp hgiven).2
    rw [← Option.some.inj hline] at hne ⊢
    exact Directive.ofLine_closed_of_content (hlines _ (line_mem_of_mem_places hp)).trimmed hcontent
      hne

/-- A text that the line of a slot can give to it. -/
structure Writable (slot : TextSlot) (text : Text) : Prop where
  storable : Storable text
  lineFeed : '\n' ∉ text
  size : ∀ id, slot = .size id → Directive.ofLine (text ++ [';']) = .content
  declared : ∀ kind id, slot = .declared kind id → text = id ∧ id ≠ [] ∧ ':' ∉ id

namespace Writable
variable {slot : TextSlot} {text : Text} {scope : BlockScope} {before : List Text}

/-- The line of a slot counts as it is written. -/
theorem counts (h : slot.Writable text) : Counts (slot.line text) := by
  cases slot with
  | thumbnail | texture => exact counts_fieldLine (by decide) h.lineFeed
  | size id => exact Statement.counts_size ⟨⟨text, h.storable, h.lineFeed⟩, h.size id rfl⟩
  | declared kind id =>
    have hframes : Frames kind.declaration.opening [';'] := by cases kind <;> decide
    exact hframes.counts h.lineFeed

/-- What the line of a slot gives is stored as the text. -/
theorem text?_line (h : slot.Writable text) (hopen : slot.OpenAfter scope before) :
    ((⟨before, slot.line text⟩ : Place).text? scope slot).map stored = some text := by
  cases slot with
  | thumbnail =>
    have hcontent := ofLine_fieldLine "url:".toList text ';' (by decide)
    have hgiven : (⟨before, TextSlot.thumbnail.line text⟩ : Place).text? scope .thumbnail =
        rest? "url:".toList (fieldLine "url:".toList text ';') := if_pos ⟨hcontent, hopen⟩
    rw [hgiven]
    exact Statement.url_fieldLine ⟨text, h.storable, h.lineFeed⟩
  | texture kind id =>
    have hcontent : (⟨before, fieldLine "url:".toList text ';'⟩ : Place).directive = .content :=
      ofLine_fieldLine _ _ _ (by decide)
    rw [line, Place.text?_texture hcontent hopen]
    exact Statement.urlAfter_fieldLine ⟨text, h.storable, h.lineFeed⟩
  | size id =>
    obtain ⟨hblock, hid, hdeclared⟩ := hopen
    have hgiven : (⟨before, (TextSlot.size id).line text⟩ : Place).text? scope (.size id) =
        some (text ++ [';']) :=
      (if_pos ⟨hdeclared, hid⟩).trans (if_pos ⟨h.size id rfl, hblock⟩)
    rw [hgiven, Option.map_some, h.storable.stored_closed]
  | declared kind id =>
    obtain ⟨rfl, hne, hcolon⟩ := h.declared kind id rfl
    have hrest : rest? kind.declaration.opening ((TextSlot.declared kind text).line text) =
        some (text ++ [';']) := rest?_append _ _
    have hgiven : (⟨before, (TextSlot.declared kind text).line text⟩ : Place).text? scope
        (.declared kind text) = some (text ++ [';']) :=
      Place.declaredText?_eq_some_iff.mpr ⟨_, hrest, takeWhile_colon_closed hcolon,
        h.storable.stored_closed, hne⟩
    rw [hgiven, Option.map_some, h.storable.stored_closed]

/-- Behind the line of a slot, the slot is declared. -/
theorem declaredIn (h : slot.Writable text) (hopen : slot.OpenAfter scope before)
    (after : List Text) : slot.DeclaredIn (before ++ slot.line text :: after) := by
  have hdeclares : ∀ id kind, Declares before id (some kind) →
      Declares (before ++ slot.line text :: after) id (some kind) := by
    intro id kind hbefore
    obtain ⟨line, hline, hdeclared⟩ := declares_iff.mp hbefore
    exact declares_iff.mpr ⟨line, List.mem_append_left _ hline, hdeclared⟩
  cases slot with
  | thumbnail => exact trivial
  | texture kind id => exact hdeclares id kind hopen.2.2.2
  | size id => exact hdeclares id .object hopen.2.2
  | declared kind id =>
    obtain ⟨rfl, hne, hcolon⟩ := h.declared kind id rfl
    refine declares_iff.mpr ⟨_, List.mem_append_right _ List.mem_cons_self, ?_⟩
    rw [Form.declared?, line, rest?_append, Option.bind_some]
    exact newId?_closed h.storable hne hcolon

end Writable
end TextSlot

namespace Describes
variable {settings : Settings} {lines : List Text} {scene : Scene} {slot : TextSlot} {text : Text}

/-- A stored text can be given by the line of its slot if it ends in no semicolon; the signature
without its semicolon is no size. -/
theorem writable (h : Describes settings lines scene) (hlines : ∀ line ∈ lines, Counts line)
    (htext : scene.textAt? slot = some text) (hstorable : Storable text)
    (hsize : ∀ id, slot = .size id → text ≠ "planets.push(new Planet)".toList) :
    slot.Writable text := by
  obtain ⟨hdeclared, rfl⟩ := h.textAt?_eq_some_iff.mp htext
  refine ⟨hstorable, fun hfeed => ?_, ?_, ?_⟩
  · exact TextSlot.lineFeed_notMem_given hlines (mem_of_mem_stored hfeed)
  · rintro id rfl
    exact TextSlot.ofLine_closed_size hlines (hsize id rfl)
  · rintro kind id rfl
    have hid := stored_given_declared settings.blockScope hdeclared
    obtain ⟨line, -, hline⟩ := declares_iff.mp hdeclared
    exact ⟨hid, Form.ne_nil_and_notMem_of_declared? hline⟩

/-- **On the line of its slot a text is stored as it is, if nothing is given to the slot later.** -/
theorem textAt?_written {before after : List Text}
    (h : Describes settings (before ++ slot.line text :: after) scene)
    (hwritable : slot.Writable text) (hopen : slot.OpenAfter settings.blockScope before)
    (hlast : ∀ p ∈ placesBehind (before ++ [slot.line text]) after,
      p.text? settings.blockScope slot = none) :
    scene.textAt? slot = some text := by
  obtain ⟨raw, hraw, hstored⟩ := Option.map_eq_some_iff.mp (hwritable.text?_line hopen)
  have hgiven : lastGiven (·.text? settings.blockScope slot) (before ++ slot.line text :: after) =
      some raw := (lastGiven_eq_some_iff _).mpr ⟨before, _, after, rfl, hraw, hlast⟩
  refine h.textAt?_eq_some_iff.mpr ⟨hwritable.declaredIn hopen after, ?_⟩
  rw [TextSlot.given, hgiven]
  exact hstored.symm

end Describes

namespace Session

/-- **A text that a scene keeps is what is stored of the text that its slot was given last.**  No
blank stands at either end of it, and no semicolon ends it unless the closing semicolons of the
given text are parted; what is stored of the text is the text again if and only if no semicolon
ends it.  Then the line of its slot gives it back, in every script where the block of the slot is
open before the line and the slot is given nothing later; the signature without its semicolon is the
one size that has no line. -/
theorem texts_read (s : Session) (script : Text) {slot : TextSlot} {text : Text}
    (h : (s.read script).scene.textAt? slot = some text) :
    let given := slot.given s.settings.blockScope (contentLines script)
    text = stored given ∧ Trimmed text ∧ (¬ PartedEnd given → Storable text) ∧
      (stored text = text ↔ Storable text) ∧
      (Storable text → (∀ id, slot = .size id → text ≠ "planets.push(new Planet)".toList) →
        Counts (slot.line text) ∧
          ∀ (t : Session) (before after : Text),
            slot.OpenAfter t.settings.blockScope (contentLines before) →
            (∀ p ∈ placesBehind (contentLines before ++ [slot.line text]) (contentLines after),
              p.text? t.settings.blockScope slot = none) →
            (t.read (before ++ '\n' :: (slot.line text ++ '\n' :: after))).scene.textAt? slot =
              some text) := by
  have hdescribes := s.describes_read script
  obtain ⟨-, hstored⟩ := hdescribes.textAt?_eq_some_iff.mp h
  refine ⟨hstored, hstored ▸ trimmed_stored _, ?_, stored_eq_self_iff, fun hstorable hsize => ?_⟩
  · intro hparted
    rw [hstored]
    exact storable_stored_iff.mpr hparted
  · have hwritable := hdescribes.writable (fun _ => counts_of_mem_contentLines) h hstorable hsize
    refine ⟨hwritable.counts, fun t before after hopen hlast => ?_⟩
    have hlines : contentLines (before ++ '\n' :: (slot.line text ++ '\n' :: after)) =
        contentLines before ++ slot.line text :: contentLines after := by
      rw [contentLines_append_lineFeed, contentLines_append_lineFeed,
        hwritable.counts.contentLines, List.singleton_append]
    have hread := t.describes_read (before ++ '\n' :: (slot.line text ++ '\n' :: after))
    rw [hlines] at hread
    exact hread.textAt?_written hwritable hopen hlast

/-- A size that two semicolons close, written back behind another size. -/
theorem texts_read_size :
    let declared := "new Object:o;\nsetSizeOf with id \"o\"\n".toList
    let script := declared ++ " small ;;".toList
    let before := declared ++ "big".toList
    let after := "new Object:p;".toList
    let slot := TextSlot.size "o".toList
    let word := "small".toList
    (read {} script).scene.textAt? slot = some word ∧
      ¬ PartedEnd (slot.given .sticky (contentLines script)) ∧ Storable word ∧
      word ≠ "planets.push(new Planet)".toList ∧
      slot.OpenAfter .sticky (contentLines before) ∧
      (∀ p ∈ placesBehind (contentLines before ++ [slot.line word]) (contentLines after),
        p.text? .sticky slot = none) ∧
      (read {} (before ++ '\n' :: (slot.line word ++ '\n' :: after))).scene.textAt? slot =
        some word := by
  intro declared script before after slot word
  have hkept : (read {} script).scene.textAt? slot = some word := by decide
  have hparted : ¬ PartedEnd (slot.given .sticky (contentLines script)) := by decide
  have hne : word ≠ "planets.push(new Planet)".toList := by decide
  have hopen : slot.OpenAfter .sticky (contentLines before) :=
    ⟨by decide, by decide, ⟨"new Object:o;".toList, by decide, by decide⟩⟩
  have hlast : ∀ p ∈ placesBehind (contentLines before ++ [slot.line word]) (contentLines after),
      p.text? .sticky slot = none := by decide
  obtain ⟨-, -, hstorable, -, hwritten⟩ := texts_read {} script hkept
  exact ⟨hkept, hparted, hstorable hparted, hne, hopen, hlast,
    (hwritten (hstorable hparted) fun _ _ => hne).2 {} before after hopen hlast⟩

/-- A size whose closing semicolons are parted keeps one of them and is not stored as it is when it
is written back; nor is the signature without its semicolon, which is a size until it has one. -/
theorem size_of_parted_semicolons :
    let declared := "new Object:o;\nsetSizeOf with id \"o\"\n".toList
    let sizeOf := fun line : Text => (read {} (declared ++ line)).scene.textAt? (.size "o".toList)
    let signature := "planets.push(new Planet)".toList
    (sizeOf "small ; ;".toList = some "small ;".toList ∧
        stored "small ;".toList ≠ "small ;".toList ∧
        sizeOf ("small ;".toList ++ [';']) = some "small".toList) ∧
      sizeOf signature = some signature ∧ stored signature = signature ∧
        sizeOf (signature ++ [';']) = some [] := by decide

end Session
end PlanetScript
