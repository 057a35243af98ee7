import Mathlib.Data.List.Infix
import PlanetScript.Proofs.Script.Forms
import PlanetScript.Proofs.Text.Trimmed

/-! # How lines name an id

An id stands in a line in one of three places: behind the opening of a declaration, up to a
point in a click block, or in quotes behind the words `with id`.  In quotes an id is found
exactly as it was written, if it has no quote itself (`Quotable.quotedId?_lineAbout`).  A click
block is about the part of the id before its first point (`ofLine_clickLine`), and a texture line
that names the kind of an object names the other kind if its id does
(`Quotable.ofLine_objectTexture`).

A plain id has none of the characters that make a difference, so it is found in each of the
places exactly as it was written, and it never makes a texture line name another kind.
-/
namespace PlanetScript
open Text

/-! ### Finding a key -/

namespace Text
variable {c k : Char} {key t s : Text}

/-- A key is not found where its first character is missing. -/
theorem restAfter?_append (h : k ∉ t) :
    restAfter? (k :: key) (t ++ s) = restAfter? (k :: key) s := by
  induction t with
  | nil => rfl
  | cons c t ih =>
    rw [List.mem_cons, not_or] at h
    have hrest : rest? (k :: key) (c :: (t ++ s)) = none := if_neg h.1
    rw [List.cons_append, restAfter?, hrest]
    exact ih h.2

theorem restAfter?_of_notMem (h : k ∉ t) : restAfter? (k :: key) t = none := by
  rw [← List.append_nil t, restAfter?_append h]
  rfl

theorem rest?_of_notMem (h : k ∉ t) : rest? (k :: key) t = none := by
  cases t with
  | nil => rfl
  | cons c t =>
    rw [List.mem_cons, not_or] at h
    exact if_neg h.1

/-- A key is found first where the text starts with it. -/
theorem restAfter?_self (hkey : key ≠ []) (t : Text) : restAfter? key (key ++ t) = some t := by
  obtain ⟨k, key, rfl⟩ := List.exists_cons_of_ne_nil hkey
  rw [List.cons_append, restAfter?, ← List.cons_append, rest?_append]

/-- What stands behind a key is a piece of the text. -/
theorem infix_of_rest? {rest : Text} (h : rest? key t = some rest) : rest <:+: t := by
  rw [rest?_eq_some_iff.mp h]
  exact (List.suffix_append key rest).isInfix

theorem infix_of_restAfter? {rest : Text} (h : restAfter? key t = some rest) :
    rest <:+: t := by
  induction t with
  | nil => exact infix_of_rest? h
  | cons c t ih =>
    rw [restAfter?] at h
    cases hrest : rest? key (c :: t) with
    | some found =>
      rw [hrest] at h
      exact infix_of_rest? (hrest.trans h)
    | none =>
      rw [hrest] at h
      exact List.infix_cons (ih h)

/-- A key occurs in a text if it is a piece of the text. -/
theorem contains_iff_piece : contains key t = true ↔ key <:+: t := by
  have hstart : ∀ t : Text, (rest? key t).isSome = true ↔ key <+: t := by
    intro t
    refine startsWith_iff.trans ?_
    simp only [List.IsPrefix, eq_comm]
  induction t with
  | nil =>
    rw [contains, restAfter?, hstart, List.prefix_nil, List.infix_nil]
  | cons c t ih =>
    rw [List.infix_cons_iff, ← hstart, iff_comm.mp ih, contains, contains, restAfter?]
    cases rest? key (c :: t) with
    | none => simp
    | some rest => simp

theorem contains_append_self (key t s : Text) : contains key (t ++ (key ++ s)) = true := by
  rw [contains_iff_piece, ← List.append_assoc]
  exact List.infix_append t key s

/-- A character behind a text that a key does not have makes no difference. -/
theorem contains_concat (hkey : key ≠ []) (h : c ∉ key) :
    contains key (t ++ [c]) = contains key t := by
  rw [Bool.eq_iff_iff, contains_iff_piece, contains_iff_piece, List.infix_concat_iff]
  constructor
  · rintro (hend | hpiece)
    · -- a key at the very end would have the character
      obtain ⟨init, last, rfl⟩ := (List.eq_nil_or_concat key).resolve_left hkey
      obtain ⟨before, hbefore⟩ := hend
      rw [List.concat_eq_append, ← List.append_assoc] at hbefore
      obtain ⟨-, hlast⟩ := List.append_inj' hbefore rfl
      exact absurd (by simp [List.cons.inj hlast]) h
    · exact hpiece
  · exact Or.inr

theorem bne_of_notMem (h : c ∉ t) : ∀ d ∈ t, (d != c) = true := by
  intro d hd
  refine bne_iff_ne.mpr ?_
  rintro rfl
  exact h hd

/-- A text is taken whole up to a character that it does not have. -/
theorem takeWhile_bne_append (h : c ∉ t) (rest : Text) :
    (t ++ c :: rest).takeWhile (· != c) = t :=
  takeWhile_append_stop (bne_of_notMem h) (bne_self_eq_false c) rest

theorem takeWhile_bne_eq_self (h : c ∉ t) : t.takeWhile (· != c) = t :=
  List.takeWhile_eq_self_iff.mpr (bne_of_notMem h)

theorem dropWhile_bne_append (h : c ∉ t) (rest : Text) :
    (t ++ c :: rest).dropWhile (· != c) = c :: rest :=
  dropWhile_append_stop (bne_of_notMem h) (bne_self_eq_false c) rest

/-- Up to a character the text behind its first occurrence does not matter. -/
theorem takeWhile_bne_append_self (t rest : Text) :
    (t ++ c :: rest).takeWhile (· != c) = t.takeWhile (· != c) := by
  induction t with
  | nil => simp
  | cons d t ih =>
    by_cases hd : d = c
    · simp [hd]
    · simp [hd, ih]

end Text

/-! ### Ids in quotes -/

/-- An id that can stand in quotes. -/
structure Quotable (id : Text) : Prop where
  ne_nil : id ≠ []
  quote : '\"' ∉ id

/-- An id in quotes behind the words that announce it. -/
def announced (id closing : Text) : Text := "with id \"".toList ++ (id ++ '\"' :: closing)

/-- A line that starts with a key and has an id in quotes. -/
def lineAbout (key id closing : Text) : Text := key ++ announced id closing

/-- Before the words nothing is found. -/
theorem quotedId?_append {key : Text} (h : 'w' ∉ key) (t : Text) :
    quotedId? (key ++ t) = quotedId? t := by
  induction key with
  | nil => rfl
  | cons c key ih =>
    rw [List.mem_cons, not_or] at h
    have hrest : rest? "with id".toList (c :: (key ++ t)) = none := if_neg h.1
    have hhere : quotedIdHere? (c :: (key ++ t)) = none := by rw [quotedIdHere?, hrest]
    rw [List.cons_append, quotedId?, hhere]
    exact ih h.2

namespace Quotable
variable {id : Text}

theorem quotedIdHere?_announced (h : Quotable id) (closing : Text) :
    quotedIdHere? (announced id closing) = some id := by
  have htake := takeWhile_bne_append h.quote closing
  have hdrop := dropWhile_bne_append h.quote closing
  have hwords : announced id closing =
      "with id".toList ++ (' ' :: '\"' :: (id ++ '\"' :: closing)) := rfl
  have hgap : (' ' :: '\"' :: (id ++ '\"' :: closing)).takeWhile isBlank = [' '] := rfl
  have hquote : (' ' :: '\"' :: (id ++ '\"' :: closing)).dropWhile isBlank =
      '\"' :: (id ++ '\"' :: closing) := rfl
  rw [hwords, quotedIdHere?, rest?_append]
  simp only [hgap, hquote, htake, hdrop]
  obtain ⟨c, rest, hid⟩ := List.exists_cons_of_ne_nil h.ne_nil
  rw [hid]

/-- A line names the id that it has in quotes. -/
theorem quotedId?_lineAbout (h : Quotable id) {key : Text} (hkey : 'w' ∉ key) (closing : Text) :
    quotedId? (lineAbout key id closing) = some id := by
  have hhere := h.quotedIdHere?_announced closing
  have hcons : announced id closing =
      'w' :: ("ith id \"".toList ++ (id ++ '\"' :: closing)) := rfl
  rw [lineAbout, quotedId?_append hkey]
  rw [hcons] at hhere ⊢
  rw [quotedId?, hhere]

/-- What a line with a quoted id says is up to the form that its key opens. -/
theorem ofLine_lineAbout {f : Form} (hf : ∀ line, f.accepts line = startsWith f.opening line)
    {key : Text} (hkey : f.opening <+: key) (closing : Text) :
    Directive.ofLine (lineAbout key id closing) = f.directive (lineAbout key id closing) := by
  obtain ⟨gap, rfl⟩ := hkey
  refine Directive.ofLine_of_accepts ?_
  rw [hf, lineAbout, List.append_assoc]
  exact startsWith_iff.mpr ⟨_, rfl⟩

theorem ofLine_switch (h : Quotable id) :
    Directive.ofLine (lineAbout "switchBackgroundImgTo ".toList id [';']) =
      .switchBackground (some id) := by
  have hquoted : quotedId? (lineAbout "switchBackgroundImgTo ".toList id [';']) = some id := by
    -- the one `w` of the key starts no announcement
    have hkey : "switchBackgroundImgTo ".toList =
        's' :: 'w' :: 'i' :: 't' :: "chBackgroundImgTo ".toList := by simp
    have hskip : quotedId? (lineAbout "switchBackgroundImgTo ".toList id [';']) =
        quotedId? (lineAbout "chBackgroundImgTo ".toList id [';']) := by
      rw [lineAbout, hkey]
      rfl
    rw [hskip, h.quotedId?_lineAbout (by decide)]
  rw [← hquoted]
  exact ofLine_lineAbout (f := .switchBackground) (fun _ => rfl) (by decide) [';']

theorem ofLine_position (h : Quotable id) :
    Directive.ofLine (lineAbout "setPositionOf ".toList id []) = .setPosition (some id) := by
  rw [← h.quotedId?_lineAbout (show 'w' ∉ "setPositionOf ".toList by decide) []]
  exact ofLine_lineAbout (f := .setPosition) (fun _ => rfl) (by decide) []

theorem ofLine_size (h : Quotable id) :
    Directive.ofLine (lineAbout "setSizeOf ".toList id []) = .setSize (some id) := by
  rw [← h.quotedId?_lineAbout (show 'w' ∉ "setSizeOf ".toList by decide) []]
  exact ofLine_lineAbout (f := .setSize) (fun _ => rfl) (by decide) []

theorem ofLine_properties (h : Quotable id) :
    Directive.ofLine (lineAbout "propertiesOf ".toList id []) = .properties (some id) := by
  rw [← h.quotedId?_lineAbout (show 'w' ∉ "propertiesOf ".toList by decide) []]
  exact ofLine_lineAbout (f := .properties) (fun _ => rfl) (by decide) []

/-! ### Kinds of textures -/

theorem textureKind?_background (id : Text) :
    textureKind? (lineAbout "setTextureOf(Background) ".toList id []) = some .background := by
  have hkey : "setTextureOf(Background) ".toList =
      "setTextureOf".toList ++ ("(Background".toList ++ ") ".toList) := by decide
  rw [textureKind?, lineAbout, hkey, List.append_assoc, List.append_assoc,
    if_pos (contains_append_self _ _ _)]

/-- Whether a line that names the kind of an object names the other kind is up to its id. -/
theorem contains_background_objectLine (id : Text) :
    contains "(Background".toList (lineAbout "setTextureOf(Object) ".toList id []) =
      contains "(Background".toList id := by
  have hkind : "(Background".toList = '(' :: 'B' :: "ackground".toList := by simp
  have hkey : "setTextureOf(Object) ".toList =
      "setTextureOf".toList ++ '(' :: 'O' :: "bject) ".toList := by decide
  -- behind the bracket of the line stands another word, and the next bracket is one of the id
  have hother : ∀ t, restAfter? ('(' :: 'B' :: "ackground".toList) ('(' :: 'O' :: t) =
      restAfter? ('(' :: 'B' :: "ackground".toList) t := fun _ => rfl
  have hwords : restAfter? ('(' :: 'B' :: "ackground".toList) (announced id []) =
      restAfter? ('(' :: 'B' :: "ackground".toList) (id ++ ['\"']) := restAfter?_append (by decide)
  have hskip : restAfter? "(Background".toList (lineAbout "setTextureOf(Object) ".toList id []) =
      restAfter? "(Background".toList (id ++ ['\"']) := by
    rw [lineAbout, hkey, hkind, List.append_assoc, restAfter?_append (by decide),
      List.cons_append, List.cons_append, hother, restAfter?_append (by decide), hwords]
  rw [contains, hskip]
  exact contains_concat (by decide) (by decide)

theorem textureKind?_object (id : Text) :
    textureKind? (lineAbout "setTextureOf(Object) ".toList id []) =
      some (if contains "(Background".toList id = true then .background else .object) := by
  have hkey : "setTextureOf(Object) ".toList =
      "setTextureOf".toList ++ ("(Object".toList ++ ") ".toList) := by decide
  have hnamed :
      contains "(Object".toList (lineAbout "setTextureOf(Object) ".toList id []) = true := by
    rw [lineAbout, hkey, List.append_assoc, List.append_assoc]
    exact contains_append_self _ _ _
  rw [textureKind?, contains_background_objectLine, hnamed, if_pos rfl]
  split <;> rfl

theorem ofLine_backgroundTexture (h : Quotable id) :
    Directive.ofLine (lineAbout "setTextureOf(Background) ".toList id []) =
      .setTexture (some id) (some .background) := by
  rw [← textureKind?_background id,
    ← h.quotedId?_lineAbout (show 'w' ∉ "setTextureOf(Background) ".toList by decide) []]
  exact ofLine_lineAbout (f := .setTexture) (fun _ => rfl) (by decide) []

/-- The texture of an object is named, unless the id itself names the other kind. -/
theorem ofLine_objectTexture (h : Quotable id) :
    Directive.ofLine (lineAbout "setTextureOf(Object) ".toList id []) =
      .setTexture (some id)
        (some (if contains "(Background".toList id = true then .background else .object)) := by
  rw [← textureKind?_object id]
  rw [← h.quotedId?_lineAbout (show 'w' ∉ "setTextureOf(Object) ".toList by decide) []]
  exact ofLine_lineAbout (f := .setTexture) (fun _ => rfl) (by decide) []

end Quotable

/-! ### Click blocks -/

/-- The line that calls for a click on an id. -/
def clickLine (id : Text) : Text := "Object:".toList ++ (id ++ ".onclick() \x7b".toList)

/-- A click block is about the part of its id before the first point. -/
theorem ofLine_clickLine (id : Text) :
    Directive.ofLine (clickLine id) = .onClick (clickedId? id) := by
  have hstarts : startsWith "Object:".toList (clickLine id) = true := startsWith_iff.mpr ⟨_, rfl⟩
  have hcalls : contains ".onclick()".toList (clickLine id) = true := by
    have hsplit : clickLine id =
        ("Object:".toList ++ id) ++ (".onclick()".toList ++ " \x7b".toList) := rfl
    rw [hsplit]
    exact contains_append_self _ _ _
  have haccepts : Form.onClick.accepts (clickLine id) = true :=
    Bool.and_eq_true_iff.mpr ⟨hstarts, hcalls⟩
  have hnamed : (rest? "Object:".toList (clickLine id)).bind clickedId? = clickedId? id := by
    have hcall : ".onclick() \x7b".toList = '.' :: "onclick() \x7b".toList := rfl
    have hrest : rest? "Object:".toList (clickLine id) =
        some (id ++ '.' :: "onclick() \x7b".toList) := by
      rw [← hcall]
      exact rest?_append _ _
    rw [hrest, Option.bind_some, clickedId?, takeWhile_bne_append_self]
    rfl
  rw [← hnamed]
  exact Directive.ofLine_of_accepts haccepts

/-- Of a trimmed id the part before the first point is the id if it has none. -/
theorem clickedId?_eq_some_self_iff {id : Text} (h : Trimmed id) (hne : id ≠ []) :
    clickedId? id = some id ↔ '.' ∉ id := by
  rw [clickedId?, nonEmpty?_eq_some_iff, and_iff_left hne]
  constructor
  · intro hself hpoint
    obtain ⟨before, after, hid⟩ := List.append_of_mem hpoint
    have htake : id.takeWhile (· != '.') = before.takeWhile (· != '.') := by
      rw [hid, takeWhile_bne_append_self]
    -- what is taken is shorter than the id, and trimming makes it no longer
    have hlong : (trim (id.takeWhile (· != '.'))).length ≤ before.length := by
      rw [htake]
      exact (length_trim_le _).trans (List.takeWhile_prefix _).length_le
    rw [hself, hid, List.length_append, List.length_cons] at hlong
    omega
  · intro hpoint
    rw [takeWhile_bne_eq_self hpoint, h.trim_eq]

/-! ### Declarations -/

/-- Of an id without a colon everything stands before the colon, its semicolon too. -/
theorem takeWhile_colon_closed {id : Text} (hcolon : ':' ∉ id) :
    (id ++ [';']).takeWhile (· != ':') = id ++ [';'] := by
  refine takeWhile_bne_eq_self ?_
  rw [List.mem_append, not_or]
  exact ⟨hcolon, by decide⟩

/-- A declaration names the id that stands before its semicolon, if the id has no colon. -/
theorem newId?_closed {id : Text} (h : Storable id) (hne : id ≠ []) (hcolon : ':' ∉ id) :
    newId? (id ++ [';']) = some id := by
  rw [newId?, takeWhile_colon_closed hcolon, h.stored_closed]
  exact nonEmpty?_eq_some_iff.mpr ⟨rfl, hne⟩

/-- A declared id has a character, and no colon. -/
theorem Form.ne_nil_and_notMem_of_declared? {f : Form} {line id : Text}
    (h : f.declared? line = some id) : id ≠ [] ∧ ':' ∉ id := by
  obtain ⟨rest, -, hid⟩ := Option.bind_eq_some_iff.mp h
  obtain ⟨rfl, hne⟩ := nonEmpty?_eq_some_iff.mp hid
  refine ⟨hne, fun hcolon => ?_⟩
  exact absurd (List.mem_takeWhile_imp (mem_of_mem_stored hcolon)) (by decide)

/-! ### Plain ids -/

/-- An id that can be written into every line that names one. -/
structure PlainId where
  text : Text
  ne_nil : text ≠ []
  storable : Storable text
  plain : ∀ c ∈ "\n:.\"(".toList, c ∉ text

namespace PlainId
variable (id : PlainId)

theorem quotable : Quotable id.text := ⟨id.ne_nil, id.plain '\"' (by decide)⟩

theorem newId?_plain : newId? (id.text ++ [';']) = some id.text :=
  newId?_closed id.storable id.ne_nil (id.plain ':' (by decide))

/-- The line that declares the id behind an opening. -/
def declaration (opening : Text) : Text := opening ++ (id.text ++ [';'])

theorem declared?_declaration (f : Form) :
    f.declared? (id.declaration f.opening) = some id.text := by
  rw [Form.declared?, declaration, rest?_append, Option.bind_some, newId?_plain]

theorem ofLine_newBackground :
    Directive.ofLine (id.declaration "new Background:".toList) = .newBackground (some id.text) :=
  Directive.ofLine_eq_newBackground_iff.mpr (id.declared?_declaration .newBackground)

theorem ofLine_newObject :
    Directive.ofLine (id.declaration "new Object:".toList) = .newObject (some id.text) :=
  Directive.ofLine_eq_newObject_iff.mpr (id.declared?_declaration .newObject)

/-- A click block is about all of a plain id. -/
theorem ofLine_click : Directive.ofLine (clickLine id.text) = .onClick (some id.text) := by
  have hself : clickedId? id.text = some id.text :=
    (clickedId?_eq_some_self_iff id.storable.trimmed id.ne_nil).mpr (id.plain '.' (by decide))
  rw [← hself]
  exact ofLine_clickLine id.text

/-- A plain id names no kind. -/
theorem ofLine_objectTexture :
    Directive.ofLine (lineAbout "setTextureOf(Object) ".toList id.text []) =
      .setTexture (some id.text) (some .object) := by
  have hkind : contains "(Background".toList id.text = false := by
    have hkey : "(Background".toList = '(' :: "Background".toList := by simp
    rw [contains, hkey, restAfter?_of_notMem (id.plain '(' (by decide))]
    rfl
  have hline := id.quotable.ofLine_objectTexture
  rw [hkind, if_neg Bool.false_ne_true] at hline
  exact hline

end PlainId
end PlanetScript
