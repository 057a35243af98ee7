import PlanetScript.Script.Directive

/-! # The forms of a directive

Twelve forms are tried in a fixed order, and the first that accepts a line says which
directive it is; a line of no form is content.  A form accepts by how the line starts.

The id of most directives is the first quoted text after the words `with id`.  A place
where these words are not followed by blanks and a non-empty quoted text is passed over.
-/
namespace PlanetScript
open Text

/-! ### Ids -/

/-- The quoted id at the head of a text that starts with the words `with id`. -/
def quotedIdHere? (t : Text) : Option Text :=
  match rest? "with id".toList t with
  | none => none
  | some gap =>
    match gap.takeWhile isBlank, gap.dropWhile isBlank with
    | _ :: _, '\"' :: quoted =>
      match quoted.takeWhile (· != '\"'), quoted.dropWhile (· != '\"') with
      | c :: id, _ :: _ => some (c :: id)
      | _, _ => none
    | _, _ => none

/-- The first quoted id of a line. -/
def quotedId? : Text → Option Text
  | [] => none
  | c :: t =>
    match quotedIdHere? (c :: t) with
    | some id => some id
    | none => quotedId? t

/-- The id that a declaration gives: the text up to a colon, as a field value. -/
def newId? (t : Text) : Option Text := nonEmpty? (stored (t.takeWhile (· != ':')))

/-- The id that a click block gives: the text up to a point, trimmed. -/
def clickedId? (t : Text) : Option Text := nonEmpty? (trim (t.takeWhile (· != '.')))

/-- The kind that a texture directive names, backgrounds first. -/
def textureKind? (line : Text) : Option Kind :=
  if contains "(Background".toList line then some .background
  else if contains "(Object".toList line then some .object
  else none

/-! ### Forms -/

/-- The forms of a directive. -/
inductive Form where
  | signature
  | thumbnail
  | spawn
  | newBackground
  | newObject
  | switchBackground
  | setPosition
  | setTexture
  | setSize
  | properties
  | onClick
  | remove
deriving DecidableEq, Repr

namespace Form

/-- The forms in the order in which they are tried. -/
def all : List Form :=
  [.signature, .thumbnail, .spawn, .newBackground, .newObject, .switchBackground, .setPosition,
    .setTexture, .setSize, .properties, .onClick, .remove]

/-- The name of a form. -/
def name : Form → Text
  | .signature => "signature".toList
  | .thumbnail => "thumbnail".toList
  | .spawn => "spawn".toList
  | .newBackground => "new_background".toList
  | .newObject => "new_object".toList
  | .switchBackground => "switch_background".toList
  | .setPosition => "set_position".toList
  | .setTexture => "set_texture".toList
  | .setSize => "set_size".toList
  | .properties => "properties".toList
  | .onClick => "onclick".toList
  | .remove => "remove".toList

/-- How a line of the form starts. -/
def opening : Form → Text
  | .signature => "planets.push(new Planet);".toList
  | .thumbnail => "planets.thumbnail()".toList
  | .spawn => "planets.spawn".toList
  | .newBackground => "new Background:".toList
  | .newObject => "new Object:".toList
  | .switchBackground => "switchBackgroundImgTo".toList
  | .setPosition => "setPositionOf".toList
  | .setTexture => "setTextureOf".toList
  | .setSize => "setSizeOf".toList
  | .properties => "propertiesOf".toList
  | .onClick => "Object:".toList
  | .remove => "remove(".toList

/-- Whether a line has the form.  The signature is the whole line, and a click block also
has to call for the click. -/
def accepts (form : Form) (line : Text) : Bool :=
  match form with
  | .signature => line = form.opening
  | .onClick => startsWith form.opening line && contains ".onclick()".toList line
  | _ => startsWith form.opening line

/-- The directive of a line of the form. -/
def directive (form : Form) (line : Text) : Directive :=
  match form with
  | .signature => .signature
  | .thumbnail => .thumbnail
  | .spawn => .spawn
  | .newBackground => .newBackground ((rest? form.opening line).bind newId?)
  | .newObject => .newObject ((rest? form.opening line).bind newId?)
  | .switchBackground => .switchBackground (quotedId? line)
  | .setPosition => .setPosition (quotedId? line)
  | .setTexture => .setTexture (quotedId? line) (textureKind? line)
  | .setSize => .setSize (quotedId? line)
  | .properties => .properties (quotedId? line)
  | .onClick => .onClick ((rest? form.opening line).bind clickedId?)
  | .remove => .remove

/-- The first of the forms that accepts a line. -/
def firstOf? (forms : List Form) (line : Text) : Option Form := forms.find? (·.accepts line)

/-- The form of a line. -/
def of? (line : Text) : Option Form := firstOf? all line

end Form

namespace Directive

/-- The directive that a line gives when the forms are tried in some order. -/
def ofLineBy (forms : List Form) (line : Text) : Directive :=
  match Form.firstOf? forms line with
  | some form => form.directive line
  | none => .content

/-- What a line says. -/
def ofLine (line : Text) : Directive := ofLineBy Form.all line

/-- Whether a line is content. -/
def isContent (d : Directive) : Bool := d = .content

end Directive
end PlanetScript
