import PlanetScript.Settings.Basic
import PlanetScript.Json.NumberToken
import PlanetScript.Text.Quoted

/-! # Reading settings

A settings file is a JSON object with the members `block_scope` and `numeric`, or an array
with the two in this order.  What is missing keeps its default, and other members are
passed over.  A choice is written by its name, or as an object with that name as its only
member and null as the value.

The text is read from left to right and the first fault decides, be it one of JSON or one
of the shape of settings.
-/
namespace PlanetScript
open Text

/-- What stands where a value of another kind was expected. -/
inductive Found where
  | null
  | bool (value : Bool)
  | integer (value : Int)
  | float (value : Number)
  | string (value : Text)
  | sequence
  | map
deriving DecidableEq

/-- Why a text writes no settings. -/
inductive SettingsFault where
  /-- The text is no JSON document. -/
  | json (fault : Json.Fault)
  /-- A value has the wrong kind. -/
  | wrongKind (found : Found) (expected : Text)
  /-- A choice has a name that it does not know. -/
  | unknownName (name : Text) (known : List Text)
  /-- A member is given twice. -/
  | repeatedMember (name : Text)
deriving DecidableEq

/-- A text between backticks. -/
def ticked (t : Text) : Text := '\x60' :: t ++ ['\x60']

/-- What was found, in the words of a fault's message. -/
def Found.describe : Found → Text
  | .null => "null".toList
  | .bool value => "boolean ".toList ++ ticked (if value then "true".toList else "false".toList)
  | .integer value =>
    "integer ".toList ++ ticked ((if value < 0 then ['-'] else []) ++ Text.ofNat value.natAbs)
  | .float value => "floating point ".toList ++ ticked value.text
  | .string value => "string ".toList ++ quote value
  | .sequence => "sequence".toList
  | .map => "map".toList

/-- The message of a fault in the shape of settings; a fault of JSON has none of its own. -/
def SettingsFault.message? : SettingsFault → Option Text
  | .json _ => none
  | .wrongKind found expected =>
    some ("invalid type: ".toList ++ found.describe ++ ", expected ".toList ++ expected)
  | .unknownName name known =>
    some ("unknown variant ".toList ++ ticked name ++ ", expected ".toList ++
      " or ".toList.intercalate (known.map ticked))
  | .repeatedMember name => some ("duplicate field ".toList ++ ticked name)

namespace Settings
open Json

/-- A reader of the text of settings. -/
abbrev Reader (α : Type) := Text → Except SettingsFault (α × Text)

/-- A JSON reader as a reader of the text of settings. -/
def lift {α : Type} (r : Except Fault α) : Except SettingsFault α := r.mapError .json

/-- The fault of meeting this rest where a token has to stand. -/
def misplaced (t : Text) : SettingsFault := .json (faultAt t)

/-- The fault of a value that stands at the head of a text where another kind is expected.
The value is read as far as the message needs it, and its own faults come first. -/
def wrongKindAt (expected : Text) (t : Text) : SettingsFault :=
  let found : Except Fault Found :=
    match t with
    | 'n' :: t => (expect "ull".toList t).map fun _ => .null
    | 't' :: t => (expect "rue".toList t).map fun _ => .bool true
    | 'f' :: t => (expect "alse".toList t).map fun _ => .bool false
    | '\"' :: t => (stringRest true t).map fun (value, _) => .string value
    | '[' :: _ => .ok .sequence
    | '\x7b' :: _ => .ok .map
    | '-' :: t => (magnitudeValue true t).map fun (value, _) => ofValue value
    | c :: t =>
      if isAsciiDigit c then (magnitudeValue false (c :: t)).map fun (value, _) => ofValue value
      else .error .malformed
    | [] => .error .ended
  match found with
  | .ok found => .wrongKind found expected
  | .error fault => .json fault
where
  /-- What a number is found to be. -/
  ofValue : NumberValue → Found
    | .integer n => .integer n
    | .float x => .float x

/-- The name of a choice, which has to be one of the known ones. -/
def knownName (known : List Text) (name : Text) : Except SettingsFault Text :=
  if name ∈ known then .ok name else .error (.unknownName name known)

/-- The null that stands for the content of a choice written as an object. -/
def emptyContent (t : Text) : Except SettingsFault Text :=
  match skipGap t with
  | 'n' :: t => lift (expect "ull".toList t)
  | [] => .error (.json .ended)
  | t => .error (wrongKindAt "unit".toList t)

/-- The name of a choice: a string, or an object with the name as its only member. -/
def choiceName (known : List Text) : Reader Text := fun t =>
  match skipGap t with
  | '\"' :: t => do
    let (name, t) ← lift (stringRest true t)
    .ok (← knownName known name, t)
  | '\x7b' :: t =>
    match skipGap t with
    | '\"' :: t => do
      let (name, t) ← lift (stringRest true t)
      let name ← knownName known name
      match skipGap t with
      | ':' :: t =>
        let t ← emptyContent t
        match skipGap t with
        | '\x7d' :: t => .ok (name, t)
        | t => .error (misplaced t)
      | t => .error (misplaced t)
    | t => .error (misplaced t)
  | t => .error (misplaced t)

/-- The choice with a name among those that can be named. -/
def choice {α : Type} (all : List α) (name : α → Text) (default : α) : Reader α := fun t => do
  let (chosen, t) ← choiceName (all.map name) t
  .ok ((all.find? fun a => name a = chosen).getD default, t)

/-- The scope that is written here. -/
def readScope : Reader BlockScope := choice BlockScope.all BlockScope.name .sticky

/-- The number style that is written here. -/
def readStyle : Reader NumberStyle := choice NumberStyle.all NumberStyle.name .strictInteger

/-! ### The array form -/

/-- The next item of an array, if there is one.  Only the first may stand without a comma. -/
def nextItem {α : Type} (first : Bool) (read : Reader α) : Reader (Option α) := fun t =>
  match skipGap t with
  | ']' :: t => .ok (none, ']' :: t)
  | [] => .error (.json .ended)
  | c :: t =>
    if first then (read (c :: t)).map fun (a, t) => (some a, t)
    else if c = ',' then
      match skipGap t with
      | ']' :: _ => .error (.json .malformed)
      | [] => .error (.json .ended)
      | t => (read t).map fun (a, t) => (some a, t)
    else .error (.json .malformed)

/-- The rest of settings in array form, after its opening bracket. -/
def arrayRest : Reader Settings := fun t => do
  let (scope, t) ← nextItem true readScope t
  let (style, t) ← nextItem scope.isNone readStyle t
  match skipGap t with
  | ']' :: t => .ok (⟨scope.getD .sticky, style.getD .strictInteger⟩, t)
  | t => .error (misplaced t)

/-! ### The object form -/

/-- The choices that an object has given so far. -/
structure Given where
  scope : Option BlockScope := none
  style : Option NumberStyle := none
deriving DecidableEq

/-- Passes over the colon between a member's name and its value. -/
def colon (t : Text) : Except SettingsFault Text :=
  match skipGap t with
  | ':' :: t => .ok t
  | t => .error (misplaced t)

/-- The name of the scope's member. -/
def scopeMember : Text := "block_scope".toList

/-- The name of the number style's member. -/
def styleMember : Text := "numeric".toList

/-- One member after its opening quote. -/
def member (given : Given) : Reader Given := fun t => do
  let (name, t) ← lift (stringRest true t)
  if name = scopeMember then
    if given.scope.isSome then .error (.repeatedMember name)
    else
      let (scope, t) ← readScope (← colon t)
      .ok ({ given with scope := some scope }, t)
  else if name = styleMember then
    if given.style.isSome then .error (.repeatedMember name)
    else
      let (style, t) ← readStyle (← colon t)
      .ok ({ given with style := some style }, t)
  else
    let (_, t) ← lift (value (← colon t))
    .ok (given, t)

/-- The members of an object from the second on, when the text holds at most `fuel`
characters. -/
def moreMembers : Nat → Given → Reader Given
  | 0, _, _ => .error (.json .ended)
  | fuel + 1, given, t =>
    match skipGap t with
    | '\x7d' :: t => .ok (given, t)
    | ',' :: t =>
      match skipGap t with
      | '\"' :: t => do
        let (given, t) ← member given t
        moreMembers fuel given t
      | t => .error (misplaced t)
    | t => .error (misplaced t)

/-- The members of an object after its opening brace. -/
def members : Reader Given := fun t =>
  match skipGap t with
  | '\x7d' :: t => .ok ({}, t)
  | '\"' :: t => do
    let (given, t) ← member {} t
    moreMembers (t.length + 1) given t
  | t => .error (misplaced t)

/-- The settings that an object has given. -/
def Given.settings (given : Given) : Settings :=
  ⟨given.scope.getD .sticky, given.style.getD .strictInteger⟩

/-- The settings that a text writes. -/
def read (t : Text) : Except SettingsFault Settings := do
  let (settings, t) ←
    match skipGap t with
    | [] => .error (.json .ended)
    | '[' :: t => arrayRest t
    | '\x7b' :: t => do
      let (given, t) ← members t
      .ok (given.settings, t)
    | t => .error (wrongKindAt "struct InterpreterConfig".toList t)
  if skipGap t = [] then .ok settings else .error (.json .malformed)

end Settings
end PlanetScript
