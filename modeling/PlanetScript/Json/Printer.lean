import PlanetScript.Json.Basic

/-! # Printing JSON

Two layouts of the same tokens: `Json.compact` writes no blanks, and `Json.pretty`
writes one item or member a line, two more columns to the right for each level.  Both
write empty arrays and objects as two brackets.  A string escapes the quote, the
backslash and the control characters below U+0020, and nothing else.
-/
namespace PlanetScript.Json

/-- One character of a string token. -/
def escapeChar (c : Char) : Text :=
  match c with
  | '\"' => ['\\', '\"']
  | '\\' => ['\\', '\\']
  | '\x08' => ['\\', 'b']
  | '\x0c' => ['\\', 'f']
  | '\n' => ['\\', 'n']
  | '\r' => ['\\', 'r']
  | '\t' => ['\\', 't']
  | c =>
    if c.toNat < 0x20 then
      "\\u00".toList ++ [Nat.digitChar (c.toNat / 16), Nat.digitChar (c.toNat % 16)]
    else [c]

/-- The token of a string. -/
def quoted (t : Text) : Text := '\"' :: t.flatMap escapeChar ++ ['\"']

/-- The token of a truth value. -/
def boolToken (b : Bool) : Text := if b then "true".toList else "false".toList

/-! ### Without blanks -/

mutual

/-- A value without blanks. -/
def compact : Json → Text
  | .null => "null".toList
  | .bool b => boolToken b
  | .number token => token
  | .string t => quoted t
  | .array items => '[' :: compactItems items ++ [']']
  | .object members => '\x7b' :: compactMembers members ++ ['\x7d']

/-- The items of an array, a comma between neighbours. -/
def compactItems : List Json → Text
  | [] => []
  | [item] => compact item
  | item :: items => compact item ++ ',' :: compactItems items

/-- The members of an object, a comma between neighbours. -/
def compactMembers : List (Text × Json) → Text
  | [] => []
  | [(name, value)] => quoted name ++ ':' :: compact value
  | (name, value) :: members => quoted name ++ ':' :: compact value ++ ',' :: compactMembers members

end

/-! ### One item a line -/

/-- A new line at a level. -/
def newLine (level : Nat) : Text := '\n' :: List.replicate (2 * level) ' '

mutual

/-- A value whose own lines start at a level. -/
def prettyAt (level : Nat) : Json → Text
  | .null => "null".toList
  | .bool b => boolToken b
  | .number token => token
  | .string t => quoted t
  | .array [] => "[]".toList
  | .array (item :: items) =>
    '[' :: newLine (level + 1) ++ prettyAt (level + 1) item ++ prettyItems (level + 1) items ++
      newLine level ++ [']']
  | .object [] => "\x7b\x7d".toList
  | .object ((name, value) :: members) =>
    '\x7b' :: newLine (level + 1) ++ quoted name ++ ": ".toList ++ prettyAt (level + 1) value ++
      prettyMembers (level + 1) members ++ newLine level ++ ['\x7d']

/-- The items after the first one. -/
def prettyItems (level : Nat) : List Json → Text
  | [] => []
  | item :: items => ',' :: newLine level ++ prettyAt level item ++ prettyItems level items

/-- The members after the first one. -/
def prettyMembers (level : Nat) : List (Text × Json) → Text
  | [] => []
  | (name, value) :: members =>
    ',' :: newLine level ++ quoted name ++ ": ".toList ++ prettyAt level value ++
      prettyMembers level members

end

/-- A value, one item or member a line. -/
def pretty (j : Json) : Text := prettyAt 0 j

end PlanetScript.Json
