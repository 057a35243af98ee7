import PlanetScript.Text.Unprinted

/-! # Quoted texts

A text quoted for a message stands between double quotes.  A quote, a backslash and
the usual control characters have a two-character escape; any other character that
would not show is written by its code point in hexadecimal digits.
-/
namespace PlanetScript.Text

/-- One character of a quoted text. -/
def quoteChar (c : Char) : Text :=
  match c with
  | '\x00' => ['\\', '0']
  | '\t' => ['\\', 't']
  | '\n' => ['\\', 'n']
  | '\r' => ['\\', 'r']
  | '\"' => ['\\', '\"']
  | '\\' => ['\\', '\\']
  | c =>
    if isUnprinted c then "\\u\x7b".toList ++ Nat.toDigits 16 c.toNat ++ ['\x7d'] else [c]

/-- A text between double quotes, with the characters that would not show escaped. -/
def quote (t : Text) : Text := '\"' :: t.flatMap quoteChar ++ ['\"']

end PlanetScript.Text
