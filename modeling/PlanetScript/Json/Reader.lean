import PlanetScript.Json.Basic
import PlanetScript.Text.DecimalDigit
import PlanetScript.Text.Utf8

/-! # Reading JSON

Readers take a text and return what they read together with the rest of the text.  A
reader that fails says whether the text ended too early or went wrong before its end.

`value` reads one value of any shape.  It is also how an unknown member of an object is
passed over, so it accepts an escape of half a surrogate pair, which names no character,
and reads it as U+FFFD.  `string` on its own refuses such an escape.
-/
namespace PlanetScript.Json
open Text

/-- Why a text is no document. -/
inductive Fault where
  /-- The text ends inside a value. -/
  | ended
  /-- A character stands where it cannot. -/
  | malformed
deriving DecidableEq, Repr

/-- The four characters that may stand between tokens. -/
def isGap (c : Char) : Bool := c == ' ' || c == '\t' || c == '\n' || c == '\r'

/-- A text without the gap that it starts with. -/
def skipGap (t : Text) : Text := t.dropWhile isGap

/-- The fault of meeting this rest where something else has to stand. -/
def faultAt : Text → Fault
  | [] => .ended
  | _ :: _ => .malformed

/-- Passes over the characters of `key`, one after the other. -/
def expect : Text → Text → Except Fault Text
  | [], t => .ok t
  | _ :: _, [] => .error .ended
  | k :: key, c :: t => if k = c then expect key t else .error .malformed

/-! ### Strings -/

/-- The value of a hexadecimal digit. -/
def hexDigit? (c : Char) : Option Nat :=
  if '0' ≤ c ∧ c ≤ '9' then some (c.toNat - 48)
  else if 'a' ≤ c ∧ c ≤ 'f' then some (c.toNat - 87)
  else if 'A' ≤ c ∧ c ≤ 'F' then some (c.toNat - 55)
  else none

/-- The number written by four hexadecimal digits. -/
def hexUnit? (a b c d : Char) : Option Nat := do
  return (((← hexDigit? a) * 16 + (← hexDigit? b)) * 16 + (← hexDigit? c)) * 16 + (← hexDigit? d)

/-- The fault of an escape that lacks its four digits: with fewer than four bytes to go
the text has ended. -/
def shortEscapeFault (t : Text) : Fault := if byteCount t < 4 then .ended else .malformed

/-- The first half of a surrogate pair. -/
def isHighSurrogate (unit : Nat) : Bool := 0xD800 ≤ unit && unit ≤ 0xDBFF

/-- The second half of a surrogate pair. -/
def isLowSurrogate (unit : Nat) : Bool := 0xDC00 ≤ unit && unit ≤ 0xDFFF

/-- The character that a surrogate pair names. -/
def pairChar (high low : Nat) : Char :=
  Char.ofNat ((high - 0xD800) * 0x400 + (low - 0xDC00) + 0x10000)

/-- The character of an escape with one letter. -/
def letterEscape? : Char → Option Char
  | '\"' => some '\"'
  | '\\' => some '\\'
  | '/' => some '/'
  | 'b' => some '\x08'
  | 'f' => some '\x0c'
  | 'n' => some '\n'
  | 'r' => some '\r'
  | 't' => some '\t'
  | _ => none

/-- Puts a character in front of what a reader read. -/
def pushChar (c : Char) (read : Except Fault (Text × Text)) : Except Fault (Text × Text) :=
  read.map fun (t, rest) => (c :: t, rest)

/-- The fault of a high surrogate that this rest does not complete. -/
def unpairedFault : Text → Fault
  | [] => .ended
  | ['\\'] => .ended
  | '\\' :: 'u' :: t => shortEscapeFault t
  | _ => .malformed

/-- The rest of a string after its opening quote.  With `paired`, an escape of half a
surrogate pair is a fault; without, it is read as U+FFFD. -/
def stringRest (paired : Bool) : Text → Except Fault (Text × Text)
  | [] => .error .ended
  | '\"' :: t => .ok ([], t)
  | '\\' :: 'u' :: a :: b :: c :: d :: t =>
    match hexUnit? a b c d with
    | none => .error .malformed
    | some unit =>
      if isHighSurrogate unit then
        match t with
        | '\\' :: 'u' :: a' :: b' :: c' :: d' :: t' =>
          match hexUnit? a' b' c' d' with
          | some low =>
            if isLowSurrogate low then pushChar (pairChar unit low) (stringRest paired t')
            else if paired then .error .malformed
            else pushChar '\uFFFD' (stringRest paired ('\\' :: 'u' :: a' :: b' :: c' :: d' :: t'))
          | none => .error .malformed
        | t =>
          if paired then .error (unpairedFault t) else pushChar '\uFFFD' (stringRest paired t)
      else if isLowSurrogate unit then
        if paired then .error .malformed else pushChar '\uFFFD' (stringRest paired t)
      else pushChar (Char.ofNat unit) (stringRest paired t)
  | '\\' :: 'u' :: t => .error (shortEscapeFault t)
  | '\\' :: c :: t =>
    match letterEscape? c with
    | some e => pushChar e (stringRest paired t)
    | none => .error .malformed
  | ['\\'] => .error .ended
  | c :: t => if c.toNat < 0x20 then .error .malformed else pushChar c (stringRest paired t)
termination_by t => t.length

/-! ### Numbers -/

/-- The ASCII digits at the head of a text, of which there has to be one, and what follows
them. -/
def someDigits (t : Text) : Except Fault (Text × Text) :=
  match t.takeWhile isAsciiDigit with
  | [] => .error .malformed
  | digits => .ok (digits, t.dropWhile isAsciiDigit)

/-- The integer part of a number: one zero, or digits that start with another one. -/
def integerPart (t : Text) : Except Fault (Text × Text) := do
  let (digits, rest) ← someDigits t
  if digits.head? = some '0' ∧ digits ≠ ['0'] then .error .malformed else .ok (digits, rest)

/-- The fraction of a number, if a point stands here. -/
def fractionPart : Text → Except Fault (Text × Text)
  | '.' :: t => do
    let (digits, rest) ← someDigits t
    .ok ('.' :: digits, rest)
  | t => .ok ([], t)

/-- The exponent of a number, if its mark stands here. -/
def exponentPart : Text → Except Fault (Text × Text)
  | [] => .ok ([], [])
  | mark :: t =>
    if mark = 'e' ∨ mark = 'E' then
      match t with
      | '+' :: t => do
        let (digits, rest) ← someDigits t
        .ok (mark :: '+' :: digits, rest)
      | '-' :: t => do
        let (digits, rest) ← someDigits t
        .ok (mark :: '-' :: digits, rest)
      | t => do
        let (digits, rest) ← someDigits t
        .ok (mark :: digits, rest)
    else .ok ([], mark :: t)

/-- A number token without its sign. -/
def magnitudeToken (t : Text) : Except Fault (Text × Text) := do
  let (whole, t) ← integerPart t
  let (fraction, t) ← fractionPart t
  let (exponent, t) ← exponentPart t
  .ok (whole ++ fraction ++ exponent, t)

/-! ### Values -/

mutual

/-- One value, when the text holds at most `fuel` characters. -/
def valueWithin : Nat → Text → Except Fault (Json × Text)
  | 0, _ => .error .ended
  | fuel + 1, t =>
    match skipGap t with
    | [] => .error .ended
    | 'n' :: t => do .ok (.null, ← expect "ull".toList t)
    | 't' :: t => do .ok (.bool true, ← expect "rue".toList t)
    | 'f' :: t => do .ok (.bool false, ← expect "alse".toList t)
    | '\"' :: t => do
      let (value, t) ← stringRest false t
      .ok (.string value, t)
    | '-' :: t => do
      let (token, t) ← magnitudeToken t
      .ok (.number ('-' :: token), t)
    | '[' :: t =>
      match skipGap t with
      | ']' :: t => .ok (.array [], t)
      | t => do
        let (items, t) ← itemsWithin fuel t
        .ok (.array items, t)
    | '\x7b' :: t =>
      match skipGap t with
      | '\x7d' :: t => .ok (.object [], t)
      | t => do
        let (members, t) ← membersWithin fuel t
        .ok (.object members, t)
    | c :: t =>
      if isAsciiDigit c then do
        let (token, t) ← magnitudeToken (c :: t)
        .ok (.number token, t)
      else .error .malformed

/-- The items of an array up to its closing bracket. -/
def itemsWithin : Nat → Text → Except Fault (List Json × Text)
  | 0, _ => .error .ended
  | fuel + 1, t => do
    let (item, t) ← valueWithin fuel t
    match skipGap t with
    | ']' :: t => .ok ([item], t)
    | ',' :: t =>
      let (items, t) ← itemsWithin fuel t
      .ok (item :: items, t)
    | t => .error (faultAt t)

/-- The members of an object up to its closing bracket. -/
def membersWithin : Nat → Text → Except Fault (List (Text × Json) × Text)
  | 0, _ => .error .ended
  | fuel + 1, t =>
    match skipGap t with
    | '\"' :: t => do
      let (name, t) ← stringRest false t
      match skipGap t with
      | ':' :: t =>
        let (value, t) ← valueWithin fuel t
        match skipGap t with
        | '\x7d' :: t => .ok ([(name, value)], t)
        | ',' :: t =>
          let (members, t) ← membersWithin fuel t
          .ok ((name, value) :: members, t)
        | t => .error (faultAt t)
      | t => .error (faultAt t)
    | t => .error (faultAt t)

end

/-- One value at the head of a text, and what follows it.  Every level of nesting takes a
character and two steps. -/
def value (t : Text) : Except Fault (Json × Text) := valueWithin (2 * t.length + 2) t

/-- The value that a whole text writes, with gaps around it. -/
def document (t : Text) : Except Fault Json := do
  let (j, t) ← value t
  if skipGap t = [] then .ok j else .error .malformed

end PlanetScript.Json
