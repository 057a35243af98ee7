/-! # Texts

A script, a line, an id and a URL are all texts.  A text is the list of its
Unicode scalar values, so every rule about it is a recursion over characters.

* `isBlank` is the Unicode property White_Space; `trim` removes blank characters
  from both ends.
* `rest? key t` is what stands after `key` at the head of `t`, and
  `restAfter? key t` what stands after its first occurrence anywhere in `t`.
* `stored` is the normal form in which a field is stored: trimmed, without
  closing semicolons, trimmed at its end once more.
-/
namespace PlanetScript

/-- A text is the list of its Unicode scalar values. -/
abbrev Text := List Char

/-- A set of characters, as closed ranges of their code points. -/
abbrev CodeRanges := List (Nat × Nat)

/-- Membership of a character in a set of code point ranges. -/
def CodeRanges.contains (ranges : CodeRanges) (c : Char) : Bool :=
  ranges.any fun range => range.1 ≤ c.toNat && c.toNat ≤ range.2

namespace Text

/-! ### Blank characters -/

/-- The 25 characters with the Unicode property White_Space. -/
def blankRanges : CodeRanges :=
  [(0x09, 0x0D), (0x20, 0x20), (0x85, 0x85), (0xA0, 0xA0), (0x1680, 0x1680), (0x2000, 0x200A),
   (0x2028, 0x2029), (0x202F, 0x202F), (0x205F, 0x205F), (0x3000, 0x3000)]

/-- A blank character is one with the Unicode property White_Space. -/
def isBlank (c : Char) : Bool := blankRanges.contains c

/-- A text without its longest end of characters that satisfy `p`. -/
def dropEnd (p : Char → Bool) (t : Text) : Text := (t.reverse.dropWhile p).reverse

/-- A text without the blank characters it starts with. -/
def trimStart (t : Text) : Text := t.dropWhile isBlank

/-- A text without the blank characters it ends with. -/
def trimEnd (t : Text) : Text := dropEnd isBlank t

/-- A text without the blank characters at either end. -/
def trim (t : Text) : Text := trimEnd (trimStart t)

/-- The stored form of a field: trimmed, its closing semicolons dropped, and the
end trimmed once more. -/
def stored (t : Text) : Text := trimEnd (dropEnd (· == ';') (trim t))

@[simp] theorem trim_nil : trim [] = [] := rfl

/-- Dropping an end keeps a beginning of the text. -/
theorem dropEnd_append_takeWhile (p : Char → Bool) (t : Text) :
    dropEnd p t ++ (t.reverse.takeWhile p).reverse = t := by
  rw [dropEnd, ← List.reverse_append, List.takeWhile_append_dropWhile, List.reverse_reverse]

/-! ### Finding a key -/

/-- What follows `key` when the text starts with it. -/
def rest? : Text → Text → Option Text
  | [], t => some t
  | _ :: _, [] => none
  | k :: key, c :: t => if k = c then rest? key t else none

theorem rest?_eq_some_iff {key t rest : Text} :
    rest? key t = some rest ↔ t = key ++ rest := by
  fun_induction rest? key t with
  | case1 t => simp [eq_comm]
  | case2 => simp
  | case3 key c t ih => simp [ih]
  | case4 k key c t hne => simp [Ne.symm hne]

@[simp] theorem rest?_append (key rest : Text) : rest? key (key ++ rest) = some rest :=
  rest?_eq_some_iff.mpr rfl

/-- What follows the first occurrence of `key` anywhere in the text. -/
def restAfter? (key : Text) : Text → Option Text
  | [] => rest? key []
  | c :: t =>
    match rest? key (c :: t) with
    | some rest => some rest
    | none => restAfter? key t

/-- Whether the text starts with `key`. -/
def startsWith (key t : Text) : Bool := (rest? key t).isSome

/-- Whether `key` occurs in the text. -/
def contains (key t : Text) : Bool := (restAfter? key t).isSome

/-- Whether the text ends with `key`. -/
def endsWith (key t : Text) : Bool := key.isSuffixOf t

theorem startsWith_iff {key t : Text} : startsWith key t = true ↔ ∃ rest, t = key ++ rest := by
  simp [startsWith, Option.isSome_iff_exists, rest?_eq_some_iff]

/-- A text with some content is itself, an empty one is nothing. -/
def nonEmpty? (t : Text) : Option Text := if t = [] then none else some t

@[simp] theorem nonEmpty?_eq_some_iff {t s : Text} : nonEmpty? t = some s ↔ t = s ∧ s ≠ [] := by
  unfold nonEmpty?
  split
  · next h => simp [h]
  · next h => simp; exact fun hs => hs ▸ h

/-! ### Lines -/

/-- The pieces between line feeds. -/
def splitLines : Text → List Text
  | [] => [[]]
  | c :: t =>
    if c = '\n' then [] :: splitLines t
    else
      match splitLines t with
      | [] => [[c]]
      | line :: lines => (c :: line) :: lines

theorem splitLines_ne_nil (t : Text) : splitLines t ≠ [] := by
  fun_cases splitLines t <;> simp_all

/-- The lines that count: trimmed, and not empty after that.  A carriage return
before a line feed is blank, so trimming removes it too. -/
def contentLines (t : Text) : List Text :=
  ((splitLines t).map trim).filter (· ≠ [])

/-- Decimal digits of a natural number, without leading zeros. -/
def ofNat (n : Nat) : Text := Nat.toDigits 10 n

/-- Texts with a comma between neighbours. -/
def commaJoin (ts : List Text) : Text := [','].intercalate ts

end Text
end PlanetScript
