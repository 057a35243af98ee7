import PlanetScript.Json.Reader
import PlanetScript.Proofs.Number.Grammar

/-! # The grammar of documents

What a text that writes a document looks like, part by part: `Json.Writes` says of a text which
value it writes, or which items or members.  Gaps may stand around every token, a character of a
string may be escaped in more than one way, and a number is kept as its token.
-/
namespace PlanetScript.Json
open Text

/-! ### Strings -/

/-- The escapes of a code unit, each with its number. -/
inductive UnitEscape : Text → Nat → Prop
  | intro {a b c d : Char} {n : Nat} (h : hexUnit? a b c d = some n) :
      UnitEscape ['\\', 'u', a, b, c, d] n

/-- The texts between the quotes of a string, each with the text that it writes.  Unless escapes
have to be paired, half of a surrogate pair writes U+FFFD; a first half is one if no second half
follows. -/
inductive Letters (paired : Bool) : Text → Text → Prop
  | nil : Letters paired [] []
  | plain {c : Char} {body t : Text} (hcontrol : 0x20 ≤ c.toNat) (hquote : c ≠ '\"')
      (hslash : c ≠ '\\') (h : Letters paired body t) : Letters paired (c :: body) (c :: t)
  | letter {e c : Char} {body t : Text} (he : letterEscape? e = some c)
      (h : Letters paired body t) : Letters paired ('\\' :: e :: body) (c :: t)
  | unit {code body t : Text} {n : Nat} (hn : UnitEscape code n) (hhigh : isHighSurrogate n = false)
      (hlow : isLowSurrogate n = false) (h : Letters paired body t) :
      Letters paired (code ++ body) (Char.ofNat n :: t)
  | pair {first second body t : Text} {high low : Nat} (hfirst : UnitEscape first high)
      (hsecond : UnitEscape second low) (hhigh : isHighSurrogate high = true)
      (hlow : isLowSurrogate low = true) (h : Letters paired body t) :
      Letters paired (first ++ (second ++ body)) (pairChar high low :: t)
  | half {code body t : Text} {n : Nat} (hpaired : paired = false) (hn : UnitEscape code n)
      (hhalf : isHighSurrogate n = true ∨ isLowSurrogate n = true)
      (hnext : isHighSurrogate n = true → ∀ second low rest, body = second ++ rest →
        UnitEscape second low → isLowSurrogate low = false)
      (h : Letters paired body t) : Letters paired (code ++ body) ('\uFFFD' :: t)

/-! ### Numbers -/

/-- ASCII digits, at least one. -/
structure Run (t : Text) : Prop where
  ne_nil : t ≠ []
  digits : ∀ c ∈ t, isAsciiDigit c = true

/-- The integer part of a number starts with no zero but the number zero. -/
structure WholePart (t : Text) : Prop extends Run t where
  head : t.head? = some '0' → t = ['0']

/-- No fraction, or a point and digits. -/
inductive FractionPart : Text → Prop
  | none : FractionPart []
  | some {digits : Text} (h : Run digits) : FractionPart ('.' :: digits)

/-- No exponent, or a mark, a sign or none, and digits. -/
inductive ExponentPart : Text → Prop
  | none : ExponentPart []
  | some {mark : Char} {sign digits : Text} (hmark : mark = 'e' ∨ mark = 'E') (hsign : Sign sign)
      (h : Run digits) : ExponentPart (mark :: (sign ++ digits))

/-- The texts that write a number without a sign. -/
inductive Magnitude : Text → Prop
  | intro {whole fraction exponent : Text} (hwhole : WholePart whole)
      (hfraction : FractionPart fraction) (hexponent : ExponentPart exponent) :
      Magnitude (whole ++ fraction ++ exponent)

/-- The texts that write a number. -/
inductive NumberToken : Text → Prop
  | positive {t : Text} (h : Magnitude t) : NumberToken t
  | negative {t : Text} (h : Magnitude t) : NumberToken ('-' :: t)

/-! ### Values -/

/-- What stands between tokens. -/
def Gap (t : Text) : Prop := ∀ c ∈ t, isGap c = true

/-- What a part of a document writes. -/
inductive Part where
  | value (j : Json)
  /-- A value between gaps. -/
  | padded (j : Json)
  /-- Items with commas between them. -/
  | items (items : List Json)
  /-- A name and its value. -/
  | member (member : Text × Json)
  | members (members : List (Text × Json))

/-- The texts that write a part of a document. -/
inductive Writes : Text → Part → Prop
  | null : Writes "null".toList (.value .null)
  | boolTrue : Writes "true".toList (.value (.bool true))
  | boolFalse : Writes "false".toList (.value (.bool false))
  | number {t : Text} (h : NumberToken t) : Writes t (.value (.number t))
  | string {body t : Text} (h : Letters false body t) :
      Writes ('\"' :: (body ++ ['\"'])) (.value (.string t))
  | emptyArray {gap : Text} (h : Gap gap) : Writes ('[' :: (gap ++ [']'])) (.value (.array []))
  | array {t : Text} {items : List Json} (h : Writes t (.items items)) :
      Writes ('[' :: (t ++ [']'])) (.value (.array items))
  | emptyObject {gap : Text} (h : Gap gap) :
      Writes ('\x7b' :: (gap ++ ['\x7d'])) (.value (.object []))
  | object {t : Text} {members : List (Text × Json)} (h : Writes t (.members members)) :
      Writes ('\x7b' :: (t ++ ['\x7d'])) (.value (.object members))
  | padded {gap t after : Text} {j : Json} (hgap : Gap gap) (h : Writes t (.value j))
      (hafter : Gap after) : Writes (gap ++ (t ++ after)) (.padded j)
  | lastItem {t : Text} {j : Json} (h : Writes t (.padded j)) : Writes t (.items [j])
  | items {t rest : Text} {j : Json} {items : List Json} (h : Writes t (.padded j))
      (hrest : Writes rest (.items items)) : Writes (t ++ ',' :: rest) (.items (j :: items))
  | member {gap body name after t : Text} {j : Json} (hgap : Gap gap)
      (hname : Letters false body name) (hafter : Gap after) (h : Writes t (.padded j)) :
      Writes (gap ++ '\"' :: (body ++ '\"' :: (after ++ ':' :: t))) (.member (name, j))
  | lastMember {t : Text} {member : Text × Json} (h : Writes t (.member member)) :
      Writes t (.members [member])
  | members {t rest : Text} {member : Text × Json} {members : List (Text × Json)}
      (h : Writes t (.member member)) (hrest : Writes rest (.members members)) :
      Writes (t ++ ',' :: rest) (.members (member :: members))

/-! ### How parts start -/

variable {t : Text} {c : Char}

theorem gap_nil : Gap [] := nofun

theorem gap_singleton (h : isGap c = true) : Gap [c] := List.forall_mem_singleton.mpr h

theorem Run.exists_head (h : Run t) : ∃ c rest, t = c :: rest ∧ isAsciiDigit c = true := by
  obtain ⟨c, rest, rfl⟩ := List.exists_cons_of_ne_nil h.ne_nil
  exact ⟨c, rest, rfl, h.digits c List.mem_cons_self⟩

theorem Magnitude.exists_head (h : Magnitude t) :
    ∃ c rest, t = c :: rest ∧ isAsciiDigit c = true := by
  obtain ⟨hwhole, -, -⟩ := h
  obtain ⟨c, rest, rfl, hc⟩ := hwhole.toRun.exists_head
  exact ⟨c, _, rfl, hc⟩

/-- A digit is no gap. -/
theorem isGap_of_isAsciiDigit (h : isAsciiDigit c = true) : isGap c = false := by
  refine Bool.eq_false_iff.mpr fun hgap => ?_
  simp only [isGap, Bool.or_eq_true, beq_iff_eq] at hgap
  rcases hgap with ((rfl | rfl) | rfl) | rfl <;> exact absurd h (by decide)

/-- The characters that a value can start with. -/
def StartsWith (c : Char) : Json → Prop
  | .null => c = 'n'
  | .bool _ => c = 't' ∨ c = 'f'
  | .number _ => c = '-' ∨ isAsciiDigit c = true
  | .string _ => c = '\"'
  | .array _ => c = '['
  | .object _ => c = '\x7b'

/-- A value starts as values of its kind do, and with no gap. -/
theorem Writes.exists_startsWith {j : Json} (h : Writes t (.value j)) :
    ∃ c rest, t = c :: rest ∧ isGap c = false ∧ StartsWith c j := by
  cases h with
  | null => exact ⟨'n', _, rfl, by decide, rfl⟩
  | boolTrue => exact ⟨'t', _, rfl, by decide, Or.inl rfl⟩
  | boolFalse => exact ⟨'f', _, rfl, by decide, Or.inr rfl⟩
  | string _ => exact ⟨'\"', _, rfl, by decide, rfl⟩
  | emptyArray _ => exact ⟨'[', _, rfl, by decide, rfl⟩
  | array _ => exact ⟨'[', _, rfl, by decide, rfl⟩
  | emptyObject _ => exact ⟨'\x7b', _, rfl, by decide, rfl⟩
  | object _ => exact ⟨'\x7b', _, rfl, by decide, rfl⟩
  | number h =>
    cases h with
    | negative _ => exact ⟨'-', _, rfl, by decide, Or.inl rfl⟩
    | positive h =>
      obtain ⟨c, rest, rfl, hc⟩ := h.exists_head
      exact ⟨c, rest, rfl, isGap_of_isAsciiDigit hc, Or.inr hc⟩

/-- A value starts with neither a gap nor a closing bracket. -/
theorem Writes.exists_head {j : Json} (h : Writes t (.value j)) :
    ∃ c rest, t = c :: rest ∧ isGap c = false ∧ c ≠ ']' := by
  obtain ⟨c, rest, rfl, hc, hstart⟩ := h.exists_startsWith
  refine ⟨c, rest, rfl, hc, ?_⟩
  rintro rfl
  cases j <;> simp +decide [StartsWith] at hstart

/-- Items start, behind a gap, with no closing bracket. -/
theorem Writes.exists_head_items {items : List Json} (h : Writes t (.items items)) :
    ∃ gap c rest, t = gap ++ c :: rest ∧ Gap gap ∧ isGap c = false ∧ c ≠ ']' := by
  have hpadded : ∀ {t j}, Writes t (.padded j) →
      ∃ gap c rest, t = gap ++ c :: rest ∧ Gap gap ∧ isGap c = false ∧ c ≠ ']' := by
    intro t j h
    cases h with
    | padded hgap h _ =>
      obtain ⟨c, rest, rfl, hc⟩ := h.exists_head
      exact ⟨_, c, _, rfl, hgap, hc⟩
  cases h with
  | lastItem h => exact hpadded h
  | items h _ =>
    obtain ⟨gap, c, rest, rfl, hgap, hc⟩ := hpadded h
    exact ⟨gap, c, _, by rw [List.append_assoc, List.cons_append], hgap, hc⟩

/-- Members start, behind a gap, with a quote. -/
theorem Writes.exists_head_members {members : List (Text × Json)}
    (h : Writes t (.members members)) :
    ∃ gap rest, t = gap ++ '\"' :: rest ∧ Gap gap := by
  have hmember : ∀ {t m}, Writes t (.member m) → ∃ gap rest, t = gap ++ '\"' :: rest ∧ Gap gap := by
    intro t m h
    cases h with
    | member hgap _ _ _ => exact ⟨_, _, rfl, hgap⟩
  cases h with
  | lastMember h => exact hmember h
  | members h _ =>
    obtain ⟨gap, rest, rfl, hgap⟩ := hmember h
    exact ⟨gap, _, by rw [List.append_assoc, List.cons_append], hgap⟩

end PlanetScript.Json
