import PlanetScript.Proofs.Number.Literal
import PlanetScript.Proofs.Number.Longest
import PlanetScript.Proofs.Number.Overflow

/-! # The two number styles

What the two styles make of the text of a coordinate (`NumberStyle.readings_coordinate`).  Of the
text only the part before the first comma or semicolon counts, without blanks around it.  If this
part is an integer whose nearest number is finite, both styles give that number; in the strict style
every other part is 0 unless its digits are those of an integer that is too large.  In the lenient
style a decimal is the number nearest to it, if that is finite, and everything else is 0.
-/
namespace PlanetScript
open Text

/-- The texts of an integer: a sign or none, and ASCII digits, with any zeros before them. -/
inductive IntegerText : Text → Int → Prop
  | intro {sign digits : Text} (hsign : Sign sign) (hne : digits ≠ [])
      (hascii : ∀ c ∈ digits, isAsciiDigit c = true) :
      IntegerText (sign ++ digits)
        (if sign = ['-'] then -(digitsValue digits : Int) else digitsValue digits)

/-- The texts that a sign, or none, and digits of any script make. -/
inductive SignedDigits : Text → Prop
  | intro {sign digits : Text} (hsign : Sign sign) (hdigits : Digits digits) (hne : digits ≠ []) :
      SignedDigits (sign ++ digits)

/-- The texts of a decimal, a numeral in ASCII digits behind a sign or none, each with the number
nearest to it. -/
inductive DecimalText : Text → Number → Prop
  | intro {sign body : Text} {n : Numeral} {d : Decimal} (hsign : Sign sign)
      (hspells : n.Spells body) (hvalue : n.value? = some d) :
      DecimalText (sign ++ body) (Number.ofDecimal (decide (sign = ['-'])) d)

/-- The names of infinity and NaN, in any case. -/
def IsName (t : Text) : Prop :=
  t.map Char.toLower ∈ ["inf".toList, "infinity".toList, "nan".toList]

instance (t : Text) : Decidable (IsName t) := inferInstanceAs (Decidable (_ ∈ _))

/-! ### Names -/

/-- A digit is no capital letter. -/
theorem Text.toLower_of_isDigit {c : Char} (h : isDigit c = true) : c.toLower = c := by
  have hapart : ∀ first ∈ digitRows, first + 10 ≤ 'A'.toNat ∨ 'Z'.toNat < first := by decide
  obtain ⟨first, hfirst, hdigit⟩ := List.any_eq_true.mp h
  simp only [Bool.and_eq_true, decide_eq_true_eq] at hdigit
  refine dif_neg fun hcapital => ?_
  have hlow : 'A'.toNat ≤ c.toNat := UInt32.le_iff_toNat_le.mp hcapital.1
  have hhigh : c.toNat ≤ 'Z'.toNat := UInt32.le_iff_toNat_le.mp hcapital.2
  rcases hapart first hfirst with hbelow | habove <;> omega

namespace IsName
variable {name : Text}

theorem exists_head (h : IsName name) :
    ∃ c rest, name = c :: rest ∧ (c.toLower = 'i' ∨ c.toLower = 'n') := by
  have hnames : ∀ t ∈ ["inf".toList, "infinity".toList, "nan".toList],
      t.head? = some 'i' ∨ t.head? = some 'n' := by decide
  have hhead := hnames _ h
  cases name with
  | nil => exact absurd hhead (by decide)
  | cons c rest =>
    simp only [List.map_cons, List.head?_cons, Option.some_inj] at hhead
    exact ⟨c, rest, rfl, hhead⟩

/-- No sign stands at the head of a name. -/
theorem head (h : IsName name) : ∀ c ∈ name.head?, c ≠ '+' ∧ c ≠ '-' := by
  obtain ⟨d, rest, rfl, hd⟩ := h.exists_head
  intro c hc
  obtain rfl : d = c := Option.some.inj hc
  constructor
  · rintro rfl
    exact absurd hd (by decide)
  · rintro rfl
    exact absurd hd (by decide)

/-- A name writes no numeral: it starts with neither a digit nor a point. -/
theorem not_spells (h : IsName name) (n : Numeral) : ¬ n.Spells name := by
  obtain ⟨d, rest, rfl, hd⟩ := h.exists_head
  intro hspells
  generalize ht : d :: rest = t at hspells
  cases hspells with
  | point _ _ _ =>
    obtain ⟨rfl, -⟩ := List.cons.inj ht
    exact absurd hd (by decide)
  | @whole whole _ _ _ _ _ hwhole hne _ _ =>
    obtain ⟨c, whole, rfl⟩ := List.exists_cons_of_ne_nil hne
    obtain ⟨rfl, -⟩ := List.cons.inj ht
    have hdigit := hwhole d List.mem_cons_self
    rw [toLower_of_isDigit hdigit] at hd
    rcases hd with rfl | rfl
    · exact absurd hdigit (by decide)
    · exact absurd hdigit (by decide)

end IsName

/-! ### Integers and decimals -/

theorem isSignedInteger_iff {t : Text} : isSignedInteger t = true ↔ SignedDigits t := by
  constructor
  · intro h
    obtain ⟨sign, hsign, ht, -⟩ := exists_sign t
    simp only [isSignedInteger, Bool.and_eq_true, Bool.not_eq_true',
      List.isEmpty_eq_false_iff, List.all_eq_true] at h
    rw [ht]
    exact .intro hsign h.2 h.1
  · rintro ⟨hsign, hdigits, hne⟩
    rw [isSignedInteger, Numeral.splitSign_digits hsign hdigits hne]
    simp only [Bool.and_eq_true, Bool.not_eq_true', List.isEmpty_eq_false_iff, List.all_eq_true]
    exact ⟨hne, hdigits⟩

namespace IntegerText
variable {t : Text} {n : Int}

theorem signedDigits (h : IntegerText t n) : SignedDigits t := by
  obtain ⟨hsign, hne, hascii⟩ := h
  exact .intro hsign (fun c hc => isDigit_of_isAsciiDigit (hascii c hc)) hne

end IntegerText

namespace Number
variable {t sign digits : Text} {n : Int} {x : FiniteNumber} {y : Number}

/-- A sign and an integer up to `2 ^ 53` are read exactly. -/
theorem value_ofDecimal_integer (negative : Bool) {k : Nat} (h : k ≤ 2 ^ 53) :
    ∃ x, ofDecimal negative ⟨k, 0⟩ = .finite x ∧
      x.value = if negative = true then -(k : ℚ) else k := by
  by_cases hzero : k = 0
  · subst hzero
    refine ⟨_, rfl, ?_⟩
    cases negative <;> simp [FiniteNumber.value]
  cases negative with
  | true =>
    obtain ⟨x, hx, hvalue⟩ := value_ofInt (n := -(k : Int)) (by omega)
    have hneg : decide (-(k : Int) < 0) = true := decide_eq_true (by omega)
    rw [ofInt, hneg, Int.natAbs_neg, Int.natAbs_natCast] at hx
    exact ⟨x, hx, by rw [hvalue]; simp⟩
  | false =>
    obtain ⟨x, hx, hvalue⟩ := value_ofInt (n := (k : Int)) (by omega)
    have hneg : decide ((k : Int) < 0) = false := decide_eq_false (by omega)
    rw [ofInt, hneg, Int.natAbs_natCast] at hx
    exact ⟨x, hx, by rw [hvalue]; simp⟩

/-- A sign and digits name a number only if the digits are those of ASCII, and then the one nearest
to the integer. -/
theorem read?_signedDigits (hsign : Sign sign) (hdigits : Digits digits) (hne : digits ≠ []) :
    read? (sign ++ digits) =
      if digits.all isAsciiDigit = true then
        some (ofDecimal (decide (sign = ['-'])) ⟨digitsValue digits, 0⟩)
      else none := by
  rw [NumberStyle.read?_of_isSignedInteger (isSignedInteger_iff.mpr (.intro hsign hdigits hne)),
    Numeral.splitSign_digits hsign hdigits hne]

/-- The text of an integer whose nearest number is finite names that number, which is the integer
itself up to `2 ^ 53`. -/
theorem read?_integerText (h : IntegerText t n) (hfinite : (ofInt n).IsFinite) :
    ∃ x, read? t = some (.finite x) ∧ (n.natAbs ≤ 2 ^ 53 → x.value = n) := by
  obtain ⟨hsign, hne, hascii⟩ := h
  rename_i sign digits
  have habs : (if sign = ['-'] then -(digitsValue digits : Int) else digitsValue digits).natAbs =
      digitsValue digits := by
    split
    · rw [Int.natAbs_neg, Int.natAbs_natCast]
    · rw [Int.natAbs_natCast]
  rw [ofInt, isFinite_ofDecimal_iff, habs] at hfinite
  rw [read?_signedDigits hsign (fun c hc => isDigit_of_isAsciiDigit (hascii c hc)) hne,
    if_pos (List.all_eq_true.mpr hascii), habs]
  have hnumber := (isFinite_ofDecimal_iff (decide (sign = ['-'])) _).mpr hfinite
  cases hx : ofDecimal (decide (sign = ['-'])) ⟨digitsValue digits, 0⟩ with
  | finite x =>
    refine ⟨x, rfl, fun hsmall => ?_⟩
    obtain ⟨y, hy, hvalue⟩ := value_ofDecimal_integer (decide (sign = ['-'])) hsmall
    obtain rfl : x = y := by
      rw [hx] at hy
      exact Number.finite.inj hy
    simp only [decide_eq_true_eq] at hvalue
    rw [hvalue]
    split
    · rw [Int.cast_neg, Int.cast_natCast]
    · rw [Int.cast_natCast]
  | infinite negative =>
    rw [hx] at hnumber
    exact absurd hnumber id
  | nan =>
    rw [hx] at hnumber
    exact absurd hnumber id

theorem read?_of_decimalText (h : DecimalText t y) : read? t = some y := by
  obtain ⟨hsign, hspells, hvalue⟩ := h
  rw [read?_numeral hsign hspells, hvalue, Option.map_some]

/-- Nothing but a decimal names a finite number. -/
theorem decimalText_of_read? (h : read? t = some (.finite x)) : DecimalText t (.finite x) := by
  obtain ⟨n, hscan, hvalue⟩ := scan?_of_read? h
  obtain ⟨sign, hsign, ht, hnegative⟩ := exists_sign t
  obtain ⟨body, hspells, hbody⟩ := Numeral.exists_spells hscan
  obtain ⟨d, hd, hx⟩ := Option.map_eq_some_iff.mp hvalue
  rw [List.append_nil] at hbody
  rw [ht, hbody, ← hx, hnegative]
  exact .intro hsign hspells hd

/-- A digit of another script is in no decimal. -/
theorem not_foreign_of_decimalText (h : DecimalText t y) : ¬ ∃ c ∈ t, IsForeignDigit c := by
  have hread := read?_of_decimalText h
  obtain ⟨hsign, hspells, hvalue⟩ := h
  intro hforeign
  rw [(read?_eq_none_iff (.intro hsign (.numeral hspells))).mpr hforeign] at hread
  cases hread

/-- A name, behind a sign or none, is no decimal. -/
theorem not_decimalText_of_isName {name : Text} (hsign : Sign sign) (h : IsName name) :
    ¬ DecimalText (sign ++ name) y := by
  intro hdecimal
  generalize ht : sign ++ name = t at hdecimal
  obtain ⟨hsign', hspells, -⟩ := hdecimal
  rename_i sign' body n d
  have hbody : body = name := by
    have hsplit := hsign.splitSign_append h.head
    rw [ht, UnsignedLiteral.splitSign_eq hsign' (.numeral hspells)] at hsplit
    exact (Prod.mk.inj hsplit).2
  rw [hbody] at hspells
  exact h.not_spells n hspells

end Number

/-! ### The text of a coordinate -/

/-- The part of a text that counts is all that counts of itself. -/
theorem coordinateText_coordinateText (raw : Text) :
    coordinateText (coordinateText raw) = coordinateText raw := by
  have hkept : (coordinateText raw).takeWhile (fun c => !(c == ',' || c == ';')) =
      coordinateText raw := by
    refine List.takeWhile_eq_self_iff.mpr fun c hc => ?_
    have hmem := mem_of_mem_trim hc
    have hbefore := List.mem_takeWhile_imp hmem
    exact hbefore
  rw [coordinateText, hkept]
  exact (trimmed_trim _).trim_eq

namespace NumberStyle

/-- What the two styles make of the text of a coordinate, when this part of it counts. -/
structure Readings (raw part : Text) : Prop where
  /-- Nothing else of the text counts. -/
  counted : ∀ style : NumberStyle, style.coordinate raw = style.coordinate part
  /-- An integer whose nearest number is finite is that number in both styles. -/
  integer : ∀ n, IntegerText part n → (Number.ofInt n).IsFinite →
    ∃ x : FiniteNumber, strictInteger.coordinate raw = .finite x ∧
      lenient.coordinate raw = .finite x ∧ (n.natAbs ≤ 2 ^ 53 → x.value = n)
  /-- In the strict style all but an integer in ASCII digits is 0. -/
  strict : ¬ SignedDigits part ∨ (∃ c ∈ part, IsForeignDigit c) →
    strictInteger.coordinate raw = .zero
  finite : (lenient.coordinate raw).IsFinite
  /-- In the lenient style a decimal is the number nearest to it, if that is finite. -/
  decimal : ∀ x, DecimalText part x → lenient.coordinate raw = if x.IsFinite then x else .zero
  /-- In the lenient style everything else is 0. -/
  other : (∀ x, ¬ DecimalText part x) → lenient.coordinate raw = .zero
  foreign : (∃ c ∈ part, IsForeignDigit c) → lenient.coordinate raw = .zero
  name : ∀ sign name, Sign sign → part = sign ++ name → IsName name →
    lenient.coordinate raw = .zero

section Readings
variable {t : Text} {x : FiniteNumber} {y : Number}

theorem lenient_of_finite (h : Number.read? t = some (.finite x)) :
    lenient.number t = .finite x := by
  simp only [number, h]

theorem lenient_of_not (h : ∀ x, ¬ DecimalText t (.finite x)) : lenient.number t = .zero := by
  simp only [number]
  split
  · next x hx => exact absurd (Number.decimalText_of_read? hx) (h x)
  · rfl

theorem lenient_of_decimalText (h : DecimalText t y) :
    lenient.number t = if y.IsFinite then y else .zero := by
  have hread := Number.read?_of_decimalText h
  cases y with
  | finite x => rw [lenient_of_finite hread, if_pos (show (Number.finite x).IsFinite from trivial)]
  | infinite negative =>
    simp only [number, hread]
    rfl
  | nan =>
    simp only [number, hread]
    rfl

theorem strict_of_signedDigits (h : SignedDigits t) :
    strictInteger.number t = (Number.read? t).getD .zero := by
  simp only [number, if_pos (isSignedInteger_iff.mpr h)]

theorem strict_of_not (h : ¬ SignedDigits t) : strictInteger.number t = .zero := by
  simp only [number, if_neg (mt isSignedInteger_iff.mp h)]

/-- In the strict style a digit of another script makes any text 0. -/
theorem strict_of_foreign (h : ∃ c ∈ t, IsForeignDigit c) : strictInteger.number t = .zero := by
  by_cases hsigned : SignedDigits t
  · have hnone : Number.read? t = none := by
      obtain ⟨hsign, hdigits, hne⟩ := hsigned
      rename_i sign digits
      rw [Number.read?_signedDigits hsign hdigits hne]
      refine if_neg fun hascii => ?_
      obtain ⟨c, hc, hdigit, hforeign⟩ := h
      rcases List.mem_append.mp hc with hc | hc
      · rw [hsign.isDigit_of_mem hc] at hdigit
        cases hdigit
      · rw [List.all_eq_true.mp hascii c hc] at hforeign
        cases hforeign
    rw [strict_of_signedDigits hsigned, hnone, Option.getD_none]
  · exact strict_of_not hsigned

end Readings

theorem readings_coordinate (raw : Text) : Readings raw (coordinateText raw) where
  counted := fun style => by rw [coordinate, coordinate, coordinateText_coordinateText]
  integer := by
    intro n hinteger hfinite
    obtain ⟨x, hread, hvalue⟩ := Number.read?_integerText hinteger hfinite
    refine ⟨x, ?_, lenient_of_finite hread, hvalue⟩
    rw [coordinate, strict_of_signedDigits hinteger.signedDigits, hread, Option.getD_some]
  strict := by
    rintro (hnot | hforeign)
    · exact strict_of_not hnot
    · exact strict_of_foreign hforeign
  finite := isFinite_lenient _
  decimal := fun x h => lenient_of_decimalText h
  other := fun h => lenient_of_not fun x => h (.finite x)
  foreign := fun h => lenient_of_not fun x hx => Number.not_foreign_of_decimalText hx h
  name := by
    intro sign name hsign hpart hname
    refine lenient_of_not fun x => ?_
    rw [hpart]
    exact Number.not_decimalText_of_isName hsign hname

-- zeros before an integer count for nothing, and a point is read in the lenient style alone
example :
    (∀ style : NumberStyle, style.coordinate " +007 ; 8".toList = Number.ofInt 7) ∧
      strictInteger.coordinate "7.0".toList = .zero ∧
      lenient.coordinate "7.0".toList = Number.ofInt 7 := by
  refine ⟨fun style => ?_, by decide, by decide⟩
  cases style <;> decide

end NumberStyle
end PlanetScript
