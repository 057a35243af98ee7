import Mathlib.Algebra.Order.Field.Rat
import Mathlib.Tactic.FieldSimp
import Mathlib.Tactic.NormNum
import Mathlib.Tactic.Ring
import PlanetScript.Field.Coordinate
import PlanetScript.Proofs.Text.Trimmed

/-! # Integers as numbers

The integers up to `2 ^ 53` are numbers: the number nearest to such an integer is the integer
itself (`Number.value_ofInt`).  And the text of an integer, in the place of a coordinate, is
read as this number in both styles (`NumberStyle.coordinate_ofInt`), so a coordinate that was
written as such an integer is read exactly.
-/
namespace PlanetScript
open Text

/-! ### Exactness -/

/-- The rational number that a finite number is. -/
def FiniteNumber.value (x : FiniteNumber) : ℚ :=
  (if x.negative then -1 else 1) * x.mantissa * 2 ^ x.exponent

namespace Number
variable {k : Nat}

theorem power_of_nonpos {base : Nat} {e : Int} (h : e ≤ 0) : power base e = 1 := by
  rw [power, Int.toNat_of_nonpos h]
  rfl

theorem power_natCast (base k : Nat) : power base k = base ^ k := by
  rw [power, Int.toNat_natCast]
  rfl

/-- The leading binary place of a positive integer is its binary logarithm. -/
theorem leadingPlace_one (hk : k ≠ 0) : leadingPlace k 1 = k.log2 := by
  have hguess : (k.log2 : Int) - (Nat.log2 1 : Int) = k.log2 := by
    rw [show Nat.log2 1 = 0 from by decide]
    omega
  have hle : 2 ^ k.log2 ≤ k := Nat.log2_self_le hk
  have hnegative : -(k.log2 : Int) ≤ 0 := by omega
  unfold leadingPlace
  simp only [hguess, power_natCast, power_of_nonpos hnegative, one_mul, mul_one, if_pos hle]

/-- An integer over one needs no rounding. -/
theorem roundQuotient_one (num : Nat) : roundQuotient num 1 = num := by
  unfold roundQuotient
  simp [Nat.mod_one]

theorem log2_le_of_lt (hk : k ≠ 0) (hlt : k < 2 ^ 53) : k.log2 ≤ 52 :=
  Nat.le_of_lt_succ ((Nat.log2_lt hk).mpr hlt)

/-- A positive integer below `2 ^ 53`, shifted until its leading digit is the first of 53. -/
theorem canonicalMagnitude_shifted (hk : k ≠ 0) (hlt : k < 2 ^ 53) :
    CanonicalMagnitude (k * 2 ^ (52 - k.log2)) ((k.log2 : Int) - 52) := by
  have hlog := log2_le_of_lt hk hlt
  have hlow : 2 ^ k.log2 * 2 ^ (52 - k.log2) = leastMantissa := by
    rw [← pow_add, Nat.add_sub_cancel' hlog]
    rfl
  have hhigh : 2 ^ (k.log2 + 1) * 2 ^ (52 - k.log2) = mantissaLimit := by
    rw [pow_succ, mul_right_comm, hlow]
    rfl
  have hpos : 0 < 2 ^ (52 - k.log2) := Nat.two_pow_pos _
  refine ⟨?_, by omega, by omega, Or.inl ?_⟩
  · rw [← hhigh]
    exact Nat.mul_lt_mul_of_pos_right Nat.lt_log2_self hpos
  · rw [← hlow]
    exact Nat.mul_le_mul_right _ (Nat.log2_self_le hk)

theorem ofQuotient_one (negative : Bool) (hk : k ≠ 0) (hlt : k < 2 ^ 53) :
    ofQuotient negative k 1 =
      .finite ⟨negative, k * 2 ^ (52 - k.log2), (k.log2 : Int) - 52,
        canonicalMagnitude_shifted hk hlt⟩ := by
  have hcanonical := canonicalMagnitude_shifted hk hlt
  have hlog := log2_le_of_lt hk hlt
  have hplace : lastPlace k 1 = (k.log2 : Int) - 52 := by
    rw [lastPlace, leadingPlace_one hk]
    omega
  have hshift : power 2 (-((k.log2 : Int) - 52)) = 2 ^ (52 - k.log2) := by
    rw [show -((k.log2 : Int) - 52) = ((52 - k.log2 : Nat) : Int) by omega, power_natCast]
  have hmantissa : k * 2 ^ (52 - k.log2) ≠ mantissaLimit := Nat.ne_of_lt hcanonical.1
  unfold ofQuotient
  simp only [if_neg hk, hplace, hshift, power_of_nonpos (show (k.log2 : Int) - 52 ≤ 0 by omega),
    mul_one, roundQuotient_one, if_neg hmantissa]
  exact dif_pos hcanonical

theorem ofDecimal_integer (negative : Bool) (hk : k ≠ 0) :
    ofDecimal negative ⟨k, 0⟩ = ofQuotient negative k 1 := by
  have hsmall : ¬ (0 : Int) + (k.log2 + 1 : Nat) < -400 := by omega
  have hpower : power 10 (0 : Int) = 1 := rfl
  unfold ofDecimal
  simp only [if_neg hk, if_neg hsmall, if_neg (show ¬ (400 : Int) < 0 by decide), neg_zero, hpower,
    mul_one]

/-- The limit itself has 54 digits, of which the last is dropped. -/
theorem ofDecimal_limit (negative : Bool) : ∃ x : FiniteNumber,
    ofDecimal negative ⟨2 ^ 53, 0⟩ = .finite x ∧ x.negative = negative ∧
      x.mantissa = 2 ^ 52 ∧ x.exponent = 1 :=
  ⟨⟨negative, 2 ^ 52, 1, by decide⟩, by cases negative <;> decide, rfl, rfl, rfl⟩

theorem sign_mul_natAbs (n : Int) :
    (if decide (n < 0) then (-1 : ℚ) else 1) * (n.natAbs : ℚ) = n := by
  rw [← Int.cast_natCast n.natAbs]
  by_cases hneg : n < 0
  · have hn : -(n.natAbs : ℤ) = n := by omega
    rw [decide_eq_true hneg, if_pos rfl, neg_one_mul, ← Int.cast_neg, hn]
  · have hn : (n.natAbs : ℤ) = n := by omega
    rw [decide_eq_false hneg, if_neg Bool.false_ne_true, one_mul, hn]

/-- **An integer up to `2 ^ 53` is the number nearest to it.** -/
theorem value_ofInt {n : Int} (h : n.natAbs ≤ 2 ^ 53) :
    ∃ x, ofInt n = .finite x ∧ x.value = n := by
  by_cases hzero : n.natAbs = 0
  · obtain rfl : n = 0 := Int.natAbs_eq_zero.mp hzero
    exact ⟨_, rfl, by simp [FiniteNumber.value]⟩
  have hsign := sign_mul_natAbs n
  rcases Nat.lt_or_eq_of_le h with hlt | hlimit
  · refine ⟨_, (ofDecimal_integer _ hzero).trans (ofQuotient_one _ hzero hlt), ?_⟩
    have hlog := log2_le_of_lt hzero hlt
    have hunit : (2 : ℚ) ^ (52 - n.natAbs.log2) * 2 ^ ((n.natAbs.log2 : Int) - 52) = 1 := by
      rw [← zpow_natCast, ← zpow_add₀ (by norm_num : (2 : ℚ) ≠ 0)]
      rw [show ((52 - n.natAbs.log2 : Nat) : Int) + ((n.natAbs.log2 : Int) - 52) = 0 by omega]
      exact zpow_zero 2
    simp only [FiniteNumber.value, Nat.cast_mul, Nat.cast_pow, Nat.cast_ofNat]
    rw [mul_assoc, mul_assoc, hunit, mul_one, hsign]
  · obtain ⟨x, hx, hnegative, hmantissa, hexponent⟩ := ofDecimal_limit (decide (n < 0))
    refine ⟨x, by rw [ofInt, hlimit]; exact hx, ?_⟩
    rw [← hsign, hlimit, FiniteNumber.value, hnegative, hmantissa, hexponent]
    norm_num [mul_assoc]

end Number

/-! ### The text of an integer -/

namespace Text

/-- An integer as it is written: its digits, behind a minus sign if it is negative. -/
def ofInt (n : Int) : Text := if n < 0 then '-' :: ofNat n.natAbs else ofNat n.natAbs

variable {c : Char} {k : Nat} {n : Int}

theorem isAsciiDigit_of_mem_ofNat (h : c ∈ ofNat k) : isAsciiDigit c = true := by
  have hdigit : c.isDigit = true := Nat.isDigit_of_mem_toDigits (by decide) (by decide) h
  exact hdigit

theorem isDigit_of_mem_ofNat (h : c ∈ ofNat k) : isDigit c = true :=
  isDigit_of_isAsciiDigit (isAsciiDigit_of_mem_ofNat h)

theorem ofNat_ne_nil (k : Nat) : ofNat k ≠ [] := Nat.toDigits_ne_nil

/-- The digits of a natural number name it. -/
theorem digitsValue_ofNat (k : Nat) : digitsValue (ofNat k) = k := Nat.ofDigitChars_ten_toDigits

theorem isAsciiDigit_of_mem_ofInt (h : c ∈ ofInt n) : c = '-' ∨ isAsciiDigit c = true := by
  unfold ofInt at h
  split at h
  · rcases List.mem_cons.mp h with rfl | hdigit
    · exact Or.inl rfl
    · exact Or.inr (isAsciiDigit_of_mem_ofNat hdigit)
  · exact Or.inr (isAsciiDigit_of_mem_ofNat h)

theorem isBlank_of_mem_ofInt (h : c ∈ ofInt n) : isBlank c = false := by
  rcases isAsciiDigit_of_mem_ofInt h with rfl | hdigit
  · decide
  · exact isBlank_of_isDigit (isDigit_of_isAsciiDigit hdigit)

/-- A character that is no digit is no sign. -/
theorem splitSign_of_isDigit {t : Text} (h : ∀ c ∈ t.head?, isDigit c = true) :
    splitSign t = (false, t) := by
  unfold splitSign
  split
  · next t => exact absurd (h '-' rfl) (by decide)
  · next t => exact absurd (h '+' rfl) (by decide)
  · rfl

theorem splitSign_ofInt (n : Int) : splitSign (ofInt n) = (decide (n < 0), ofNat n.natAbs) := by
  unfold ofInt
  split
  · next hneg => rw [decide_eq_true hneg]; rfl
  · next hneg =>
    rw [decide_eq_false hneg]
    exact splitSign_of_isDigit fun c hc => isDigit_of_mem_ofNat (List.mem_of_mem_head? hc)

end Text

namespace Numeral

/-- Digits alone are a numeral. -/
theorem scan?_digits {t : Text} (hne : t ≠ []) (h : ∀ c ∈ t, isDigit c = true) :
    scan? t = some (⟨t, [], false, []⟩, []) := by
  have htake : t.takeWhile isDigit = t := List.takeWhile_eq_self_iff.mpr h
  have hdrop : t.dropWhile isDigit = [] := List.dropWhile_eq_nil_iff.mpr h
  unfold scan? splitDigits
  rw [htake, hdrop]
  simp [splitFraction, splitExponent, hne]

end Numeral

/-- The text of an integer names the number nearest to it. -/
theorem Number.read?_ofInt (n : Int) : Number.read? (Text.ofInt n) = some (Number.ofInt n) := by
  have hascii : (ofNat n.natAbs).all isAsciiDigit = true :=
    List.all_eq_true.mpr fun c hc => isAsciiDigit_of_mem_ofNat hc
  have hscan := Numeral.scan?_digits (ofNat_ne_nil n.natAbs) fun c hc => isDigit_of_mem_ofNat hc
  unfold Number.read?
  rw [splitSign_ofInt]
  simp only [hscan, Numeral.value?, List.append_nil, hascii, if_pos, Option.map_some]
  rw [digitsValue_ofNat]
  rfl

theorem isSignedInteger_ofInt (n : Int) : isSignedInteger (Text.ofInt n) = true := by
  have hdigits : ∀ c ∈ ofNat n.natAbs, isDigit c = true := fun c hc => isDigit_of_mem_ofNat hc
  unfold isSignedInteger
  rw [splitSign_ofInt]
  simpa [ofNat_ne_nil] using hdigits

/-- The comma or semicolon behind an integer is no part of it. -/
theorem coordinateText_ofInt (n : Int) {stop : Char} (hstop : stop = ',' ∨ stop = ';') :
    coordinateText (' ' :: (Text.ofInt n ++ [stop])) = Text.ofInt n := by
  have hkept : ∀ c ∈ ' ' :: Text.ofInt n, (!(c == ',' || c == ';')) = true := by
    intro c hc
    rcases List.mem_cons.mp hc with rfl | hc
    · decide
    rcases isAsciiDigit_of_mem_ofInt hc with rfl | hdigit
    · decide
    have hcomma : c ≠ ',' := by
      rintro rfl
      exact absurd hdigit (by decide)
    have hsemicolon : c ≠ ';' := by
      rintro rfl
      exact absurd hdigit (by decide)
    rw [beq_eq_false_iff_ne.mpr hcomma, beq_eq_false_iff_ne.mpr hsemicolon]
    rfl
  have htake : (' ' :: (Text.ofInt n ++ [stop])).takeWhile (fun c => !(c == ',' || c == ';')) =
      ' ' :: Text.ofInt n := by
    rw [← List.cons_append, List.takeWhile_append_of_pos hkept]
    rcases hstop with rfl | rfl <;> exact List.append_nil _
  rw [coordinateText, htake]
  exact (Trimmed.of_forall fun c hc => isBlank_of_mem_ofInt hc).trim_cons (by decide)

/-- **An integer up to `2 ^ 53` is read as itself** where a coordinate stands, with a comma or
semicolon behind it. -/
theorem NumberStyle.coordinate_ofInt (style : NumberStyle) {n : Int} (h : n.natAbs ≤ 2 ^ 53)
    {stop : Char} (hstop : stop = ',' ∨ stop = ';') :
    style.coordinate (' ' :: (Text.ofInt n ++ [stop])) = Number.ofInt n := by
  obtain ⟨x, hx, -⟩ := Number.value_ofInt h
  rw [NumberStyle.coordinate, coordinateText_ofInt n hstop]
  cases style with
  | strictInteger =>
    simp only [NumberStyle.number, if_pos (isSignedInteger_ofInt n), Number.read?_ofInt,
      Option.getD_some]
  | lenient => simp only [NumberStyle.number, Number.read?_ofInt, hx]

end PlanetScript
