import PlanetScript.Proofs.Number.Integer

/-! # Integers that are too large

The number nearest to an integer is infinite from `Number.overflowLimit` on, which is halfway from
the largest finite number to `2 ^ 1024` (`Number.isFinite_ofDecimal_iff`).  A coordinate in the
lenient style is never infinite, because what was read is looked at once more; in the strict style
it is not, and so the digits of such an integer are all that makes a coordinate infinite
(`NumberStyle.isFinite_coordinate_iff`).
-/
namespace PlanetScript
open Text

namespace Number
variable {num den k n : Nat}

/-- The least integer whose nearest number is infinite.  It is as near to the largest finite
number as to `2 ^ 1024`, and the tie goes to the even mantissa, which is out of range. -/
def overflowLimit : Nat := (2 ^ 54 - 1) * 2 ^ 970

theorem two_pow_lt_overflowLimit : 2 ^ 53 < overflowLimit := by
  have hlarge : ∀ k, 2 ^ 53 < (2 ^ 54 - 1) * 2 ^ k := by
    intro k
    have hpos := Nat.two_pow_pos k
    omega
  exact hlarge 970

/-! ### Rounding a quotient -/

theorem div_le_roundQuotient (num den : Nat) : num / den ≤ roundQuotient num den := by
  unfold roundQuotient
  simp only
  split
  · exact Nat.le_refl _
  · split
    · exact Nat.le_succ _
    · split
      · exact Nat.le_refl _
      · exact Nat.le_succ _

theorem roundQuotient_le_div_add_one (num den : Nat) : roundQuotient num den ≤ num / den + 1 := by
  unfold roundQuotient
  simp only
  split
  · exact Nat.le_succ _
  · split
    · exact Nat.le_refl _
    · split
      · exact Nat.le_succ _
      · exact Nat.le_refl _

/-- A quotient with an odd integer part is rounded up from the middle on. -/
theorem roundQuotient_of_odd (h : num / den % 2 = 1) :
    roundQuotient num den = if 2 * (num % den) < den then num / den else num / den + 1 := by
  have hodd : ¬ num / den % 2 = 0 := by omega
  unfold roundQuotient
  simp only [if_neg hodd, ite_self]

/-- Rounding goes beyond an odd integer from the middle to the next one on. -/
theorem lt_roundQuotient_iff (hden : 0 < den) (hodd : k % 2 = 1) :
    k < roundQuotient num den ↔ (2 * k + 1) * den ≤ 2 * num := by
  have hnum : den * (num / den) + num % den = num := Nat.div_add_mod num den
  have hmod : num % den < den := Nat.mod_lt num hden
  have hmiddle : (2 * k + 1) * den = 2 * (den * k) + den := by ring
  rw [hmiddle]
  rcases Nat.lt_trichotomy (num / den) k with hlt | heq | hgt
  · have hround := roundQuotient_le_div_add_one num den
    have hbelow : den * (num / den) + den ≤ den * k := Nat.mul_le_mul_left den hlt
    omega
  · rw [roundQuotient_of_odd (heq ▸ hodd), heq]
    rw [heq] at hnum
    split
    · omega
    · omega
  · have hround := div_le_roundQuotient num den
    have habove : den * k + den ≤ den * (num / den) := Nat.mul_le_mul_left den hgt
    omega

/-! ### The exponent of a large integer -/

theorem isFinite_ofParts {negative : Bool} {mantissa : Nat} {exponent : Int} :
    (ofParts negative mantissa exponent).IsFinite ↔ CanonicalMagnitude mantissa exponent := by
  unfold ofParts
  split
  · next h => exact iff_of_true trivial h
  · next h => exact iff_of_false id h

/-- A mantissa of 53 bits is canonical up to the largest exponent. -/
theorem canonicalMagnitude_iff {mantissa q : Nat} (hleast : leastMantissa ≤ mantissa)
    (hlimit : mantissa < mantissaLimit) : CanonicalMagnitude mantissa q ↔ q ≤ 971 := by
  unfold CanonicalMagnitude
  constructor
  · rintro ⟨-, -, hq, -⟩
    omega
  · intro hq
    exact ⟨hlimit, by omega, by omega, Or.inl hleast⟩

/-- The mantissa of an integer with `53 + q` bits, rounded to 53 of them. -/
theorem ofQuotient_of_log2 (negative : Bool) {q : Nat} (hlog : n.log2 = 52 + q) :
    ofQuotient negative n 1 =
      if roundQuotient n (2 ^ q) = mantissaLimit then ofParts negative leastMantissa (q + 1)
      else ofParts negative (roundQuotient n (2 ^ q)) q := by
  have hn : n ≠ 0 := by
    rintro rfl
    rw [Nat.log2_zero] at hlog
    omega
  have hplace : lastPlace n 1 = q := by
    rw [lastPlace, leadingPlace_one hn, hlog]
    omega
  unfold ofQuotient
  simp only [if_neg hn, hplace, power_natCast, power_of_nonpos (show -(q : Int) ≤ 0 by omega),
    mul_one, one_mul]

/-- An integer with `53 + q` bits, and its mantissa. -/
structure Magnitude (n q : Nat) : Prop where
  low : leastMantissa * 2 ^ q ≤ n
  high : n < mantissaLimit * 2 ^ q

theorem magnitude_of_log2 {q : Nat} (hlog : n.log2 = 52 + q) : Magnitude n q where
  low := by
    have hn : n ≠ 0 := by
      rintro rfl
      rw [Nat.log2_zero] at hlog
      omega
    rw [show leastMantissa = 2 ^ 52 from rfl, ← pow_add, ← hlog]
    exact Nat.log2_self_le hn
  high := by
    rw [show mantissaLimit = 2 ^ 53 from rfl, ← pow_add, show 53 + q = n.log2 + 1 by omega]
    exact Nat.lt_log2_self

namespace Magnitude
variable {q : Nat}

theorem leastMantissa_le (h : Magnitude n q) : leastMantissa ≤ roundQuotient n (2 ^ q) :=
  Nat.le_trans ((Nat.le_div_iff_mul_le (Nat.two_pow_pos q)).mpr h.low)
    (div_le_roundQuotient n (2 ^ q))

theorem le_mantissaLimit (h : Magnitude n q) : roundQuotient n (2 ^ q) ≤ mantissaLimit :=
  Nat.le_trans (roundQuotient_le_div_add_one n (2 ^ q))
    ((Nat.div_lt_iff_lt_mul (Nat.two_pow_pos q)).mpr h.high)

/-- The mantissa gets another bit from halfway between the largest one and the limit on. -/
theorem eq_mantissaLimit_iff (h : Magnitude n q) :
    roundQuotient n (2 ^ q) = mantissaLimit ↔ (2 ^ 54 - 1) * 2 ^ q ≤ 2 * n := by
  have hodd : (mantissaLimit - 1) % 2 = 1 := by decide
  have hmiddle : 2 * (mantissaLimit - 1) + 1 = 2 ^ 54 - 1 := by decide
  have hpred : mantissaLimit - 1 + 1 = mantissaLimit := by decide
  have hle := h.le_mantissaLimit
  rw [← hmiddle, ← lt_roundQuotient_iff (Nat.two_pow_pos q) hodd]
  omega

/-- A power of two against one that is fixed and the two after it. -/
theorem two_pow_cases (k q : Nat) :
    (q ≤ k ∧ 2 ^ q ≤ 2 ^ k) ∨ (q = k + 1 ∧ 2 ^ q = 2 * 2 ^ k) ∨
      (k + 2 ≤ q ∧ 4 * 2 ^ k ≤ 2 ^ q) := by
  rcases Nat.lt_trichotomy q (k + 1) with hlt | rfl | hgt
  · exact Or.inl ⟨Nat.le_of_lt_succ hlt, Nat.pow_le_pow_right (by decide) (Nat.le_of_lt_succ hlt)⟩
  · exact Or.inr (Or.inl ⟨rfl, pow_succ' 2 k⟩)
  · have hpow : 2 ^ (k + 2) ≤ 2 ^ q := Nat.pow_le_pow_right (by decide) hgt
    rw [pow_add, Nat.mul_comm] at hpow
    exact Or.inr (Or.inr ⟨hgt, hpow⟩)

/-- The limit lies among the integers with the largest exponent. -/
theorem lt_overflowLimit_iff (h : Magnitude n q) :
    n < overflowLimit ↔ q ≤ 970 ∨ (q = 971 ∧ roundQuotient n (2 ^ q) ≠ mantissaLimit) := by
  have hlow : 2 ^ 52 * 2 ^ q ≤ n := h.low
  have hhigh : n < 2 ^ 53 * 2 ^ q := h.high
  have hround := h.eq_mantissaLimit_iff
  unfold overflowLimit
  have hpow := two_pow_cases 970 q
  rw [ne_eq, hround]
  generalize 2 ^ q = unit at hlow hhigh hpow ⊢
  generalize 2 ^ 970 = limit at hpow ⊢
  omega

theorem isFinite_ofQuotient_iff (h : Magnitude n q) (hlog : n.log2 = 52 + q) (negative : Bool) :
    (ofQuotient negative n 1).IsFinite ↔ n < overflowLimit := by
  rw [ofQuotient_of_log2 negative hlog, h.lt_overflowLimit_iff]
  by_cases hcarry : roundQuotient n (2 ^ q) = mantissaLimit
  · have hexponent : (q : Int) + 1 = ((q + 1 : Nat) : Int) := rfl
    rw [if_pos hcarry, isFinite_ofParts, hexponent,
      canonicalMagnitude_iff (Nat.le_refl _) (by decide)]
    omega
  · have hlimit := Nat.lt_of_le_of_ne h.le_mantissaLimit hcarry
    rw [if_neg hcarry, isFinite_ofParts, canonicalMagnitude_iff h.leastMantissa_le hlimit]
    omega

end Magnitude

/-- **The number nearest to an integer is finite below the limit, and infinite from there on.** -/
theorem isFinite_ofDecimal_iff (negative : Bool) (n : Nat) :
    (ofDecimal negative ⟨n, 0⟩).IsFinite ↔ n < overflowLimit := by
  by_cases hn : n = 0
  · subst hn
    exact iff_of_true trivial (Nat.zero_lt_of_lt two_pow_lt_overflowLimit)
  rw [ofDecimal_integer negative hn]
  rcases Nat.lt_or_ge n (2 ^ 53) with hlt | hge
  · rw [ofQuotient_one negative hn hlt]
    exact iff_of_true trivial (Nat.lt_trans hlt two_pow_lt_overflowLimit)
  · have hlog : 53 ≤ n.log2 := (Nat.le_log2 hn).mpr hge
    obtain ⟨q, hq⟩ := Nat.exists_eq_add_of_le (Nat.le_of_succ_le hlog)
    exact (magnitude_of_log2 hq).isFinite_ofQuotient_iff hq negative

end Number

namespace NumberStyle
variable {style : NumberStyle} {raw : Text}

/-- The text of a coordinate that is read as an infinity: in the strict style, an optional sign
and the digits of an integer that is too large. -/
def TooLarge (style : NumberStyle) (raw : Text) : Prop :=
  let digits := (splitSign (coordinateText raw)).2
  style = .strictInteger ∧ digits.all isAsciiDigit = true ∧
    Number.overflowLimit ≤ digitsValue digits

instance (style : NumberStyle) (raw : Text) : Decidable (style.TooLarge raw) := by
  unfold TooLarge; infer_instance

theorem not_tooLarge_lenient (raw : Text) : ¬ TooLarge .lenient raw := fun h => nomatch h.1

/-- A sign and digits name the nearest number if the digits are those of ASCII. -/
theorem read?_of_isSignedInteger {t : Text} (h : isSignedInteger t = true) :
    Number.read? t =
      if (splitSign t).2.all isAsciiDigit = true then
        some (Number.ofDecimal (splitSign t).1 ⟨digitsValue (splitSign t).2, 0⟩)
      else none := by
  unfold isSignedInteger at h
  unfold Number.read?
  generalize splitSign t = signed at h ⊢
  obtain ⟨negative, digits⟩ := signed
  simp only [Bool.and_eq_true, Bool.not_eq_true', List.isEmpty_eq_false_iff] at h ⊢
  rw [Numeral.scan?_digits h.1 (List.all_eq_true.mp h.2)]
  simp only [Numeral.value?, List.append_nil]
  by_cases hascii : digits.all isAsciiDigit = true
  · rw [if_pos hascii, if_pos hascii]
    rfl
  · rw [if_neg hascii, if_neg hascii]
    rfl

theorem isFinite_lenient (t : Text) : (NumberStyle.number .lenient t).IsFinite := by
  simp only [NumberStyle.number]
  split
  · exact trivial
  · exact Number.isFinite_zero

/-- **A coordinate is finite unless its text is that of an integer that is too large.** -/
theorem isFinite_coordinate_iff : (style.coordinate raw).IsFinite ↔ ¬ style.TooLarge raw := by
  cases style with
  | lenient => exact iff_of_true (isFinite_lenient _) (not_tooLarge_lenient raw)
  | strictInteger =>
    simp only [coordinate, number, TooLarge]
    generalize coordinateText raw = t
    by_cases hinteger : isSignedInteger t = true
    · rw [if_pos hinteger, read?_of_isSignedInteger hinteger]
      by_cases hascii : (splitSign t).2.all isAsciiDigit = true
      · rw [if_pos hascii, Option.getD_some, Number.isFinite_ofDecimal_iff]
        simp [hascii]
      · rw [if_neg hascii]
        exact iff_of_true Number.isFinite_zero fun h => hascii h.2.1
    · rw [if_neg hinteger]
      refine iff_of_true Number.isFinite_zero fun h => hinteger ?_
      have hne : (splitSign t).2 ≠ [] := by
        intro hnil
        have hzero : 0 < digitsValue (splitSign t).2 :=
          Nat.lt_of_lt_of_le (Nat.zero_lt_of_lt Number.two_pow_lt_overflowLimit) h.2.2
        rw [hnil] at hzero
        exact Nat.lt_irrefl 0 hzero
      have hdigits : ∀ c ∈ (splitSign t).2, isDigit c = true := fun c hc =>
        isDigit_of_isAsciiDigit (List.all_eq_true.mp h.2.1 c hc)
      simpa [isSignedInteger, hne] using hdigits

end NumberStyle
end PlanetScript
