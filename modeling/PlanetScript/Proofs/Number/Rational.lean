import Mathlib.Algebra.Order.Archimedean.Basic
import Mathlib.Algebra.Order.Floor.Semiring
import Mathlib.Data.Int.Log
import Mathlib.Data.Rat.Floor
import Mathlib.Tactic.Positivity
import PlanetScript.Proofs.Number.Overflow

/-! # Numbers as rationals

The number nearest to a quotient depends on its value alone (`Number.ofQuotient_congr`), and so does
the number nearest to a decimal (`Number.ofDecimal_congr`): the magnitudes that are recognised as
out of range without arithmetic are out of range.  A number is the one nearest to its own value
(`Number.ofDecimal_of_value`).
-/
namespace PlanetScript

/-- The rational number that a decimal magnitude is. -/
def Decimal.value (d : Decimal) : ℚ := d.digits * 10 ^ d.exponent

/-- The rational number that the magnitude of a finite number is. -/
def FiniteNumber.magnitude (x : FiniteNumber) : ℚ := x.mantissa * 2 ^ x.exponent

namespace Number
variable {num den num' den' k : Nat}

/-- A power and the one below the line are the power of an integer exponent. -/
theorem power_div_power (base : Nat) (e : Int) :
    (power base e : ℚ) / power base (-e) = (base : ℚ) ^ e := by
  rcases Int.le_total 0 e with he | he
  · obtain ⟨k, rfl⟩ := Int.eq_ofNat_of_zero_le he
    rw [power_natCast, power_of_nonpos (show -(k : Int) ≤ 0 by omega), Nat.cast_one, div_one,
      Nat.cast_pow, zpow_natCast]
  · obtain ⟨k, hk⟩ := Int.eq_ofNat_of_zero_le (show 0 ≤ -e by omega)
    rw [power_of_nonpos he, hk, power_natCast, show e = -(k : Int) by omega, Nat.cast_one, one_div,
      zpow_neg, Nat.cast_pow, zpow_natCast]

theorem power_pos {base : Nat} (hbase : base ≠ 0) (e : Int) : 0 < power base e :=
  Nat.pow_pos (Nat.pos_of_ne_zero hbase)

/-! ### The leading place -/

theorem two_zpow_log2_le {n : Nat} (hn : n ≠ 0) : (2 : ℚ) ^ (n.log2 : Int) ≤ n := by
  rw [zpow_natCast]
  exact_mod_cast Nat.log2_self_le hn

theorem lt_two_zpow_log2 (n : Nat) : (n : ℚ) < 2 ^ ((n.log2 : Int) + 1) := by
  rw [← Nat.cast_succ, zpow_natCast]
  exact_mod_cast Nat.lt_log2_self

/-- The comparison that decides on the leading place. -/
theorem two_zpow_le_div_iff (hden : den ≠ 0) (e : Int) :
    den * power 2 e ≤ num * power 2 (-e) ↔ (2 : ℚ) ^ e ≤ (num : ℚ) / den := by
  have hden' : (0 : ℚ) < den := by exact_mod_cast Nat.pos_of_ne_zero hden
  have hpower : (0 : ℚ) < power 2 (-e) := by exact_mod_cast power_pos two_ne_zero (-e)
  have hdiv := power_div_power 2 e
  rw [Nat.cast_ofNat] at hdiv
  rw [← hdiv, div_le_div_iff₀ hpower hden', mul_comm (power 2 e : ℚ)]
  exact_mod_cast Iff.rfl

theorem log_eq {q : ℚ} (hpos : 0 < q) {e : Int} (hlow : (2 : ℚ) ^ e ≤ q) (hhigh : q < 2 ^ (e + 1)) :
    Int.log 2 q = e := by
  have hle := (Int.zpow_le_iff_le_log one_lt_two hpos).mp (show ((2 : Nat) : ℚ) ^ e ≤ q from hlow)
  have hlt := (Int.lt_zpow_iff_log_lt one_lt_two hpos).mp
    (show q < ((2 : Nat) : ℚ) ^ (e + 1) from hhigh)
  omega

/-- **The leading place of a quotient is the binary logarithm of its value.** -/
theorem leadingPlace_eq_log (hnum : num ≠ 0) (hden : den ≠ 0) :
    leadingPlace num den = Int.log 2 ((num : ℚ) / den) := by
  have hnum' : (0 : ℚ) < num := by exact_mod_cast Nat.pos_of_ne_zero hnum
  have hden' : (0 : ℚ) < den := by exact_mod_cast Nat.pos_of_ne_zero hden
  have hpos : (0 : ℚ) < (num : ℚ) / den := div_pos hnum' hden'
  have hlow : (2 : ℚ) ^ ((num.log2 : Int) - den.log2 - 1) ≤ (num : ℚ) / den := by
    rw [le_div_iff₀ hden']
    calc (2 : ℚ) ^ ((num.log2 : Int) - den.log2 - 1) * den
        ≤ 2 ^ ((num.log2 : Int) - den.log2 - 1) * 2 ^ ((den.log2 : Int) + 1) :=
          mul_le_mul_of_nonneg_left (lt_two_zpow_log2 den).le (zpow_pos two_pos _).le
      _ = 2 ^ (num.log2 : Int) := by
          rw [← zpow_add₀ two_ne_zero]
          congr 1
          omega
      _ ≤ num := two_zpow_log2_le hnum
  have hhigh : (num : ℚ) / den < 2 ^ ((num.log2 : Int) - den.log2 + 1) := by
    rw [div_lt_iff₀ hden']
    calc (num : ℚ) < 2 ^ ((num.log2 : Int) + 1) := lt_two_zpow_log2 num
      _ = 2 ^ ((num.log2 : Int) - den.log2 + 1) * 2 ^ (den.log2 : Int) := by
          rw [← zpow_add₀ two_ne_zero]
          congr 1
          omega
      _ ≤ 2 ^ ((num.log2 : Int) - den.log2 + 1) * den :=
          mul_le_mul_of_nonneg_left (two_zpow_log2_le hden) (zpow_pos two_pos _).le
  unfold leadingPlace
  simp only [two_zpow_le_div_iff hden]
  split
  · next hle => exact (log_eq hpos hle hhigh).symm
  · next hnot => exact (log_eq hpos hlow (by rw [sub_add_cancel]; exact not_le.mp hnot)).symm

/-! ### Rounding -/

theorem roundQuotient_mul_left (hk : 0 < k) :
    roundQuotient (k * num) (k * den) = roundQuotient num den := by
  have hless (a b : Nat) : 2 * (k * a) < k * b ↔ 2 * a < b := by
    rw [Nat.mul_left_comm, Nat.mul_lt_mul_left hk]
  have hmore (a b : Nat) : k * b < 2 * (k * a) ↔ b < 2 * a := by
    rw [Nat.mul_left_comm, Nat.mul_lt_mul_left hk]
  unfold roundQuotient
  simp only [Nat.mul_div_mul_left _ _ hk, Nat.mul_mod_mul_left, hless, hmore]

/-- Rounding depends on the value of the quotient alone. -/
theorem roundQuotient_congr (hden : den ≠ 0) (hden' : den' ≠ 0) (h : num * den' = num' * den) :
    roundQuotient num den = roundQuotient num' den' := by
  rw [← roundQuotient_mul_left (Nat.pos_of_ne_zero hden'), Nat.mul_comm den' num, h,
    Nat.mul_comm num' den, Nat.mul_comm den' den, roundQuotient_mul_left (Nat.pos_of_ne_zero hden)]

/-- **The number nearest to a quotient depends on its value alone.** -/
theorem ofQuotient_congr (negative : Bool) (hden : den ≠ 0) (hden' : den' ≠ 0)
    (h : (num : ℚ) / den = (num' : ℚ) / den') :
    ofQuotient negative num den = ofQuotient negative num' den' := by
  have hcross : num * den' = num' * den := by
    rw [div_eq_div_iff (by exact_mod_cast hden) (by exact_mod_cast hden')] at h
    exact_mod_cast h
  by_cases hnum : num = 0
  · have hnum' : num' = 0 := by
      rw [hnum, zero_mul] at hcross
      exact (Nat.mul_eq_zero.mp hcross.symm).resolve_right hden
    rw [hnum, hnum']
    rfl
  have hnum' : num' ≠ 0 := by
    rintro rfl
    rw [zero_mul] at hcross
    exact (Nat.mul_eq_zero.mp hcross).elim hnum hden'
  have hplace : lastPlace num den = lastPlace num' den' := by
    rw [lastPlace, lastPlace, leadingPlace_eq_log hnum hden, leadingPlace_eq_log hnum' hden', h]
  have hround (e : Int) : roundQuotient (num * power 2 (-e)) (den * power 2 e) =
      roundQuotient (num' * power 2 (-e)) (den' * power 2 e) := by
    have hpower := (power_pos two_ne_zero e).ne'
    refine roundQuotient_congr (Nat.mul_ne_zero hden hpower) (Nat.mul_ne_zero hden' hpower) ?_
    rw [Nat.mul_mul_mul_comm, hcross, Nat.mul_mul_mul_comm]
  unfold ofQuotient
  simp only [if_neg hnum, if_neg hnum', hplace, hround]

/-! ### A number is nearest to itself -/

theorem log_magnitude {x : FiniteNumber} (hx : x.mantissa ≠ 0) :
    Int.log 2 x.magnitude = (x.mantissa.log2 : Int) + x.exponent := by
  have hmantissa : (0 : ℚ) < x.mantissa := by exact_mod_cast Nat.pos_of_ne_zero hx
  have hpower : (0 : ℚ) < 2 ^ x.exponent := zpow_pos two_pos _
  refine log_eq (mul_pos hmantissa hpower) ?_ ?_
  · rw [zpow_add₀ two_ne_zero]
    exact mul_le_mul_of_nonneg_right (two_zpow_log2_le hx) hpower.le
  · rw [add_right_comm, zpow_add₀ two_ne_zero]
    exact mul_lt_mul_of_pos_right (lt_two_zpow_log2 _) hpower

/-- The last place of the number nearest to a finite number is its own. -/
theorem lastPlace_of_magnitude {x : FiniteNumber} (hx : x.mantissa ≠ 0) :
    max (Int.log 2 x.magnitude - 52) (-1074) = x.exponent := by
  rw [log_magnitude hx]
  obtain ⟨hlimit, hleast, -, hcanonical⟩ := x.canonical
  have hlog : x.mantissa.log2 ≤ 52 := log2_le_of_lt hx hlimit
  rcases hcanonical with hfull | hlow
  · have hge : 52 ≤ x.mantissa.log2 := (Nat.le_log2 hx).mpr hfull
    omega
  · omega

/-- A number is the one nearest to the quotient that its magnitude is. -/
theorem ofQuotient_magnitude (x : FiniteNumber) :
    ofQuotient x.negative (x.mantissa * power 2 x.exponent) (power 2 (-x.exponent)) =
      .finite x := by
  have hup := power_pos two_ne_zero x.exponent
  have hdown := power_pos two_ne_zero (-x.exponent)
  have hvalue : ((x.mantissa * power 2 x.exponent : Nat) : ℚ) / (power 2 (-x.exponent) : Nat) =
      x.magnitude := by
    rw [Nat.cast_mul, mul_div_assoc, power_div_power]
    rfl
  by_cases hx : x.mantissa = 0
  · obtain ⟨negative, mantissa, exponent, hcanonical⟩ := x
    obtain rfl : mantissa = 0 := hx
    obtain rfl : exponent = -1074 := by
      rcases hcanonical.2.2.2 with hfull | hlow
      · exact absurd hfull (by decide)
      · exact hlow
    rfl
  have hplace : lastPlace (x.mantissa * power 2 x.exponent) (power 2 (-x.exponent)) =
      x.exponent := by
    rw [lastPlace, leadingPlace_eq_log (Nat.mul_ne_zero hx hup.ne') hdown.ne', hvalue,
      lastPlace_of_magnitude hx]
  have hcross : x.mantissa * power 2 x.exponent * power 2 (-x.exponent) * 1 =
      x.mantissa * (power 2 (-x.exponent) * power 2 x.exponent) := by ring
  have hround : roundQuotient (x.mantissa * power 2 x.exponent * power 2 (-x.exponent))
      (power 2 (-x.exponent) * power 2 x.exponent) = x.mantissa := by
    rw [roundQuotient_congr (Nat.mul_pos hdown hup).ne' one_ne_zero hcross, roundQuotient_one]
  unfold ofQuotient
  simp only [if_neg (Nat.mul_ne_zero hx hup.ne'), hplace, hround, if_neg (x.canonical.1.ne)]
  exact dif_pos x.canonical

/-! ### Decimals out of range -/

theorem roundQuotient_eq_zero (h : 2 * num < den) : roundQuotient num den = 0 := by
  have hlt : num < den := by omega
  unfold roundQuotient
  simp only [Nat.div_eq_of_lt hlt, Nat.mod_eq_of_lt hlt, if_pos h]

theorem ofQuotient_of_large (negative : Bool) (hnum : num ≠ 0) (hden : den ≠ 0)
    (h : (2 : ℚ) ^ (1024 : Int) ≤ (num : ℚ) / den) :
    ofQuotient negative num den = .infinite negative := by
  have hpos : (0 : ℚ) < (num : ℚ) / den := (zpow_pos two_pos _).trans_le h
  have hlog := (Int.zpow_le_iff_le_log one_lt_two hpos).mp
    (show ((2 : Nat) : ℚ) ^ (1024 : Int) ≤ (num : ℚ) / den from h)
  have hplace : 971 < lastPlace num den := by
    rw [lastPlace, leadingPlace_eq_log hnum hden]
    omega
  have hparts (mantissa : Nat) {place : Int} (hlarge : 971 < place) :
      ofParts negative mantissa place = .infinite negative :=
    dif_neg fun hcanonical => absurd hcanonical.2.2.1 (not_le.mpr hlarge)
  unfold ofQuotient
  simp only [if_neg hnum, hparts _ hplace, hparts _ (hplace.trans (lt_add_one _)), ite_self]

theorem ofQuotient_of_small (negative : Bool) (hnum : num ≠ 0) (hden : den ≠ 0)
    (h : (num : ℚ) / den < 2 ^ (-1075 : Int)) :
    ofQuotient negative num den = signedZero negative := by
  have hnum' : (0 : ℚ) < num := by exact_mod_cast Nat.pos_of_ne_zero hnum
  have hden' : (0 : ℚ) < den := by exact_mod_cast Nat.pos_of_ne_zero hden
  have hlog := (Int.lt_zpow_iff_log_lt one_lt_two (div_pos hnum' hden')).mp
    (show (num : ℚ) / den < ((2 : Nat) : ℚ) ^ (-1075 : Int) from h)
  have hplace : lastPlace num den = -1074 := by
    rw [lastPlace, leadingPlace_eq_log hnum hden]
    omega
  have hhalf : 2 * (num * power 2 (-(-1074))) < den * power 2 (-1074) := by
    obtain ⟨k, hk⟩ : ∃ k : Nat, (k : Int) = 1074 := ⟨1074, rfl⟩
    rw [show -(-1074) = (k : Int) by omega, power_natCast, power_of_nonpos (by decide), mul_one]
    rw [div_lt_iff₀ hden', zpow_neg, inv_mul_eq_div, lt_div_iff₀ (zpow_pos two_pos _),
      show (1075 : Int) = (k : Int) + 1 by omega, zpow_add_one₀ two_ne_zero, zpow_natCast] at h
    have hscaled : 2 * ((num : ℚ) * 2 ^ k) < den := by linarith
    exact_mod_cast hscaled
  unfold ofQuotient
  simp only [if_neg hnum, hplace, roundQuotient_eq_zero hhalf]
  rfl

end Number

namespace Decimal
variable {d d' : Decimal}

/-- A decimal as a quotient of naturals. -/
theorem value_eq (d : Decimal) :
    ((d.digits * power 10 d.exponent : Nat) : ℚ) / (power 10 (-d.exponent) : Nat) = d.value := by
  rw [Nat.cast_mul, mul_div_assoc, Number.power_div_power]
  rfl

theorem two_zpow_le_ten_zpow (k : Nat) : (2 : ℚ) ^ ((3 * k : Nat) : Int) ≤ 10 ^ (k : Int) := by
  rw [zpow_natCast, zpow_natCast, pow_mul]
  exact pow_le_pow_left₀ (by norm_num) (by norm_num) k

theorem large_of_exponent (hd : d.digits ≠ 0) (h : 400 < d.exponent) :
    (2 : ℚ) ^ (1024 : Int) ≤ d.value := by
  have hdigits : (1 : ℚ) ≤ d.digits := by exact_mod_cast Nat.pos_of_ne_zero hd
  calc (2 : ℚ) ^ (1024 : Int) ≤ 2 ^ ((3 * 400 : Nat) : Int) :=
        zpow_le_zpow_right₀ one_le_two (by decide)
    _ ≤ 10 ^ (400 : Int) := two_zpow_le_ten_zpow 400
    _ ≤ 10 ^ d.exponent := zpow_le_zpow_right₀ (by norm_num) h.le
    _ ≤ d.digits * 10 ^ d.exponent := le_mul_of_one_le_left (zpow_pos (by norm_num) _).le hdigits

theorem small_of_exponent (h : d.exponent + (d.digits.log2 + 1 : Nat) < -400) :
    d.value < 2 ^ (-1075 : Int) := by
  have hten : (0 : ℚ) < 10 ^ d.exponent := zpow_pos (by norm_num) _
  calc d.value < 2 ^ ((d.digits.log2 : Int) + 1) * 10 ^ d.exponent :=
        mul_lt_mul_of_pos_right (Number.lt_two_zpow_log2 _) hten
    _ ≤ 10 ^ ((d.digits.log2 : Int) + 1) * 10 ^ d.exponent := by
        refine mul_le_mul_of_nonneg_right ?_ hten.le
        exact zpow_le_zpow_left₀ (by omega) (by norm_num) (by norm_num)
    _ = 10 ^ ((d.digits.log2 : Int) + 1 + d.exponent) := (zpow_add₀ (by norm_num) _ _).symm
    _ ≤ 10 ^ (-400 : Int) := zpow_le_zpow_right₀ (by norm_num) (by push_cast at h; omega)
    _ ≤ 2 ^ (-((3 * 400 : Nat) : Int)) := by
        rw [zpow_neg, zpow_neg]
        exact inv_anti₀ (zpow_pos two_pos _) (two_zpow_le_ten_zpow 400)
    _ < 2 ^ (-1075 : Int) := zpow_lt_zpow_right₀ one_lt_two (by decide)

end Decimal

namespace Number
variable {d d' : Decimal}

/-- The number nearest to a decimal is that nearest to the quotient that it is, in and out of
range. -/
theorem ofDecimal_eq_ofQuotient (negative : Bool) (d : Decimal) :
    ofDecimal negative d =
      ofQuotient negative (d.digits * power 10 d.exponent) (power 10 (-d.exponent)) := by
  have hup := (power_pos (show 10 ≠ 0 by decide) d.exponent).ne'
  have hdown := (power_pos (show 10 ≠ 0 by decide) (-d.exponent)).ne'
  unfold ofDecimal
  split
  · next hzero => rw [hzero, zero_mul]; rfl
  · next hzero =>
    have hnum := Nat.mul_ne_zero hzero hup
    split
    · next hlarge =>
      refine (ofQuotient_of_large negative hnum hdown ?_).symm
      rw [d.value_eq]
      exact Decimal.large_of_exponent hzero hlarge
    · split
      · next hsmall =>
        refine (ofQuotient_of_small negative hnum hdown ?_).symm
        rw [d.value_eq]
        exact Decimal.small_of_exponent hsmall
      · rfl

/-- **The number nearest to a decimal depends on its value alone.** -/
theorem ofDecimal_congr (negative : Bool) (h : d.value = d'.value) :
    ofDecimal negative d = ofDecimal negative d' := by
  have hdown (e : Int) := (power_pos (show 10 ≠ 0 by decide) e).ne'
  rw [ofDecimal_eq_ofQuotient, ofDecimal_eq_ofQuotient]
  refine ofQuotient_congr negative (hdown _) (hdown _) ?_
  rw [d.value_eq, d'.value_eq, h]

/-- **A number is the one nearest to its own value.** -/
theorem ofDecimal_of_value {x : FiniteNumber} (h : d.value = x.magnitude) :
    ofDecimal x.negative d = .finite x := by
  rw [ofDecimal_eq_ofQuotient, ← ofQuotient_magnitude x]
  refine ofQuotient_congr x.negative (power_pos (by decide) _).ne' (power_pos two_ne_zero _).ne' ?_
  rw [d.value_eq, h, Nat.cast_mul, mul_div_assoc, power_div_power]
  rfl

end Number
end PlanetScript
