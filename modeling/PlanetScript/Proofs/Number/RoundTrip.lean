import PlanetScript.Number.Shortest
import PlanetScript.Proofs.Json.Grammar
import PlanetScript.Proofs.Number.Longest
import PlanetScript.Proofs.Number.Rational

/-! # Number text reads back

The text of a finite number names it (`Number.read?_text`), so no two numbers have one text, and it
is a number token of documents (`FiniteNumber.numberToken_text`).  The shortest decimal reads back
because its search tries each candidate, and the exact decimal at its end does.  A layout moves the
point and writes zeros, and keeps the value (`Significant.numberText_layout`).
-/
namespace PlanetScript
open Text

/-! ### Rows of digits -/

namespace Text
variable {s t : Text} {k : Nat}

theorem digitsValue_append (s t : Text) :
    digitsValue (s ++ t) = digitsValue s * 10 ^ t.length + digitsValue t := by
  have happend : digitsValue (s ++ t) = Nat.ofDigitChars 10 t (digitsValue s) :=
    Nat.ofDigitChars_append 0
  rw [happend, Nat.ofDigitChars_eq_ofDigitChars_zero, Nat.mul_comm]
  rfl

theorem digitsValue_replicate_zero (k : Nat) : digitsValue (List.replicate k '0') = 0 := by
  have hzeros : digitsValue (List.replicate k '0') = 10 ^ k * 0 := Nat.ofDigitChars_replicate_zero
  rw [hzeros, Nat.mul_zero]

/-- Zeros behind digits are a power of ten. -/
theorem digitsValue_append_zeros (t : Text) (k : Nat) :
    digitsValue (t ++ List.replicate k '0') = digitsValue t * 10 ^ k := by
  rw [digitsValue_append, digitsValue_replicate_zero, List.length_replicate, Nat.add_zero]

/-- Zeros before digits count for nothing. -/
theorem digitsValue_zeros_append (k : Nat) (t : Text) :
    digitsValue (List.replicate k '0' ++ t) = digitsValue t := by
  rw [digitsValue_append, digitsValue_replicate_zero, Nat.zero_mul, Nat.zero_add]

/-- An end of one character that was dropped. -/
theorem exists_dropEnd_append (c : Char) (t : Text) :
    ∃ k, t = dropEnd (· == c) t ++ List.replicate k c := by
  obtain ⟨tail, htail, hsame⟩ := exists_append_of_dropEnd (· == c) t
  refine ⟨tail.length, ?_⟩
  rw [← List.eq_replicate_of_mem fun d hd => eq_of_beq (hsame d hd)]
  exact htail

/-- The digits of a positive number start with no zero. -/
theorem head_ofNat (hk : k ≠ 0) : (ofNat k).head? ≠ some '0' := by
  have hdigit : ∀ n < 10, n ≠ 0 → Nat.digitChar n ≠ '0' := by decide
  induction k using Nat.strong_induction_on with
  | _ k ih =>
    rw [ofNat]
    rcases Nat.lt_or_ge k 10 with hlt | hge
    · rw [Nat.toDigits_of_lt_base hlt, List.head?_cons, Ne, Option.some_inj]
      exact hdigit k hlt hk
    · have hquotient : k / 10 ≠ 0 := by omega
      rw [Nat.toDigits_of_base_le (by decide) hge,
        List.head?_append_of_ne_nil _ Nat.toDigits_ne_nil]
      exact ih (k / 10) (by omega) hquotient

end Text

/-! ### The shortest decimal -/

namespace FiniteNumber
variable {x : FiniteNumber} {d : Decimal}

/-- The exact decimal has the value of the number. -/
theorem value_exact (x : FiniteNumber) : x.exact.value = x.magnitude := by
  unfold exact Decimal.value magnitude
  split
  · next he =>
    have hpower := Number.power_div_power 2 x.exponent
    rw [Number.power_of_nonpos (show -x.exponent ≤ 0 by omega), Nat.cast_one, div_one] at hpower
    rw [zpow_zero, mul_one, Nat.cast_mul, hpower]
    rfl
  · next he =>
    have hpower := Number.power_div_power 5 (-x.exponent)
    rw [neg_neg, Number.power_of_nonpos (show x.exponent ≤ 0 by omega), Nat.cast_one,
      div_one] at hpower
    have hten : ((5 : Nat) : ℚ) ^ (-x.exponent) * 10 ^ x.exponent = 2 ^ x.exponent := by
      rw [show (10 : ℚ) = ((5 : Nat) : ℚ) * 2 by norm_num, mul_zpow, ← mul_assoc,
        ← zpow_add₀ (by norm_num), neg_add_cancel, zpow_zero, one_mul]
    show ((x.mantissa * power 5 (-x.exponent) : Nat) : ℚ) * 10 ^ x.exponent = _
    rw [Nat.cast_mul, hpower, mul_assoc, hten]

theorem readsBack_exact (x : FiniteNumber) : x.readsBack x.exact = true :=
  decide_eq_true (Number.ofDecimal_of_value x.value_exact)

theorem readsBack_of_cutTo? {dropped : Nat} (h : x.cutTo? dropped = some d) :
    x.readsBack d = true := by
  unfold cutTo? at h
  simp only at h
  split at h
  · next hbelow habove =>
    split at h
    · obtain rfl := Option.some.inj h
      exact hbelow
    · obtain rfl := Option.some.inj h
      exact habove
  · next hbelow _ =>
    obtain rfl := Option.some.inj h
    exact hbelow
  · next _ habove =>
    obtain rfl := Option.some.inj h
    exact habove
  · cases h

/-- **The shortest decimal reads back.** -/
theorem ofDecimal_shortest (x : FiniteNumber) :
    Number.ofDecimal x.negative x.shortest = .finite x := by
  have hreads : x.readsBack x.shortest = true := by
    unfold shortest
    simp only
    cases hfind : (List.range (Text.ofNat x.exact.digits).length).findSome? fun i =>
        x.cutTo? ((Text.ofNat x.exact.digits).length - (i + 1)) with
    | none => exact x.readsBack_exact
    | some d =>
      obtain ⟨i, -, hcut⟩ := List.exists_of_findSome?_eq_some hfind
      exact readsBack_of_cutTo? hcut
  exact of_decide_eq_true hreads

theorem shortest_digits_ne_zero (hx : x.mantissa ≠ 0) : x.shortest.digits ≠ 0 := by
  intro hzero
  have hshortest := x.ofDecimal_shortest
  rw [Number.ofDecimal, if_pos hzero] at hshortest
  exact hx (congrArg FiniteNumber.mantissa (Number.finite.inj hshortest)).symm

end FiniteNumber

/-! ### Layouts -/

/-- The texts that write a value wherever numbers are read without a sign: a token of documents, and
a numeral in ASCII digits. -/
structure NumberText (t : Text) (v : ℚ) : Prop where
  token : Json.Magnitude t
  numeral : ∃ n d, Numeral.Spells t n ∧ n.value? = some d ∧ d.value = v

/-- Digits that start with no zero. -/
structure Significant (t : Text) : Prop extends Json.Run t where
  head : t.head? ≠ some '0'

theorem Significant.wholePart {t : Text} (h : Significant t) : Json.WholePart t :=
  { h.toRun with head := fun hzero => absurd hzero h.head }

theorem Json.Run.isDigit {t : Text} (h : Json.Run t) : Digits t :=
  fun c hc => isDigit_of_isAsciiDigit (h.digits c hc)

theorem isAsciiDigit_of_mem_zeros {c : Char} {k : Nat} (h : c ∈ List.replicate k '0') :
    isAsciiDigit c = true := by
  rw [List.eq_of_mem_replicate h]
  decide

theorem Json.Run.zeros_append {t : Text} (h : Json.Run t) (k : Nat) :
    Json.Run (List.replicate k '0' ++ t) where
  ne_nil := List.append_ne_nil_of_right_ne_nil _ h.ne_nil
  digits := List.forall_mem_append.mpr ⟨fun _ => isAsciiDigit_of_mem_zeros, h.digits⟩

theorem Json.run_zero : Json.Run ['0'] where
  ne_nil := List.cons_ne_nil _ _
  digits := List.forall_mem_singleton.mpr (by decide)

namespace NumberText
variable {whole fraction exponent fractionText exponentText : Text} {negative : Bool} {v : ℚ}

/-- A text that is put together from its parts. -/
theorem of_parts (hwhole : Json.WholePart whole)
    (hfraction : Numeral.Fraction fractionText fraction)
    (hfractionText : Json.FractionPart fractionText)
    (hexponent : Numeral.Exponent exponentText negative exponent)
    (hexponentText : Json.ExponentPart exponentText)
    (hascii : ∀ c ∈ fraction ++ exponent, isAsciiDigit c = true)
    (hv : (digitsValue (whole ++ fraction) : ℚ) * 10 ^
      ((if negative = true then -(digitsValue exponent : Int) else digitsValue exponent) -
        fraction.length) = v) :
    NumberText (whole ++ fractionText ++ exponentText) v where
  token := .intro hwhole hfractionText hexponentText
  numeral := by
    have hspells := Numeral.Spells.whole hwhole.isDigit hwhole.ne_nil hfraction hexponent
    rw [← List.append_assoc] at hspells
    have hall : ∀ c ∈ whole ++ fraction ++ exponent, isAsciiDigit c = true := by
      rw [List.append_assoc]
      exact List.forall_mem_append.mpr ⟨hwhole.digits, hascii⟩
    exact ⟨_, _, hspells, if_pos (List.all_eq_true.mpr hall), hv⟩

/-- An integer part and a fraction. -/
theorem positional (hwhole : Json.WholePart whole) (hfraction : Json.Run fraction)
    (hv : (digitsValue (whole ++ fraction) : ℚ) * 10 ^ (-(fraction.length : Int)) = v) :
    NumberText (whole ++ '.' :: fraction) v := by
  have hascii : ∀ c ∈ fraction ++ [], isAsciiDigit c = true := by
    rw [List.append_nil]
    exact hfraction.digits
  rw [← List.append_nil (whole ++ '.' :: fraction)]
  refine of_parts hwhole (.some hfraction.isDigit) (.some hfraction) .none .none hascii ?_
  rw [if_neg Bool.false_ne_true, show (digitsValue [] : Int) = 0 from rfl, zero_sub]
  exact hv

/-- A leading digit, a fraction or none, and an exponent with its sign. -/
theorem scientific {c : Char} {tail : Text} (hc : Significant [c])
    (htail : ∀ c ∈ tail, isAsciiDigit c = true) (leading : Int)
    (hv : (digitsValue (c :: tail) : ℚ) * 10 ^ (leading - tail.length) = v) :
    NumberText ([c] ++ (if tail = [] then [] else '.' :: tail) ++
      'e' :: (if leading < 0 then '-' else '+') :: ofNat leading.natAbs) v := by
  have hrun : Json.Run (ofNat leading.natAbs) :=
    ⟨ofNat_ne_nil _, fun c hc => isAsciiDigit_of_mem_ofNat hc⟩
  have hascii : ∀ c ∈ tail ++ ofNat leading.natAbs, isAsciiDigit c = true :=
    List.forall_mem_append.mpr ⟨htail, hrun.digits⟩
  have hfraction : Numeral.Fraction (if tail = [] then [] else '.' :: tail) tail ∧
      Json.FractionPart (if tail = [] then [] else '.' :: tail) := by
    split
    · next hnil =>
      rw [hnil]
      exact ⟨.none, .none⟩
    · next hne =>
      exact ⟨.some fun c hc => isDigit_of_isAsciiDigit (htail c hc), .some ⟨hne, htail⟩⟩
  have hsigned : ∀ {sign : Text}, Sign sign →
      Numeral.Exponent ('e' :: (sign ++ ofNat leading.natAbs)) (decide (sign = ['-']))
          (ofNat leading.natAbs) ∧
        Json.ExponentPart ('e' :: (sign ++ ofNat leading.natAbs)) := fun hsign =>
    ⟨.some (Or.inl rfl) hsign hrun.isDigit hrun.ne_nil, .some (Or.inl rfl) hsign hrun⟩
  by_cases hnegative : leading < 0
  · rw [if_pos hnegative]
    refine of_parts hc.wholePart hfraction.1 hfraction.2 (hsigned .minus).1 (hsigned .minus).2
      hascii ?_
    rw [if_pos (by decide), digitsValue_ofNat, show -(leading.natAbs : Int) = leading by omega]
    exact hv
  · rw [if_neg hnegative]
    refine of_parts hc.wholePart hfraction.1 hfraction.2 (hsigned .plus).1 (hsigned .plus).2
      hascii ?_
    rw [if_neg (by decide), digitsValue_ofNat, show (leading.natAbs : Int) = leading by omega]
    exact hv

end NumberText

section Layout
variable {digits : Text}

theorem digitsValue_zero_append (t : Text) : digitsValue ('0' :: t) = digitsValue t :=
  digitsValue_zeros_append 1 t

/-- An integer, with a zero behind the point. -/
theorem Significant.numberText_integer (h : Significant digits) (k : Nat) :
    NumberText (digits ++ List.replicate k '0' ++ ".0".toList) (digitsValue digits * 10 ^ k) := by
  have hwhole : Significant (digits ++ List.replicate k '0') := by
    refine ⟨⟨List.append_ne_nil_of_left_ne_nil h.ne_nil _, ?_⟩, ?_⟩
    · exact List.forall_mem_append.mpr ⟨h.digits, fun _ => isAsciiDigit_of_mem_zeros⟩
    · rw [List.head?_append_of_ne_nil _ h.ne_nil]
      exact h.head
  show NumberText (digits ++ List.replicate k '0' ++ '.' :: ['0']) _
  refine NumberText.positional hwhole.wholePart Json.run_zero ?_
  have hzero : digitsValue (digits ++ List.replicate k '0' ++ ['0']) =
      digitsValue digits * 10 ^ k * 10 := by
    rw [← digitsValue_append_zeros digits k]
    exact digitsValue_append_zeros _ 1
  rw [hzero, List.length_singleton]
  push_cast
  rw [mul_assoc, zpow_neg_one, mul_inv_cancel₀ (by norm_num), mul_one]

/-- The point stands between the digits. -/
theorem Significant.numberText_between (h : Significant digits) {n : Nat} (hn : 0 < n)
    (hlength : n < digits.length) :
    NumberText (digits.take n ++ '.' :: digits.drop n)
      (digitsValue digits * 10 ^ ((n : Int) - digits.length)) := by
  have hwhole : Significant (digits.take n) := by
    refine ⟨⟨?_, fun c hc => h.digits c (List.mem_of_mem_take hc)⟩, ?_⟩
    · exact fun hnil => (List.take_eq_nil_iff.mp hnil).elim hn.ne' h.ne_nil
    · rw [List.head?_take, if_neg hn.ne']
      exact h.head
  have hfraction : Json.Run (digits.drop n) := by
    refine ⟨fun hnil => ?_, fun c hc => h.digits c (List.mem_of_mem_drop hc)⟩
    exact absurd (List.drop_eq_nil_iff.mp hnil) (not_le.mpr hlength)
  refine NumberText.positional hwhole.wholePart hfraction ?_
  rw [List.take_append_drop, List.length_drop, show -((digits.length - n : Nat) : Int) =
    (n : Int) - digits.length by omega]

/-- Zeros stand between the point and the digits. -/
theorem Significant.numberText_below (h : Significant digits) (k : Nat) :
    NumberText ("0.".toList ++ List.replicate k '0' ++ digits)
      (digitsValue digits * 10 ^ (-((k + digits.length : Nat) : Int))) := by
  have hwhole : Json.WholePart ['0'] := { Json.run_zero with head := fun _ => rfl }
  show NumberText (['0'] ++ '.' :: (List.replicate k '0' ++ digits)) _
  refine NumberText.positional hwhole (h.toRun.zeros_append k) ?_
  rw [List.singleton_append, digitsValue_zero_append, digitsValue_zeros_append, List.length_append,
    List.length_replicate]

/-- **A layout writes the value of its digits and exponent.** -/
theorem Significant.numberText_layout (h : Significant digits) (exponent : Int) :
    NumberText (FiniteNumber.layout digits exponent) (digitsValue digits * 10 ^ exponent) := by
  have hlength : 0 < digits.length := List.length_pos_of_ne_nil h.ne_nil
  unfold FiniteNumber.layout
  simp only
  split
  · next hrange =>
    split
    · next hexponent =>
      have htext := h.numberText_integer exponent.toNat
      rwa [← zpow_natCast, Int.toNat_of_nonneg hexponent] at htext
    · split
      · next hleading =>
        have htext := h.numberText_between (n := (exponent + digits.length - 1 + 1).toNat)
          (by omega) (by omega)
        rwa [show ((exponent + digits.length - 1 + 1).toNat : Int) - digits.length = exponent by
          omega] at htext
      · have htext := h.numberText_below (-(exponent + digits.length - 1) - 1).toNat
        rwa [show -(((-(exponent + digits.length - 1) - 1).toNat + digits.length : Nat) : Int) =
          exponent by omega] at htext
  · obtain ⟨c, tail, rfl⟩ := List.exists_cons_of_ne_nil h.ne_nil
    have hdigit := h.digits c List.mem_cons_self
    have hc : Significant [c] :=
      ⟨⟨List.cons_ne_nil _ _, List.forall_mem_singleton.mpr hdigit⟩, h.head⟩
    refine NumberText.scientific hc (fun d hd => h.digits d (List.mem_cons_of_mem c hd)) _ ?_
    rw [List.length_cons, show exponent + ((tail.length + 1 : Nat) : Int) - 1 - tail.length =
      exponent by omega]

end Layout

/-! ### The text of a number -/

/-- The digits of a decimal without the zeros at their end, and the power of ten that they leave. -/
theorem significant_significand {d : Decimal} (hd : d.digits ≠ 0) :
    Significant (FiniteNumber.significand d).1 ∧
      (digitsValue (FiniteNumber.significand d).1 : ℚ) * 10 ^ (FiniteNumber.significand d).2 =
        d.value := by
  obtain ⟨k, hzeros⟩ := exists_dropEnd_append '0' (ofNat d.digits)
  unfold FiniteNumber.significand
  simp only
  generalize dropEnd (· == '0') (ofNat d.digits) = digits at hzeros ⊢
  have hdigits := digitsValue_ofNat d.digits
  rw [hzeros, digitsValue_append_zeros] at hdigits
  have hne : digits ≠ [] := by
    rintro rfl
    exact hd (by rw [← hdigits]; exact Nat.zero_mul _)
  refine ⟨⟨⟨hne, fun c hc => ?_⟩, ?_⟩, ?_⟩
  · exact isAsciiDigit_of_mem_ofNat (hzeros ▸ List.mem_append_left _ hc)
  · have hhead := head_ofNat hd
    rwa [hzeros, List.head?_append_of_ne_nil _ hne] at hhead
  · rw [hzeros, List.length_append, List.length_replicate, Nat.add_sub_cancel_left,
      Decimal.value, ← hdigits, zpow_add₀ (by norm_num), zpow_natCast]
    push_cast
    ring

/-- The text of a number, behind its sign, writes a decimal to which the number is nearest. -/
theorem FiniteNumber.exists_numberText (x : FiniteNumber) :
    ∃ body v, x.text = (if x.negative then ['-'] else []) ++ body ∧ NumberText body v ∧
      ∀ d : Decimal, d.value = v → Number.ofDecimal x.negative d = .finite x := by
  unfold text
  simp only
  split
  · next hzero =>
    have hwhole : Json.WholePart ['0'] := { Json.run_zero with head := fun _ => rfl }
    refine ⟨_, 0, rfl, ?_, fun d hd => Number.ofDecimal_of_value ?_⟩
    · show NumberText (['0'] ++ '.' :: ['0']) 0
      exact NumberText.positional hwhole Json.run_zero (zero_mul _)
    · rw [hd, magnitude, hzero, Nat.cast_zero, zero_mul]
  · next hx =>
    obtain ⟨hdigits, hvalue⟩ := significant_significand (shortest_digits_ne_zero hx)
    refine ⟨_, _, rfl, hdigits.numberText_layout _, fun d hd => ?_⟩
    rw [← x.ofDecimal_shortest]
    exact Number.ofDecimal_congr _ (hd.trans hvalue)

/-- The text of a number is a number token of documents. -/
theorem FiniteNumber.numberToken_text (x : FiniteNumber) : Json.NumberToken x.text := by
  obtain ⟨body, v, htext, hbody, -⟩ := x.exists_numberText
  rw [htext]
  split
  · exact .negative hbody.token
  · exact .positive hbody.token

/-- **The text of a number names the number.** -/
theorem Number.read?_text (x : FiniteNumber) : read? x.text = some (.finite x) := by
  obtain ⟨body, v, htext, hbody, hnearest⟩ := x.exists_numberText
  obtain ⟨n, d, hspells, hvalue, hd⟩ := hbody.numeral
  have hsign : Sign (if x.negative then ['-'] else []) ∧
      decide ((if x.negative then ['-'] else []) = ['-']) = x.negative := by
    cases x.negative with
    | true => exact ⟨.minus, rfl⟩
    | false => exact ⟨.none, rfl⟩
  rw [htext, read?_numeral hsign.1 hspells, hvalue, hsign.2, Option.map_some, hnearest d hd]

-- one number for each layout: an integer, a fraction, zeros behind the point, and an exponent
example :
    (Number.ofInt (-100)).text = "-100.0".toList ∧
      (Number.ofDecimal false ⟨125, -2⟩).text = "1.25".toList ∧
      (Number.ofDecimal false ⟨1, -3⟩).text = "0.001".toList ∧
      (Number.ofDecimal true ⟨15, 20⟩).text = "-1.5e+21".toList := by decide +kernel

/-- No two numbers have one text. -/
theorem FiniteNumber.text_inj {x y : FiniteNumber} : x.text = y.text ↔ x = y := by
  refine ⟨fun h => ?_, fun h => congrArg text h⟩
  have hread := Number.read?_text x
  rw [h, Number.read?_text y] at hread
  exact (Number.finite.inj (Option.some.inj hread)).symm

end PlanetScript
