import PlanetScript.Field.Gravity
import PlanetScript.Proofs.Text.Trimmed

/-! # The grammar of literals

What a numeral looks like, part by part: `Numeral.Spells` says of a text which numeral it writes.
The scanner reads every such text as the numeral that it writes (`Numeral.Spells.scan?_eq`), what it
scans is such a text (`Numeral.exists_spells`), and it never stops inside one
(`Numeral.Spells.exists_scan?`).  So it cuts the longest numeral off the head of a text.

A literal is a numeral or the word `Infinity`, with a sign or without.
-/
namespace PlanetScript
open Text

/-! ### Parts -/

namespace Text

/-- Digits of any script. -/
def Digits (t : Text) : Prop := ∀ c ∈ t, isDigit c = true

/-- No sign, or one. -/
inductive Sign : Text → Prop
  | none : Sign []
  | plus : Sign ['+']
  | minus : Sign ['-']

variable {c : Char} {digits sign t : Text}

theorem digits_nil : Digits [] := nofun

theorem digits_takeWhile (t : Text) : Digits (t.takeWhile isDigit) :=
  fun _ hc => List.mem_takeWhile_imp hc

/-- A sign is what is cut off as one, if no second one follows it. -/
theorem Sign.splitSign_append (h : Sign sign) (ht : ∀ c ∈ t.head?, c ≠ '+' ∧ c ≠ '-') :
    splitSign (sign ++ t) = (decide (sign = ['-']), t) := by
  cases h with
  | none =>
    rw [List.nil_append]
    unfold splitSign
    split
    · exact absurd rfl (ht '-' rfl).2
    · exact absurd rfl (ht '+' rfl).1
    · rfl
  | plus => rfl
  | minus => rfl

/-- What is cut off as a sign is one. -/
theorem exists_sign (t : Text) :
    ∃ sign, Sign sign ∧ t = sign ++ (splitSign t).2 ∧ (splitSign t).1 = decide (sign = ['-']) := by
  unfold splitSign
  split
  · exact ⟨['-'], .minus, rfl, rfl⟩
  · exact ⟨['+'], .plus, rfl, rfl⟩
  · exact ⟨[], .none, rfl, rfl⟩

end Text

namespace Numeral

/-- No fraction, or a point and digits, which may be missing. -/
inductive Fraction : Text → Text → Prop
  | none : Fraction [] []
  | some {digits : Text} (h : Digits digits) : Fraction ('.' :: digits) digits

/-- No exponent, or a mark, a sign or none, and digits. -/
inductive Exponent : Text → Bool → Text → Prop
  | none : Exponent [] false []
  | some {mark : Char} {sign digits : Text} (hmark : mark = 'e' ∨ mark = 'E') (hsign : Sign sign)
      (h : Digits digits) (hne : digits ≠ []) :
      Exponent (mark :: (sign ++ digits)) (decide (sign = ['-'])) digits

/-- The texts that write a numeral: digits, with a fraction and an exponent or without, or a point
and digits, with an exponent or without. -/
inductive Spells : Text → Numeral → Prop
  | whole {whole fractionText fraction exponentText exponent : Text} {negative : Bool}
      (hwhole : Digits whole) (hne : whole ≠ []) (hfraction : Fraction fractionText fraction)
      (hexponent : Exponent exponentText negative exponent) :
      Spells (whole ++ (fractionText ++ exponentText)) ⟨whole, fraction, negative, exponent⟩
  | point {fraction exponentText exponent : Text} {negative : Bool}
      (hfraction : Digits fraction) (hne : fraction ≠ [])
      (hexponent : Exponent exponentText negative exponent) :
      Spells ('.' :: (fraction ++ exponentText)) ⟨[], fraction, negative, exponent⟩

/-! ### Scanning the parts -/

variable {mark : Char} {t digits fraction : Text} {negative : Bool}

/-- A scan in its three steps. -/
theorem scan?_eq (t : Text) :
    scan? t =
      if (splitDigits t).1 = [] ∧ (splitFraction (splitDigits t).2).1 = [] then none
      else
        let exponent := splitExponent (splitFraction (splitDigits t).2).2
        some (⟨(splitDigits t).1, (splitFraction (splitDigits t).2).1, exponent.1.1, exponent.1.2⟩,
          exponent.2) := rfl

theorem splitDigits_eq (h : Digits digits) (ht : ∀ c ∈ t.head?, isDigit c = false) :
    splitDigits (digits ++ t) = (digits, t) := by
  cases t with
  | nil =>
    rw [List.append_nil, splitDigits, List.takeWhile_eq_self_iff.mpr h,
      List.dropWhile_eq_nil_iff.mpr h]
  | cons c t =>
    rw [splitDigits, takeWhile_append_stop h (ht c rfl), dropWhile_append_stop h (ht c rfl)]

theorem splitDigits_append_digits (h : Digits digits) (t : Text) :
    splitDigits (digits ++ t) = (digits ++ (splitDigits t).1, (splitDigits t).2) := by
  rw [splitDigits, List.takeWhile_append_of_pos h, List.dropWhile_append_of_pos h]
  rfl

theorem splitDigits_suffix (t : Text) : (splitDigits t).2 <:+ t := List.dropWhile_suffix isDigit

theorem splitFraction_of_head (h : ∀ c ∈ t.head?, c ≠ '.') : splitFraction t = ([], t) := by
  unfold splitFraction
  split
  · exact absurd rfl (h '.' rfl)
  · rfl

theorem splitFraction_suffix (t : Text) : (splitFraction t).2 <:+ t := by
  unfold splitFraction
  split
  · exact (splitDigits_suffix _).trans (List.suffix_cons _ _)
  · exact List.suffix_rfl

/-- A mark and digits behind it are an exponent. -/
theorem splitExponent_of_mark (hmark : mark = 'e' ∨ mark = 'E')
    (h : (splitDigits (splitSign t).2).1 ≠ []) :
    splitExponent (mark :: t) =
      (((splitSign t).1, (splitDigits (splitSign t).2).1), (splitDigits (splitSign t).2).2) := by
  cases hsplit : splitDigits (splitSign t).2 with
  | mk digits rest =>
    rw [hsplit] at h
    cases digits with
    | nil => exact absurd rfl h
    | cons c digits => simp only [splitExponent, if_pos hmark, hsplit]

/-- Anything else is left where it is. -/
theorem splitExponent_of_not (h : mark = 'e' ∨ mark = 'E' → (splitDigits (splitSign t).2).1 = []) :
    splitExponent (mark :: t) = ((false, []), mark :: t) := by
  rw [splitExponent]
  by_cases hmark : mark = 'e' ∨ mark = 'E'
  · cases hsplit : splitDigits (splitSign t).2 with
    | mk digits rest =>
      obtain rfl : digits = [] := by
        have hnone := h hmark
        rwa [hsplit] at hnone
      simp only [if_pos hmark, hsplit]
  · rw [if_neg hmark]

theorem splitExponent_suffix (t : Text) : (splitExponent t).2 <:+ t := by
  cases t with
  | nil => exact List.suffix_rfl
  | cons mark t =>
    by_cases h : (mark = 'e' ∨ mark = 'E') ∧ (splitDigits (splitSign t).2).1 ≠ []
    · rw [splitExponent_of_mark h.1 h.2]
      obtain ⟨sign, -, ht, -⟩ := exists_sign t
      refine (splitDigits_suffix _).trans (.trans ⟨sign, ht.symm⟩ (List.suffix_cons mark t))
    · have hstay : (splitExponent (mark :: t)).2 = mark :: t :=
        congrArg Prod.snd (splitExponent_of_not fun hmark => not_not.mp fun hne => h ⟨hmark, hne⟩)
      exact ⟨[], hstay⟩

/-! ### Parts of a numeral are scanned whole -/

theorem isDigit_mark (h : mark = 'e' ∨ mark = 'E') : isDigit mark = false ∧ mark ≠ '.' := by
  rcases h with rfl | rfl
  · decide
  · decide

theorem isDigit_point : isDigit '.' = false := by decide

/-- Digits do not start with a sign. -/
theorem ne_sign_of_digits (h : Digits digits) (hne : digits ≠ []) (t : Text) :
    ∀ c ∈ (digits ++ t).head?, c ≠ '+' ∧ c ≠ '-' := by
  obtain ⟨d, digits, rfl⟩ := List.exists_cons_of_ne_nil hne
  have hd : isDigit d = true := h d List.mem_cons_self
  intro c hc
  obtain rfl : d = c := Option.some.inj hc
  constructor
  · rintro rfl
    exact absurd hd (by decide)
  · rintro rfl
    exact absurd hd (by decide)

/-- In front of digits a sign is cut off as one. -/
theorem splitSign_digits {sign : Text} (hsign : Sign sign) (h : Digits digits) (hne : digits ≠ []) :
    splitSign (sign ++ digits) = (decide (sign = ['-']), digits) := by
  have hhead := ne_sign_of_digits h hne []
  rw [List.append_nil] at hhead
  exact hsign.splitSign_append hhead

namespace Exponent
variable {e f : Text}

/-- An exponent starts with its mark. -/
theorem head (h : Exponent e negative digits) :
    ∀ c ∈ e.head?, isDigit c = false ∧ c ≠ '.' := by
  cases h with
  | none => nofun
  | some hmark _ _ _ =>
    intro c hc
    obtain rfl : _ = c := Option.some.inj hc
    exact isDigit_mark hmark

theorem splitExponent_append (h : Exponent e negative digits) (hne : e ≠ []) (t : Text) :
    splitExponent (e ++ t) = ((negative, digits ++ (splitDigits t).1), (splitDigits t).2) := by
  cases h with
  | none => exact absurd rfl hne
  | @some mark sign digits hmark hsign hdigits hsome =>
    have hsplit : splitSign (sign ++ (digits ++ t)) = (decide (sign = ['-']), digits ++ t) :=
      hsign.splitSign_append (ne_sign_of_digits hdigits hsome t)
    rw [List.cons_append, List.append_assoc, splitExponent_of_mark hmark]
    · simp only [hsplit, splitDigits_append_digits hdigits]
    · simp only [hsplit, splitDigits_append_digits hdigits]
      exact List.append_ne_nil_of_left_ne_nil hsome _

theorem splitExponent_eq (h : Exponent e negative digits) :
    splitExponent e = ((negative, digits), []) := by
  by_cases hne : e = []
  · subst hne
    cases h
    rfl
  · have happend := h.splitExponent_append hne []
    rwa [List.append_nil, show splitDigits [] = ([], []) from rfl, List.append_nil] at happend

/-- A scan does not stop inside an exponent. -/
theorem suffix (h : Exponent e negative digits) (t : Text) : (splitExponent (e ++ t)).2 <:+ t := by
  by_cases hne : e = []
  · subst hne
    exact splitExponent_suffix t
  · rw [h.splitExponent_append hne]
    exact splitDigits_suffix t

end Exponent

namespace Fraction
variable {e f : Text}

/-- A fraction starts with its point. -/
theorem head (h : Fraction f fraction) : ∀ c ∈ f.head?, isDigit c = false := by
  cases h with
  | none => nofun
  | some _ =>
    intro c hc
    obtain rfl : _ = c := Option.some.inj hc
    exact isDigit_point

theorem splitFraction_append (h : Fraction f fraction)
    (ht : ∀ c ∈ t.head?, isDigit c = false ∧ c ≠ '.') : splitFraction (f ++ t) = (fraction, t) := by
  cases h with
  | none => exact splitFraction_of_head fun c hc => (ht c hc).2
  | some hdigits => exact splitDigits_eq hdigits fun c hc => (ht c hc).1

theorem suffix (h : Fraction f fraction) (t : Text) : (splitFraction (f ++ t)).2 <:+ t := by
  cases h with
  | none => exact splitFraction_suffix t
  | some hdigits =>
    rw [List.cons_append, splitFraction, splitDigits_append_digits hdigits]
    exact splitDigits_suffix t

/-- A fraction and an exponent do not start with a digit. -/
theorem head_append (hf : Fraction f fraction) (he : Exponent e negative digits) :
    ∀ c ∈ (f ++ e).head?, isDigit c = false := by
  intro c hc
  rw [List.head?_append, Option.mem_def, Option.or_eq_some_iff] at hc
  rcases hc with hc | ⟨-, hc⟩
  · exact hf.head c hc
  · exact (he.head c hc).1

end Fraction

/-! ### Numerals are scanned whole -/

section Rest
variable {e f : Text}

/-- A scan does not stop inside a fraction and an exponent. -/
theorem suffix_of_fraction (hf : Fraction f fraction) (he : Exponent e negative digits)
    (t : Text) : (splitExponent (splitFraction (f ++ (e ++ t))).2).2 <:+ t := by
  by_cases hne : e = []
  · subst hne
    exact (splitExponent_suffix _).trans (hf.suffix t)
  · have hhead : ∀ c ∈ (e ++ t).head?, isDigit c = false ∧ c ≠ '.' := by
      rw [List.head?_append_of_ne_nil e hne]
      exact he.head
    rw [hf.splitFraction_append hhead]
    exact he.suffix t

theorem suffix_of_digits (hf : Fraction f fraction) (he : Exponent e negative digits) (t : Text) :
    (splitExponent (splitFraction (splitDigits (f ++ (e ++ t))).2).2).2 <:+ t := by
  by_cases hne : f ++ e = []
  · obtain ⟨rfl, rfl⟩ := List.append_eq_nil_iff.mp hne
    exact (splitExponent_suffix _).trans ((splitFraction_suffix _).trans (splitDigits_suffix t))
  · have hhead : ∀ c ∈ (f ++ (e ++ t)).head?, isDigit c = false := by
      rw [← List.append_assoc, List.head?_append_of_ne_nil _ hne]
      exact hf.head_append he
    rw [← List.nil_append (f ++ (e ++ t)), splitDigits_eq digits_nil hhead]
    exact suffix_of_fraction hf he t

end Rest

namespace Spells
variable {n : Numeral} {c : Char}

/-- **The text of a numeral is scanned as the numeral.** -/
theorem scan?_eq (h : n.Spells t) : scan? t = some (n, []) := by
  cases h with
  | @whole whole f fraction e exponent negative hwhole hne hf he =>
    rw [Numeral.scan?_eq, splitDigits_eq hwhole (hf.head_append he)]
    simp only [hf.splitFraction_append he.head, he.splitExponent_eq, hne, false_and, if_false]
  | @point fraction e exponent negative hfraction hne he =>
    have hhead : ∀ c ∈ ('.' :: (fraction ++ e)).head?, isDigit c = false := by
      intro c hc
      obtain rfl : _ = c := Option.some.inj hc
      exact isDigit_point
    have hsplit := splitDigits_eq digits_nil hhead
    have hdigits : splitDigits (fraction ++ e) = (fraction, e) :=
      splitDigits_eq hfraction fun c hc => (he.head c hc).1
    rw [List.nil_append] at hsplit
    rw [Numeral.scan?_eq, hsplit]
    simp only [splitFraction, hdigits, he.splitExponent_eq, hne, and_false, if_false]

/-- **A scan does not stop inside a numeral**, whatever follows. -/
theorem exists_scan? (h : n.Spells t) (after : Text) :
    ∃ m rest, scan? (t ++ after) = some (m, rest) ∧ rest <:+ after := by
  cases h with
  | @whole whole f fraction e exponent negative hwhole hne hf he =>
    have hsplit := splitDigits_append_digits hwhole (f ++ (e ++ after))
    rw [List.append_assoc, List.append_assoc, Numeral.scan?_eq, hsplit]
    rw [if_neg fun hnil => hne (List.append_eq_nil_iff.mp hnil.1).1]
    exact ⟨_, _, rfl, suffix_of_digits hf he after⟩
  | @point fraction e exponent negative hfraction hne he =>
    have hhead : ∀ c ∈ ('.' :: (fraction ++ e) ++ after).head?, isDigit c = false := by
      intro c hc
      obtain rfl : _ = c := Option.some.inj hc
      exact isDigit_point
    have hsplit := splitDigits_eq digits_nil hhead
    have hdigits := splitDigits_append_digits hfraction (e ++ after)
    rw [List.nil_append] at hsplit
    rw [Numeral.scan?_eq, hsplit]
    rw [List.cons_append, List.append_assoc]
    rw [if_neg fun hnil => ?_]
    · refine ⟨_, _, rfl, ?_⟩
      have hpoint := suffix_of_fraction (.some hfraction) he after
      rwa [List.cons_append] at hpoint
    · have hnone := hnil.2
      rw [splitFraction, hdigits] at hnone
      exact hne (List.append_eq_nil_iff.mp hnone).1

end Spells

/-! ### What is scanned is a numeral -/

theorem exists_fraction (t : Text) :
    ∃ f, Fraction f (splitFraction t).1 ∧ t = f ++ (splitFraction t).2 := by
  unfold splitFraction
  split
  · next t =>
    refine ⟨'.' :: t.takeWhile isDigit, .some (digits_takeWhile t), ?_⟩
    rw [List.cons_append]
    exact congrArg _ List.takeWhile_append_dropWhile.symm
  · exact ⟨[], .none, rfl⟩

theorem exists_exponent (t : Text) :
    ∃ e, Exponent e (splitExponent t).1.1 (splitExponent t).1.2 ∧ t = e ++ (splitExponent t).2 := by
  cases t with
  | nil => exact ⟨[], .none, rfl⟩
  | cons mark t =>
    by_cases h : (mark = 'e' ∨ mark = 'E') ∧ (splitDigits (splitSign t).2).1 ≠ []
    · rw [splitExponent_of_mark h.1 h.2]
      obtain ⟨sign, hsign, ht, hnegative⟩ := exists_sign t
      refine ⟨mark :: (sign ++ (splitDigits (splitSign t).2).1), ?_, ?_⟩
      · simp only [hnegative]
        exact .some h.1 hsign (digits_takeWhile _) h.2
      · rw [List.cons_append, List.append_assoc]
        refine congrArg _ (ht.trans (congrArg _ ?_))
        exact List.takeWhile_append_dropWhile.symm
    · rw [splitExponent_of_not fun hmark => not_not.mp fun hne => h ⟨hmark, hne⟩]
      exact ⟨[], .none, rfl⟩

/-- **What is scanned is the text of a numeral**, and the rest is what follows it. -/
theorem exists_spells {n : Numeral} {rest : Text} (h : scan? t = some (n, rest)) :
    ∃ body, n.Spells body ∧ t = body ++ rest := by
  obtain ⟨f, hf, hafterWhole⟩ := exists_fraction (splitDigits t).2
  obtain ⟨e, he, hafterFraction⟩ := exists_exponent (splitFraction (splitDigits t).2).2
  have ht : t = (splitDigits t).1 ++ (splitDigits t).2 := List.takeWhile_append_dropWhile.symm
  rw [scan?_eq] at h
  split at h
  · cases h
  · next hne =>
    cases h
    by_cases hwhole : (splitDigits t).1 = []
    · have hfraction : (splitFraction (splitDigits t).2).1 ≠ [] := fun hnil => hne ⟨hwhole, hnil⟩
      generalize (splitFraction (splitDigits t).2).1 = fraction at hf hfraction
      cases hf with
      | none => exact absurd rfl hfraction
      | some hdigits =>
        refine ⟨'.' :: (fraction ++ e), ?_, ?_⟩
        · rw [hwhole]
          exact .point hdigits hfraction he
        · rw [hwhole, List.nil_append] at ht
          refine (ht.trans hafterWhole).trans ?_
          simp only [List.cons_append, List.append_assoc]
          rw [← hafterFraction]
    · refine ⟨(splitDigits t).1 ++ (f ++ e), .whole (digits_takeWhile t) hwhole hf he, ?_⟩
      rw [List.append_assoc, List.append_assoc, ← hafterFraction, ← hafterWhole]
      exact ht

end Numeral

/-! ### Literals -/

/-- A literal without its sign: a numeral or the word `Infinity`. -/
inductive UnsignedLiteral : Text → Prop
  | numeral {body : Text} {n : Numeral} (h : n.Spells body) : UnsignedLiteral body
  | infinity : UnsignedLiteral "Infinity".toList

/-- A literal: a numeral or the word `Infinity`, with a sign or without. -/
inductive Literal : Text → Prop
  | intro {sign body : Text} (hsign : Sign sign) (hbody : UnsignedLiteral body) :
      Literal (sign ++ body)

end PlanetScript
