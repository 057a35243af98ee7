import PlanetScript.Proofs.Number.Grammar

/-! # The longest literal

The number that a text starts with is that of the longest literal at its head, behind the blanks
(`Number.readStart?_longest`): a literal with a digit of another script than ASCII names none, and
every other one names the number that it names as a whole text.  What follows the literal does not
matter.
-/
namespace PlanetScript
open Text

/-- The longest text with a property at the head of another one. -/
structure Longest (p : Text → Prop) (t part : Text) : Prop where
  initial : part <+: t
  holds : p part
  longest : ∀ other, other <+: t → p other → other.length ≤ part.length

theorem Longest.unique {p : Text → Prop} {t part other : Text} (h : Longest p t part)
    (h' : Longest p t other) : part = other := by
  have hlength : part.length = other.length :=
    Nat.le_antisymm (h'.longest part h.initial h.holds) (h.longest other h'.initial h'.holds)
  exact (List.prefix_of_prefix_length_le h.initial h'.initial hlength.le).eq_of_length hlength

/-- A digit of another script than ASCII. -/
def IsForeignDigit (c : Char) : Prop := isDigit c = true ∧ isAsciiDigit c = false

instance (c : Char) : Decidable (IsForeignDigit c) := inferInstanceAs (Decidable (_ ∧ _))

/-! ### The characters of literals -/

theorem Text.Sign.isDigit_of_mem {sign : Text} (h : Sign sign) {c : Char} (hc : c ∈ sign) :
    isDigit c = false := by
  cases h with
  | none => cases hc
  | plus =>
    rw [List.mem_singleton.mp hc]
    decide
  | minus =>
    rw [List.mem_singleton.mp hc]
    decide

namespace Numeral
variable {c : Char} {t digits fraction : Text} {negative : Bool} {n : Numeral}

theorem Exponent.mem_iff (h : Exponent t negative digits) (hc : isDigit c = true) :
    c ∈ t ↔ c ∈ digits := by
  cases h with
  | none => exact Iff.rfl
  | @some mark sign digits hmark hsign hdigits hne =>
    have hmark' : c ≠ mark := by
      rintro rfl
      rw [(isDigit_mark hmark).1] at hc
      cases hc
    have hsign' : c ∉ sign := fun hmem => by
      rw [hsign.isDigit_of_mem hmem] at hc
      cases hc
    simp only [List.mem_cons, List.mem_append, hmark', hsign', false_or]

theorem Fraction.mem_iff (h : Fraction t fraction) (hc : isDigit c = true) :
    c ∈ t ↔ c ∈ fraction := by
  cases h with
  | none => exact Iff.rfl
  | some _ =>
    have hpoint : c ≠ '.' := by
      rintro rfl
      exact absurd hc (by decide)
    simp only [List.mem_cons, hpoint, false_or]

/-- The digits in the text of a numeral are those of its parts. -/
theorem Spells.mem_iff (h : n.Spells t) (hc : isDigit c = true) :
    c ∈ t ↔ c ∈ n.whole ++ n.fraction ++ n.exponent := by
  cases h with
  | whole hwhole hne hf he =>
    simp only [List.mem_append, hf.mem_iff hc, he.mem_iff hc, or_assoc]
  | point hfraction hne he =>
    have hpoint : c ≠ '.' := by
      rintro rfl
      exact absurd hc (by decide)
    simp only [List.mem_cons, List.mem_append, he.mem_iff hc, hpoint, false_or, List.nil_append]

/-- The parts of a numeral are digits. -/
theorem Spells.isDigit (h : n.Spells t) : Digits (n.whole ++ n.fraction ++ n.exponent) := by
  have hexponent : ∀ {t digits : Text} {negative : Bool}, Exponent t negative digits →
      Digits digits := by
    intro t digits negative he
    cases he with
    | none => exact digits_nil
    | some _ _ hdigits _ => exact hdigits
  intro c hc
  simp only [List.mem_append] at hc
  cases h with
  | whole hwhole hne hf he =>
    rcases hc with (hc | hc) | hc
    · exact hwhole c hc
    · cases hf with
      | none => cases hc
      | some hdigits => exact hdigits c hc
    · exact hexponent he c hc
  | point hfraction hne he =>
    rcases hc with (hc | hc) | hc
    · cases hc
    · exact hfraction c hc
    · exact hexponent he c hc

/-- A numeral has a value unless its text has a digit of another script. -/
theorem Spells.value?_eq_none_iff (h : n.Spells t) :
    n.value? = none ↔ ∃ c ∈ t, IsForeignDigit c := by
  have hascii : (n.whole ++ n.fraction ++ n.exponent).all isAsciiDigit = true ↔
      ¬ ∃ c ∈ t, IsForeignDigit c := by
    rw [List.all_eq_true]
    constructor
    · rintro hall ⟨c, hc, hdigit, hforeign⟩
      rw [hall c ((h.mem_iff hdigit).mp hc)] at hforeign
      cases hforeign
    · intro hnone c hc
      have hdigit := h.isDigit c hc
      refine Bool.of_not_eq_false fun hforeign => hnone ⟨c, (h.mem_iff hdigit).mpr hc, hdigit, ?_⟩
      exact hforeign
  unfold value?
  by_cases hall : (n.whole ++ n.fraction ++ n.exponent).all isAsciiDigit = true
  · rw [if_pos hall]
    exact iff_of_false nofun (hascii.mp hall)
  · rw [if_neg hall]
    exact iff_of_true rfl (not_not.mp fun hnone => hall (hascii.mpr hnone))

end Numeral

namespace UnsignedLiteral
variable {c : Char} {t : Text}

/-- A literal without a sign starts with a digit, a point or a letter. -/
theorem exists_head (h : UnsignedLiteral t) :
    ∃ c rest, t = c :: rest ∧ (isDigit c = true ∨ c = '.' ∨ c = 'I') := by
  cases h with
  | infinity => exact ⟨'I', "nfinity".toList, rfl, Or.inr (Or.inr rfl)⟩
  | numeral h =>
    cases h with
    | point _ _ _ => exact ⟨'.', _, rfl, Or.inr (Or.inl rfl)⟩
    | @whole whole _ _ _ _ _ hwhole hne _ _ =>
      obtain ⟨d, whole, rfl⟩ := List.exists_cons_of_ne_nil hne
      exact ⟨d, _, rfl, Or.inl (hwhole d List.mem_cons_self)⟩

/-- Neither a sign nor a blank stands at its head. -/
theorem head (h : UnsignedLiteral t) (after : Text) :
    ∀ c ∈ (t ++ after).head?, (c ≠ '+' ∧ c ≠ '-') ∧ isBlank c = false := by
  obtain ⟨d, rest, rfl, hd⟩ := h.exists_head
  intro c hc
  obtain rfl : d = c := Option.some.inj hc
  rcases hd with hdigit | rfl | rfl
  · refine ⟨⟨?_, ?_⟩, isBlank_of_isDigit hdigit⟩
    · rintro rfl
      exact absurd hdigit (by decide)
    · rintro rfl
      exact absurd hdigit (by decide)
  · decide
  · decide

/-- In front of a literal without a sign, a sign is cut off as one. -/
theorem splitSign_eq {sign : Text} (hsign : Sign sign) (h : UnsignedLiteral t) :
    splitSign (sign ++ t) = (decide (sign = ['-']), t) := by
  have hhead := h.head []
  rw [List.append_nil] at hhead
  exact hsign.splitSign_append fun c hc => (hhead c hc).1

end UnsignedLiteral

/-! ### The longest literal without its sign -/

section Unsigned
variable {body : Text} {n : Numeral} {rest : Text}

/-- A text that starts with the word for infinity starts with no numeral. -/
theorem longest_infinity (h : startsWith "Infinity".toList body = true) :
    Longest UnsignedLiteral body "Infinity".toList := by
  obtain ⟨rest, rfl⟩ := startsWith_iff.mp h
  refine ⟨List.prefix_append _ _, .infinity, fun other hother hliteral => ?_⟩
  cases hliteral with
  | infinity => exact Nat.le_refl _
  | numeral hspells =>
    obtain ⟨after, hafter⟩ := hother
    obtain ⟨m, rest', hscan, -⟩ := hspells.exists_scan? after
    rw [hafter] at hscan
    cases hscan

theorem not_startsWith_word (h : startsWith "Infinity".toList body = false) :
    ¬ "Infinity".toList <+: body := by
  rintro ⟨rest, rfl⟩
  rw [startsWith_iff.mpr ⟨rest, rfl⟩] at h
  cases h

/-- What is scanned at the head of another text is its longest literal. -/
theorem exists_longest_numeral (hstart : startsWith "Infinity".toList body = false)
    (h : Numeral.scan? body = some (n, rest)) :
    ∃ t, n.Spells t ∧ Longest UnsignedLiteral body t := by
  obtain ⟨t, hspells, hbody⟩ := Numeral.exists_spells h
  refine ⟨t, hspells, ⟨rest, hbody.symm⟩, .numeral hspells, fun other hother hliteral => ?_⟩
  cases hliteral with
  | infinity => exact absurd hother (not_startsWith_word hstart)
  | numeral hother' =>
    obtain ⟨after, hafter⟩ := hother
    obtain ⟨m, rest', hscan, hsuffix⟩ := hother'.exists_scan? after
    rw [hafter, h] at hscan
    cases hscan
    have hlength := congrArg List.length (hafter.trans hbody)
    rw [List.length_append, List.length_append] at hlength
    have hle := hsuffix.length_le
    omega

/-- A text that does not start with the word and is not scanned starts with no literal. -/
theorem not_unsignedLiteral (hstart : startsWith "Infinity".toList body = false)
    (h : Numeral.scan? body = none) {t : Text} (ht : t <+: body) : ¬ UnsignedLiteral t := by
  intro hliteral
  cases hliteral with
  | infinity => exact not_startsWith_word hstart ht
  | numeral hspells =>
    obtain ⟨after, rfl⟩ := ht
    obtain ⟨m, rest, hscan, -⟩ := hspells.exists_scan? after
    rw [h] at hscan
    cases hscan

theorem exists_longest_unsigned (body : Text) :
    (∃ t, Longest UnsignedLiteral body t) ∨ ∀ t, t <+: body → ¬ UnsignedLiteral t := by
  cases hstart : startsWith "Infinity".toList body with
  | true => exact Or.inl ⟨_, longest_infinity hstart⟩
  | false =>
    cases hscan : Numeral.scan? body with
    | none => exact Or.inr fun t => not_unsignedLiteral hstart hscan
    | some scanned =>
      obtain ⟨t, -, ht⟩ := exists_longest_numeral hstart hscan
      exact Or.inl ⟨t, ht⟩

end Unsigned

/-! ### The longest literal -/

section Signed
variable {sign body t literal : Text}

/-- Behind the sign of a text stand the literals at its head. -/
theorem literal_prefix_iff (hsign : Sign sign) (hbody : (splitSign (sign ++ body)).2 = body) :
    Literal t ∧ t <+: sign ++ body ↔ ∃ u, t = sign ++ u ∧ UnsignedLiteral u ∧ u <+: body := by
  constructor
  · rintro ⟨⟨hsign', hu⟩, after, hafter⟩
    rename_i sign' u
    have hsplit : splitSign (sign' ++ (u ++ after)) = (decide (sign' = ['-']), u ++ after) :=
      hsign'.splitSign_append fun c hc => (hu.head after c hc).1
    rw [← List.append_assoc, hafter] at hsplit
    have hrest : body = u ++ after := by rw [← hbody, hsplit]
    refine ⟨u, ?_, hu, ⟨after, hrest.symm⟩⟩
    rw [hrest, ← List.append_assoc] at hafter
    exact List.append_cancel_right hafter
  · rintro ⟨u, rfl, hu, hprefix⟩
    exact ⟨.intro hsign hu, (List.prefix_append_right_inj sign).mpr hprefix⟩

/-- The longest literal of a text is its sign and the longest one behind it. -/
theorem longest_literal_iff (hsign : Sign sign) (hbody : (splitSign (sign ++ body)).2 = body) :
    Longest Literal (sign ++ body) literal ↔
      ∃ u, literal = sign ++ u ∧ Longest UnsignedLiteral body u := by
  constructor
  · intro h
    obtain ⟨u, rfl, hu, hprefix⟩ := (literal_prefix_iff hsign hbody).mp ⟨h.holds, h.initial⟩
    refine ⟨u, rfl, hprefix, hu, fun other hother hliteral => ?_⟩
    obtain ⟨hl, hp⟩ := (literal_prefix_iff hsign hbody).mpr ⟨other, rfl, hliteral, hother⟩
    have hlongest := h.longest _ hp hl
    rw [List.length_append, List.length_append] at hlongest
    exact Nat.le_of_add_le_add_left hlongest
  · rintro ⟨u, rfl, h⟩
    obtain ⟨hl, hp⟩ := (literal_prefix_iff hsign hbody).mpr ⟨u, rfl, h.holds, h.initial⟩
    refine ⟨hp, hl, fun other hother hliteral => ?_⟩
    obtain ⟨v, rfl, hv, hprefix⟩ := (literal_prefix_iff hsign hbody).mp ⟨hliteral, hother⟩
    rw [List.length_append, List.length_append]
    exact Nat.add_le_add_left (h.longest v hprefix hv) _

/-- A text that starts with a literal starts with a longest one. -/
theorem exists_longest (t : Text) :
    (∃ literal, Longest Literal t literal) ∨ ∀ other, other <+: t → ¬ Literal other := by
  obtain ⟨sign, hsign, ht, -⟩ := exists_sign t
  have hbody : (splitSign (sign ++ (splitSign t).2)).2 = (splitSign t).2 := by rw [← ht]
  rw [ht]
  rcases exists_longest_unsigned (splitSign t).2 with ⟨u, hu⟩ | hnone
  · exact Or.inl ⟨sign ++ u, (longest_literal_iff hsign hbody).mpr ⟨u, rfl, hu⟩⟩
  · refine Or.inr fun other hother hliteral => ?_
    obtain ⟨u, -, hu, hprefix⟩ := (literal_prefix_iff hsign hbody).mp ⟨hliteral, hother⟩
    exact hnone u hprefix hu

end Signed

/-! ### Reading literals -/

namespace Number
variable {sign body raw literal : Text} {n : Numeral}

/-- A numeral behind a sign names the number nearest to its value. -/
theorem read?_numeral (hsign : Sign sign) (h : n.Spells body) :
    read? (sign ++ body) = n.value?.map (ofDecimal (decide (sign = ['-']))) := by
  unfold read?
  rw [UnsignedLiteral.splitSign_eq hsign (.numeral h)]
  simp only [h.scan?_eq]

/-- The word for infinity names infinity. -/
theorem read?_infinity (hsign : Sign sign) :
    read? (sign ++ "Infinity".toList) = some (.infinite (decide (sign = ['-']))) := by
  cases hsign with
  | none => decide
  | plus => decide
  | minus => decide

theorem readStart?_of_longest (h : Longest Literal (trimStart raw) literal) :
    readStart? raw = read? literal := by
  obtain ⟨sign, hsign, ht, hnegative⟩ := exists_sign (trimStart raw)
  have hbody : (splitSign (sign ++ (splitSign (trimStart raw)).2)).2 =
      (splitSign (trimStart raw)).2 := by rw [← ht]
  rw [ht, longest_literal_iff hsign hbody] at h
  obtain ⟨u, rfl, hu⟩ := h
  unfold readStart?
  simp only [hnegative]
  cases hstart : startsWith "Infinity".toList (splitSign (trimStart raw)).2 with
  | true =>
    rw [if_pos rfl, ← (longest_infinity hstart).unique hu, read?_infinity hsign]
  | false =>
    rw [if_neg Bool.false_ne_true]
    cases hscan : Numeral.scan? (splitSign (trimStart raw)).2 with
    | none => exact absurd hu.holds (not_unsignedLiteral hstart hscan hu.initial)
    | some scanned =>
      obtain ⟨n, rest⟩ := scanned
      obtain ⟨t, hspells, ht⟩ := exists_longest_numeral hstart hscan
      rw [← ht.unique hu, read?_numeral hsign hspells]

/-- Only a text that starts with a literal starts with a number. -/
theorem readStart?_of_not_literal (h : ∀ t, t <+: trimStart raw → ¬ Literal t) :
    readStart? raw = none := by
  obtain ⟨sign, hsign, ht, -⟩ := exists_sign (trimStart raw)
  have hnone : ∀ u, u <+: (splitSign (trimStart raw)).2 → ¬ UnsignedLiteral u := by
    intro u hu hliteral
    refine h (sign ++ u) ?_ (.intro hsign hliteral)
    rw [ht]
    exact (List.prefix_append_right_inj sign).mpr hu
  unfold readStart?
  simp only
  cases hstart : startsWith "Infinity".toList (splitSign (trimStart raw)).2 with
  | true => exact absurd (longest_infinity hstart).holds (hnone _ (longest_infinity hstart).initial)
  | false =>
    rw [if_neg Bool.false_ne_true]
    cases hscan : Numeral.scan? (splitSign (trimStart raw)).2 with
    | none => rfl
    | some scanned =>
      obtain ⟨t, -, ht⟩ := exists_longest_numeral hstart hscan
      exact absurd ht.holds (hnone t ht.initial)

theorem isDigit_of_mem_infinity {c : Char} (hc : c ∈ "Infinity".toList) : isDigit c = false := by
  have hletters : ("Infinity".toList.all fun c => !isDigit c) = true := by decide
  have hletter := List.all_eq_true.mp hletters c hc
  rwa [Bool.not_eq_true'] at hletter

/-- A literal names a number unless it has a digit of another script. -/
theorem read?_eq_none_iff (h : Literal literal) :
    read? literal = none ↔ ∃ c ∈ literal, IsForeignDigit c := by
  obtain ⟨hsign, hbody⟩ := h
  rename_i sign body
  have hbodyForeign : (∃ c ∈ sign ++ body, IsForeignDigit c) ↔ ∃ c ∈ body, IsForeignDigit c := by
    have hsign' : ∀ c ∈ sign, ¬ IsForeignDigit c := by
      intro c hc hforeign
      rw [IsForeignDigit, hsign.isDigit_of_mem hc] at hforeign
      cases hforeign.1
    simp only [List.mem_append, or_and_right, exists_or]
    exact or_iff_right fun ⟨c, hc, hforeign⟩ => hsign' c hc hforeign
  rw [hbodyForeign]
  cases hbody with
  | infinity =>
    rw [read?_infinity hsign]
    refine iff_of_false nofun ?_
    rintro ⟨c, hc, hdigit, -⟩
    rw [isDigit_of_mem_infinity hc] at hdigit
    cases hdigit
  | numeral hspells =>
    rw [read?_numeral hsign hspells, Option.map_eq_none_iff, hspells.value?_eq_none_iff]

end Number

/-! ### How a literal ends -/

namespace Numeral
variable {c : Char} {t digits fraction : Text} {negative : Bool} {n : Numeral}

theorem count_point_digits (h : Digits digits) : digits.count '.' = 0 :=
  List.count_eq_zero.mpr fun hmem => absurd (h '.' hmem) (by decide)

theorem Exponent.count_point (h : Exponent t negative digits) : t.count '.' = 0 := by
  refine List.count_eq_zero.mpr fun hmem => ?_
  cases h with
  | none => cases hmem
  | @some mark sign digits hmark hsign hdigits hne =>
    rcases List.mem_cons.mp hmem with hpoint | hmem
    · exact (isDigit_mark hmark).2 hpoint.symm
    · rcases List.mem_append.mp hmem with hmem | hmem
      · cases hsign with
        | none => cases hmem
        | plus => exact absurd (List.mem_singleton.mp hmem) (by decide)
        | minus => exact absurd (List.mem_singleton.mp hmem) (by decide)
      · exact absurd (hdigits '.' hmem) (by decide)

theorem Fraction.count_point_le (h : Fraction t fraction) : t.count '.' ≤ 1 := by
  cases h with
  | none => exact Nat.zero_le 1
  | some hdigits => rw [List.count_cons_self, count_point_digits hdigits]

/-- A numeral has one point at most. -/
theorem Spells.count_point_le (h : n.Spells t) : t.count '.' ≤ 1 := by
  cases h with
  | whole hwhole hne hf he =>
    rw [List.count_append, List.count_append, count_point_digits hwhole, he.count_point]
    have hpoint := hf.count_point_le
    omega
  | point hfraction hne he =>
    rw [List.count_cons_self, List.count_append, count_point_digits hfraction, he.count_point]

/-- The last character is no mark of an exponent and no sign. -/
def EndsWhole (t : Text) : Prop := ∀ c ∈ t.getLast?, c ∉ "eE+-".toList

theorem endsWhole_of_getLast? (h : t.getLast? = some c) (hc : c ∉ "eE+-".toList) :
    EndsWhole t := by
  intro d hd
  rw [h] at hd
  rwa [← Option.some.inj hd]

theorem EndsWhole.append {s : Text} (hs : EndsWhole s) (ht : EndsWhole t) : EndsWhole (s ++ t) := by
  intro c hc
  rw [List.getLast?_append, Option.mem_def, Option.or_eq_some_iff] at hc
  rcases hc with hc | ⟨-, hc⟩
  · exact ht c hc
  · exact hs c hc

theorem endsWhole_of_isDigit (h : isDigit c = true) : c ∉ "eE+-".toList := by
  have hmarks : ("eE+-".toList.all fun mark => !isDigit mark) = true := by decide
  intro hmem
  have hmark := List.all_eq_true.mp hmarks c hmem
  rw [h] at hmark
  cases hmark

theorem endsWhole_digits (h : Digits digits) : EndsWhole digits :=
  fun c hc => endsWhole_of_isDigit (h c (List.mem_of_mem_getLast? hc))

theorem Exponent.endsWhole (h : Exponent t negative digits) : EndsWhole t := by
  cases h with
  | none => nofun
  | some hmark hsign hdigits hne =>
    intro c hc
    rw [← List.cons_append, List.getLast?_append_of_ne_nil _ hne] at hc
    exact endsWhole_digits hdigits c hc

theorem Spells.endsWhole (h : n.Spells t) : EndsWhole t := by
  have hpoint : EndsWhole ['.'] := endsWhole_of_getLast? rfl (by decide)
  cases h with
  | whole hwhole hne hf he =>
    refine (endsWhole_digits hwhole).append (.append ?_ he.endsWhole)
    cases hf with
    | none => nofun
    | some hdigits => exact hpoint.append (endsWhole_digits hdigits)
  | point hfraction hne he =>
    exact hpoint.append ((endsWhole_digits hfraction).append he.endsWhole)

end Numeral

/-- A literal has one point at most, and neither a mark of an exponent nor a sign at its end. -/
theorem Literal.ends {literal : Text} (h : Literal literal) :
    literal.count '.' ≤ 1 ∧ Numeral.EndsWhole literal := by
  obtain ⟨hsign, hbody⟩ := h
  rename_i sign body
  have hsigned : sign.count '.' = 0 := by
    cases hsign with
    | none => rfl
    | plus => decide
    | minus => decide
  obtain ⟨first, rest, hcons, -⟩ := hbody.exists_head
  have hends : Numeral.EndsWhole body → Numeral.EndsWhole (sign ++ body) := by
    intro hwhole c hc
    rw [List.getLast?_append_of_ne_nil _ (hcons ▸ List.cons_ne_nil first rest)] at hc
    exact hwhole c hc
  rw [List.count_append, hsigned, Nat.zero_add]
  cases hbody with
  | infinity =>
    exact ⟨by decide, hends (Numeral.endsWhole_of_getLast? (c := 'y') rfl (by decide))⟩
  | numeral hspells => exact ⟨hspells.count_point_le, hends hspells.endsWhole⟩

theorem Literal.trimStart_append {literal : Text} (h : Literal literal) (after : Text) :
    trimStart (literal ++ after) = literal ++ after := by
  obtain ⟨hsign, hbody⟩ := h
  refine dropWhile_eq_self fun c hc => ?_
  cases hsign with
  | none => exact (hbody.head after c hc).2
  | plus =>
    obtain rfl : _ = c := Option.some.inj hc
    decide
  | minus =>
    obtain rfl : _ = c := Option.some.inj hc
    decide

/-- **A text starts with the number of the longest literal at its head**, behind the blanks.  If
no literal stands there it starts with no number; there is a longest literal otherwise.  A literal
with a digit of another script names no number, the word `Infinity` names infinity with its sign,
and every other literal names what it names as a whole text.  What follows the longest literal does
not matter as long as it makes no longer one, and a second point, or a mark of an exponent without
digits, is no part of a literal. -/
theorem Number.readStart?_longest (raw : Text) :
    ((∀ t, t <+: trimStart raw → ¬ Literal t) → readStart? raw = none) ∧
      ((∃ t, t <+: trimStart raw ∧ Literal t) →
        ∃ literal, Longest Literal (trimStart raw) literal) ∧
      ∀ literal, Longest Literal (trimStart raw) literal →
        ((∃ c ∈ literal, IsForeignDigit c) → readStart? raw = none) ∧
        (∀ sign, Sign sign → literal = sign ++ "Infinity".toList →
          readStart? raw = some (.infinite (decide (sign = ['-'])))) ∧
        ((∀ c ∈ literal, ¬ IsForeignDigit c) →
          ∃ x, read? literal = some x ∧ readStart? raw = some x) ∧
        (∀ after, Longest Literal (literal ++ after) literal →
          readStart? (literal ++ after) = readStart? raw) ∧
        literal.count '.' ≤ 1 ∧ ∀ c ∈ literal.getLast?, c ∉ "eE+-".toList := by
  refine ⟨readStart?_of_not_literal, ?_, fun literal h => ?_⟩
  · rintro ⟨t, ht, hliteral⟩
    rcases exists_longest (trimStart raw) with hlongest | hnone
    · exact hlongest
    · exact absurd hliteral (hnone t ht)
  have hread := readStart?_of_longest h
  refine ⟨fun hforeign => ?_, ?_, fun hascii => ?_, fun after hafter => ?_, h.holds.ends⟩
  · rw [hread, read?_eq_none_iff h.holds]
    exact hforeign
  · rintro sign hsign rfl
    rw [hread, read?_infinity hsign]
  · cases hvalue : read? literal with
    | none =>
      obtain ⟨c, hc, hforeign⟩ := (read?_eq_none_iff h.holds).mp hvalue
      exact absurd hforeign (hascii c hc)
    | some x => exact ⟨x, rfl, hread.trans hvalue⟩
  · rw [hread]
    refine readStart?_of_longest ?_
    rwa [h.holds.trimStart_append after]

/-- A mark without digits is left out, and so is a second point. -/
example : Number.readStart? " 1.5e+ 2".toList = Number.read? "1.5".toList ∧
    Number.readStart? "1.5.2".toList = Number.read? "1.5".toList := by decide +kernel

end PlanetScript
