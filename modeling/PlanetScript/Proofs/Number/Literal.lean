import PlanetScript.Field.Gravity
import PlanetScript.Proofs.Text.Trimmed

/-! # Literals before other text

Gravity is read as far as it is a number.  A character that belongs to no numeral ends every
scan where it stands (`Numeral.scan?_append`), so a text that names a finite number holds no
such character (`Number.notMem_of_read?`), and the number is read again where such a character
follows it (`Gravity.read_of_read?`).
-/
namespace PlanetScript
open Text

namespace Numeral

/-- A character that is in no numeral. -/
structure Stops (c : Char) : Prop where
  digit : isDigit c = false
  mark : c ∉ ".eE+-".toList

variable {c : Char}

namespace Stops

/-- A blank ends every numeral. -/
theorem of_isBlank (h : isBlank c = true) : Stops c where
  digit := by
    refine Bool.eq_false_iff.mpr fun hdigit => ?_
    rw [isBlank_of_isDigit hdigit] at h
    cases h
  mark := by
    have hmarks : (".eE+-".toList.all fun mark => !isBlank mark) = true := by decide
    intro hmark
    have hplain := List.all_eq_true.mp hmarks c hmark
    rw [h] at hplain
    cases hplain

theorem ne (h : Stops c) {mark : Char} (hmark : mark ∈ ".eE+-".toList) : c ≠ mark := by
  rintro rfl
  exact h.mark hmark

end Stops

section Append
variable (h : Stops c) (t after : Text)
include h

theorem splitDigits_append :
    splitDigits (t ++ c :: after) = ((splitDigits t).1, (splitDigits t).2 ++ c :: after) := by
  induction t with
  | nil => simp [splitDigits, h.digit]
  | cons d t ih =>
    simp only [splitDigits, Prod.mk.injEq] at ih
    cases hd : isDigit d with
    | true => simp [splitDigits, hd, ih.1, ih.2]
    | false => simp [splitDigits, hd]

theorem splitFraction_append :
    splitFraction (t ++ c :: after) = ((splitFraction t).1, (splitFraction t).2 ++ c :: after) := by
  cases t with
  | nil => simp [splitFraction, h.ne (show '.' ∈ ".eE+-".toList by decide)]
  | cons d t =>
    by_cases hd : d = '.'
    · subst hd
      exact splitDigits_append h t after
    · simp [splitFraction, hd]

theorem splitSign_append :
    splitSign (t ++ c :: after) = ((splitSign t).1, (splitSign t).2 ++ c :: after) := by
  cases t with
  | nil => simp [splitSign, h.ne (show '-' ∈ ".eE+-".toList by decide),
    h.ne (show '+' ∈ ".eE+-".toList by decide)]
  | cons d t =>
    by_cases hminus : d = '-'
    · subst hminus; rfl
    · by_cases hplus : d = '+'
      · subst hplus; rfl
      · simp [splitSign, hminus, hplus]

theorem splitExponent_append :
    splitExponent (t ++ c :: after) = ((splitExponent t).1, (splitExponent t).2 ++ c :: after) := by
  cases t with
  | nil =>
    have hmark : ¬ (c = 'e' ∨ c = 'E') := by
      rintro (rfl | rfl)
      · exact h.mark (by decide)
      · exact h.mark (by decide)
    simp [splitExponent, hmark]
  | cons mark t =>
    rw [List.cons_append, splitExponent, splitExponent]
    split
    · rw [splitSign_append h]
      simp only [splitDigits_append h]
      generalize splitDigits (splitSign t).2 = digits
      obtain ⟨exponent, rest⟩ := digits
      cases exponent <;> rfl
    · rfl

/-- **A numeral ends before a character that is in none**, whatever follows. -/
theorem scan?_append :
    scan? (t ++ c :: after) = (scan? t).map fun (n, rest) => (n, rest ++ c :: after) := by
  unfold scan?
  simp only [splitDigits_append h, splitFraction_append h, splitExponent_append h]
  split <;> rfl

end Append
end Numeral

namespace Number
variable {t : Text} {x : FiniteNumber} {c : Char}

/-- A text that names a finite number is a numeral behind an optional sign. -/
theorem scan?_of_read? (h : read? t = some (.finite x)) :
    ∃ numeral, Numeral.scan? (splitSign t).2 = some (numeral, []) ∧
      numeral.value?.map (ofDecimal (splitSign t).1) = some (.finite x) := by
  have hname : ofName? (splitSign t).1 (splitSign t).2 ≠ some (.finite x) := by
    unfold ofName?
    simp only
    split
    · exact nofun
    · split <;> exact nofun
  unfold read? at h
  simp only at h
  split at h
  · next numeral hscan => exact ⟨numeral, hscan, h⟩
  · exact absurd h hname

/-- A text that names a finite number holds no character that ends a numeral. -/
theorem notMem_of_read? (h : read? t = some (.finite x)) (hc : Numeral.Stops c) : c ∉ t := by
  intro hmem
  obtain ⟨before, after, rfl⟩ := List.append_of_mem hmem
  obtain ⟨numeral, hscan, -⟩ := scan?_of_read? h
  rw [Numeral.splitSign_append hc, Numeral.scan?_append hc, Option.map_eq_some_iff] at hscan
  obtain ⟨⟨n, rest⟩, -, hrest⟩ := hscan
  exact absurd (Prod.mk.inj hrest).2 (by simp)

theorem isBlank_of_mem_of_read? (h : read? t = some (.finite x)) (hc : c ∈ t) :
    isBlank c = false :=
  Bool.eq_false_iff.mpr fun hblank => notMem_of_read? h (.of_isBlank hblank) hc

/-- Behind its sign it does not start as the name of infinity does. -/
theorem not_startsWith_infinity (h : read? t = some (.finite x)) :
    startsWith "Infinity".toList ((splitSign t).2 ++ [';']) = false := by
  have hletter : 'I' ∉ (splitSign t).2 := by
    intro hmem
    refine notMem_of_read? h (c := 'I') ⟨by decide, by decide⟩ ?_
    unfold splitSign at hmem
    split at hmem
    · exact List.mem_cons_of_mem _ hmem
    · exact List.mem_cons_of_mem _ hmem
    · exact hmem
  refine Bool.eq_false_iff.mpr fun hstarts => ?_
  obtain ⟨rest, hrest⟩ := startsWith_iff.mp hstarts
  have hmem : 'I' ∈ (splitSign t).2 ++ [';'] := by
    rw [hrest]
    exact List.mem_append_left _ (by decide)
  rcases List.mem_append.mp hmem with hmem | hmem
  · exact hletter hmem
  · exact absurd hmem (by decide)

end Number

theorem isBlank_space : isBlank ' ' = true := by decide

/-- **Gravity that is given as a finite literal is the number that the literal names**, with a
semicolon behind it. -/
theorem Gravity.read_of_read? {t : Text} {x : FiniteNumber}
    (h : Number.read? t = some (.finite x)) :
    Gravity.read (' ' :: (t ++ [';'])) = .value (.finite x) := by
  have hstop : Numeral.Stops ';' := ⟨by decide, by decide⟩
  have htrim : trimStart (' ' :: (t ++ [';'])) = t ++ [';'] := by
    have htrimmed : Trimmed (t ++ [';']) :=
      (Trimmed.of_forall fun c hc => Number.isBlank_of_mem_of_read? h hc).concat isBlank_semicolon
    rw [trimStart, List.dropWhile_cons, isBlank_space, if_pos rfl]
    exact dropWhile_eq_self htrimmed.head
  have hinfinity := Number.not_startsWith_infinity h
  obtain ⟨numeral, hscan, hvalue⟩ := Number.scan?_of_read? h
  have hread : Number.readStart? (' ' :: (t ++ [';'])) = some (.finite x) := by
    unfold Number.readStart?
    rw [htrim, Numeral.splitSign_append hstop]
    simp only [hinfinity, Numeral.scan?_append hstop, hscan, Option.map_some]
    exact hvalue
  rw [Gravity.read, hread]

end PlanetScript
