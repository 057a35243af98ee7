import PlanetScript.Proofs.Json.Grammar

/-! # Reading documents

The reader reads every text that writes a document as this document (`Json.Writes.document_eq`), so
a text writes at most one (`Json.Writes.unique`).  Strings and numbers come first; then one
induction on the grammar goes through values, items and members together, with twice the length of
the text as fuel.
-/
namespace PlanetScript.Json
open Text

-- the equations of the readers are made here, once, and not in all the proofs below at a time
attribute [local simp] stringRest valueWithin itemsWithin membersWithin

/-! ### Reading strings -/

section Strings
variable {paired : Bool} {code body t : Text} {c e : Char} {n low : Nat}

theorem stringRest_quote (paired : Bool) (t : Text) :
    stringRest paired ('\"' :: t) = .ok ([], t) := by
  rw [stringRest]

/-- A character that needs no escape stands for itself. -/
theorem stringRest_plain (hcontrol : 0x20 ≤ c.toNat) (hquote : c ≠ '\"') (hslash : c ≠ '\\') :
    stringRest paired (c :: t) = pushChar c (stringRest paired t) := by
  rw [stringRest]
  · exact if_neg (Nat.not_lt.mpr hcontrol)
  · exact hquote
  -- no pattern of an escape matches
  · exact fun _ _ _ _ _ h _ => hslash h
  · exact fun _ h _ => hslash h
  · exact fun _ _ h _ => hslash h
  · exact fun h _ => hslash h

theorem stringRest_letter (he : letterEscape? e = some c) :
    stringRest paired ('\\' :: e :: t) = pushChar c (stringRest paired t) := by
  have hu : e ≠ 'u' := by
    rintro rfl
    cases he
  rw [stringRest]
  · rw [he]
  · exact fun _ _ _ _ _ h _ => hu h
  · exact hu

theorem stringRest_unit (hcode : UnitEscape code n) (hhigh : isHighSurrogate n = false)
    (hlow : isLowSurrogate n = false) :
    stringRest paired (code ++ t) = pushChar (Char.ofNat n) (stringRest paired t) := by
  obtain ⟨hn⟩ := hcode
  show stringRest paired ('\\' :: 'u' :: _ :: _ :: _ :: _ :: t) = _
  rw [stringRest]
  simp only [hn, hhigh, hlow, Bool.false_eq_true, if_false]

theorem stringRest_pair {first second : Text} {high : Nat} (hfirst : UnitEscape first high)
    (hsecond : UnitEscape second low) (hhigh : isHighSurrogate high = true)
    (hlow : isLowSurrogate low = true) :
    stringRest paired (first ++ (second ++ t)) =
      pushChar (pairChar high low) (stringRest paired t) := by
  obtain ⟨hfirst⟩ := hfirst
  obtain ⟨hsecond⟩ := hsecond
  show stringRest paired
    ('\\' :: 'u' :: _ :: _ :: _ :: _ :: '\\' :: 'u' :: _ :: _ :: _ :: _ :: t) = _
  rw [stringRest]
  simp only [hfirst, hsecond, hhigh, hlow, if_true]

/-- Half of a pair, when no unit escape follows that is the second half. -/
theorem stringRest_half (hcode : UnitEscape code n)
    (hhalf : isHighSurrogate n = true ∨ isLowSurrogate n = true)
    (hnext : isHighSurrogate n = true →
      ∀ a b c d rest, t = '\\' :: 'u' :: a :: b :: c :: d :: rest →
        ∃ low, hexUnit? a b c d = some low ∧ isLowSurrogate low = false) :
    stringRest false (code ++ t) = pushChar '\uFFFD' (stringRest false t) := by
  obtain ⟨hn⟩ := hcode
  show stringRest false ('\\' :: 'u' :: _ :: _ :: _ :: _ :: t) = _
  rw [stringRest]
  simp only [hn]
  cases hhigh : isHighSurrogate n with
  | true =>
    rw [if_pos rfl]
    split
    · next a b c d rest =>
      obtain ⟨low, hlow, hsecond⟩ := hnext hhigh a b c d rest rfl
      simp only [hlow, hsecond, Bool.false_eq_true, if_false]
    · rfl
  | false =>
    rw [hhigh, or_iff_right Bool.false_ne_true] at hhalf
    simp only [hhalf, Bool.false_eq_true, if_false, if_true]

/-- A unit escape that starts the letters of a string is whole. -/
theorem Letters.exists_hexUnit? (h : Letters paired body t) {rest tail : Text} {a b c' d : Char}
    (hbody : body ++ '\"' :: rest = '\\' :: 'u' :: a :: b :: c' :: d :: tail) :
    ∃ second low after, body = second ++ after ∧ UnitEscape second low ∧
      hexUnit? a b c' d = some low := by
  have hwhole : ∀ {code after : Text} {n : Nat}, UnitEscape code n →
      code ++ after = '\\' :: 'u' :: a :: b :: c' :: d :: tail → hexUnit? a b c' d = some n := by
    rintro code after n ⟨hn⟩ h
    simp only [List.cons_append, List.cons.injEq, true_and] at h
    obtain ⟨ha, hb, hc, hd, -⟩ := h
    rwa [← ha, ← hb, ← hc, ← hd]
  cases h with
  | nil => exact absurd (List.cons.inj hbody).1 (by decide)
  | plain _ _ hslash _ => exact absurd (List.cons.inj hbody).1 hslash
  | letter he _ =>
    obtain ⟨-, hbody⟩ := List.cons.inj hbody
    rw [(List.cons.inj hbody).1] at he
    cases he
  | unit hn _ _ _ =>
    rw [List.append_assoc] at hbody
    exact ⟨_, _, _, rfl, hn, hwhole hn hbody⟩
  | pair hfirst _ _ _ _ =>
    rw [List.append_assoc] at hbody
    exact ⟨_, _, _, rfl, hfirst, hwhole hfirst hbody⟩
  | half _ hn _ _ _ =>
    rw [List.append_assoc] at hbody
    exact ⟨_, _, _, rfl, hn, hwhole hn hbody⟩

/-- A first half that is not followed by a second half is not followed by one up to the quote
either. -/
theorem Letters.secondHalf_eq_false (h : Letters paired body t)
    (hnext : isHighSurrogate n = true → ∀ second low rest, body = second ++ rest →
      UnitEscape second low → isLowSurrogate low = false) (rest : Text) :
    isHighSurrogate n = true → ∀ a b c d tail,
      body ++ '\"' :: rest = '\\' :: 'u' :: a :: b :: c :: d :: tail →
        ∃ low, hexUnit? a b c d = some low ∧ isLowSurrogate low = false := by
  intro hhigh a b c d tail hbody
  obtain ⟨second, low, after, hafter, hsecond, hunit⟩ := h.exists_hexUnit? hbody
  exact ⟨low, hunit, hnext hhigh second low after hafter hsecond⟩

/-- **The letters of a string are read as what they write.** -/
theorem Letters.stringRest_eq (h : Letters paired body t) (rest : Text) :
    stringRest paired (body ++ '\"' :: rest) = .ok (t, rest) := by
  induction h with
  | nil => exact stringRest_quote paired rest
  | plain hcontrol hquote hslash _ ih =>
    rw [List.cons_append, stringRest_plain hcontrol hquote hslash, ih]
    rfl
  | letter he _ ih =>
    rw [List.cons_append, List.cons_append, stringRest_letter he, ih]
    rfl
  | unit hn hhigh hlow _ ih =>
    rw [List.append_assoc, stringRest_unit hn hhigh hlow, ih]
    rfl
  | pair hfirst hsecond hhigh hlow _ ih =>
    rw [List.append_assoc, List.append_assoc, stringRest_pair hfirst hsecond hhigh hlow, ih]
    rfl
  | half hpaired hn hhalf hnext hletters ih =>
    subst hpaired
    rw [List.append_assoc, stringRest_half hn hhalf (hletters.secondHalf_eq_false hnext rest), ih]
    rfl

end Strings

/-! ### Reading numbers -/

/-- Whether a number ends before a text: no character of a number follows. -/
def Ends (t : Text) : Prop :=
  ∀ c ∈ t.head?, isAsciiDigit c = false ∧ c ≠ '.' ∧ c ≠ 'e' ∧ c ≠ 'E'

section Numbers
variable {t rest : Text} {c : Char}

theorem ends_nil : Ends [] := nofun

theorem ends_cons (hdigit : isAsciiDigit c = false) (hpoint : c ≠ '.') (he : c ≠ 'e')
    (hE : c ≠ 'E') : Ends (c :: t) := by
  intro d hd
  obtain rfl : c = d := Option.some.inj hd
  exact ⟨hdigit, hpoint, he, hE⟩

theorem Run.someDigits_append (h : Run t) (hrest : ∀ c ∈ rest.head?, isAsciiDigit c = false) :
    someDigits (t ++ rest) = .ok (t, rest) := by
  have htake : (t ++ rest).takeWhile isAsciiDigit = t := by
    cases rest with
    | nil => rw [List.append_nil, List.takeWhile_eq_self_iff.mpr h.digits]
    | cons c rest => exact takeWhile_append_stop h.digits (hrest c rfl) rest
  have hdrop : (t ++ rest).dropWhile isAsciiDigit = rest := by
    rw [List.dropWhile_append_of_pos h.digits, dropWhile_eq_self hrest]
  rw [someDigits, htake, hdrop]
  split
  · exact absurd rfl h.ne_nil
  · rfl

theorem WholePart.integerPart_append (h : WholePart t)
    (hrest : ∀ c ∈ rest.head?, isAsciiDigit c = false) :
    integerPart (t ++ rest) = .ok (t, rest) := by
  have hzero : ¬ (t.head? = some '0' ∧ t ≠ ['0']) := fun hnot => hnot.2 (h.head hnot.1)
  rw [integerPart, h.toRun.someDigits_append hrest]
  exact if_neg hzero

theorem FractionPart.fractionPart_append (h : FractionPart t)
    (hrest : ∀ c ∈ rest.head?, isAsciiDigit c = false ∧ c ≠ '.') :
    fractionPart (t ++ rest) = .ok (t, rest) := by
  cases h with
  | none =>
    rw [List.nil_append]
    unfold fractionPart
    split
    · exact absurd rfl (hrest '.' rfl).2
    · rfl
  | some h =>
    rw [List.cons_append, fractionPart, h.someDigits_append fun c hc => (hrest c hc).1]
    rfl

theorem ExponentPart.exponentPart_append (h : ExponentPart t) (hrest : Ends rest) :
    exponentPart (t ++ rest) = .ok (t, rest) := by
  have hdigit := fun c hc => (hrest c hc).1
  cases h with
  | none =>
    rw [List.nil_append]
    cases rest with
    | nil => rfl
    | cons c rest =>
      obtain ⟨-, -, he, hE⟩ := hrest c rfl
      unfold exponentPart
      exact if_neg (not_or.mpr ⟨he, hE⟩)
  | @some mark sign digits hmark hsign h =>
    rw [List.cons_append]
    unfold exponentPart
    simp only [if_pos hmark]
    cases hsign with
    | none =>
      obtain ⟨c, tail, rfl, hc⟩ := h.exists_head
      rw [List.nil_append, List.cons_append]
      have hplus : c ≠ '+' := by
        rintro rfl
        exact absurd hc (by decide)
      have hminus : c ≠ '-' := by
        rintro rfl
        exact absurd hc (by decide)
      split
      · next ht => exact absurd (List.cons.inj ht).1 hplus
      · next ht => exact absurd (List.cons.inj ht).1 hminus
      · rw [← List.cons_append, h.someDigits_append hdigit]
        rfl
    | plus =>
      simp only [List.cons_append, List.nil_append, h.someDigits_append hdigit]
      rfl
    | minus =>
      simp only [List.cons_append, List.nil_append, h.someDigits_append hdigit]
      rfl

/-- **A number is read as its token**, if it ends there. -/
theorem Magnitude.magnitudeToken_append (h : Magnitude t) (hrest : Ends rest) :
    magnitudeToken (t ++ rest) = .ok (t, rest) := by
  obtain ⟨hwhole, hfraction, hexponent⟩ := h
  rename_i whole fraction exponent
  have hafterFraction : ∀ c ∈ (exponent ++ rest).head?, isAsciiDigit c = false ∧ c ≠ '.' := by
    intro c hc
    cases hexponent with
    | none => exact ⟨(hrest c hc).1, (hrest c hc).2.1⟩
    | some hmark _ _ =>
      obtain rfl : _ = c := Option.some.inj hc
      rcases hmark with rfl | rfl <;> decide
  have hafterWhole : ∀ c ∈ (fraction ++ (exponent ++ rest)).head?, isAsciiDigit c = false := by
    intro c hc
    cases hfraction with
    | none => exact (hafterFraction c hc).1
    | some _ =>
      obtain rfl : '.' = c := Option.some.inj hc
      decide
  rw [List.append_assoc, List.append_assoc]
  simp only [magnitudeToken, hwhole.integerPart_append hafterWhole, bind, Except.bind,
    hfraction.fractionPart_append hafterFraction, hexponent.exponentPart_append hrest,
    List.append_assoc]

end Numbers

/-! ### Reading values -/

section Gaps
variable {gap t : Text}

theorem skipGap_append (hgap : Gap gap) (ht : ∀ c ∈ t.head?, isGap c = false) :
    skipGap (gap ++ t) = t := by
  rw [skipGap, List.dropWhile_append_of_pos hgap, dropWhile_eq_self ht]

theorem skipGap_append_cons {c : Char} (hgap : Gap gap) (hc : isGap c = false) :
    skipGap (gap ++ c :: t) = c :: t :=
  skipGap_append hgap fun d hd => by rwa [← Option.some.inj hd]

theorem skipGap_cons {c : Char} (hc : isGap c = false) : skipGap (c :: t) = c :: t :=
  skipGap_append_cons gap_nil hc

theorem skipGap_eq_nil (hgap : Gap gap) : skipGap gap = [] := List.dropWhile_eq_nil_iff.mpr hgap

/-- A gap ends a number. -/
theorem Gap.ends_append (hgap : Gap gap) (ht : Ends t) : Ends (gap ++ t) := by
  cases gap with
  | nil => exact ht
  | cons c gap =>
    have hc := hgap c List.mem_cons_self
    simp only [isGap, Bool.or_eq_true, beq_iff_eq] at hc
    rcases hc with ((rfl | rfl) | rfl) | rfl <;>
      exact ends_cons (by decide) (by decide) (by decide) (by decide)

/-! The marks between values are no gaps, and a number ends before them. -/

theorem isGap_bracket : isGap ']' = false := by decide

theorem isGap_brace : isGap '\x7d' = false := by decide

theorem isGap_comma : isGap ',' = false := by decide

theorem isGap_colon : isGap ':' = false := by decide

theorem isGap_quote : isGap '\"' = false := by decide

theorem ends_bracket (t : Text) : Ends (']' :: t) :=
  ends_cons (by decide) (by decide) (by decide) (by decide)

theorem ends_brace (t : Text) : Ends ('\x7d' :: t) :=
  ends_cons (by decide) (by decide) (by decide) (by decide)

theorem ends_comma (t : Text) : Ends (',' :: t) :=
  ends_cons (by decide) (by decide) (by decide) (by decide)

theorem skipGap_skipGap (t : Text) : skipGap (skipGap t) = skipGap t :=
  dropWhile_eq_self (head_dropWhile isGap t)

/-- The gap in front of items counts for nothing. -/
theorem itemsWithin_skipGap (fuel : Nat) (t : Text) :
    itemsWithin fuel (skipGap t) = itemsWithin fuel t := by
  have hvalue : ∀ fuel, valueWithin fuel (skipGap t) = valueWithin fuel t := by
    intro fuel
    cases fuel with
    | zero => rfl
    | succ fuel => rw [valueWithin, valueWithin, skipGap_skipGap]
  cases fuel with
  | zero => rfl
  | succ fuel => rw [itemsWithin, itemsWithin, hvalue]

theorem membersWithin_skipGap (fuel : Nat) (t : Text) :
    membersWithin fuel (skipGap t) = membersWithin fuel t := by
  cases fuel with
  | zero => rfl
  | succ fuel => rw [membersWithin, membersWithin, skipGap_skipGap]

end Gaps

/-- What the reader makes of a text that writes a part, if the fuel is twice its length. -/
def Part.Read (t : Text) : Part → Prop
  | .value j => ∀ fuel gap rest, Gap gap → Ends rest → 2 * t.length ≤ fuel →
      valueWithin fuel (gap ++ (t ++ rest)) = .ok (j, rest)
  | .padded j => ∃ after, Gap after ∧ ∀ fuel rest, Ends rest → 2 * t.length ≤ fuel →
      valueWithin fuel (t ++ rest) = .ok (j, after ++ rest)
  | .items list => ∀ fuel rest, 2 * t.length < fuel →
      itemsWithin fuel (t ++ ']' :: rest) = .ok (list, rest)
  | .member pair => ∀ fuel, 2 * t.length ≤ fuel →
      (∀ rest, membersWithin (fuel + 1) (t ++ '\x7d' :: rest) = .ok ([pair], rest)) ∧
        ∀ rest list after, membersWithin fuel rest = .ok (list, after) →
          membersWithin (fuel + 1) (t ++ ',' :: rest) = .ok (pair :: list, after)
  | .members list => ∀ fuel rest, 2 * t.length < fuel →
      membersWithin fuel (t ++ '\x7d' :: rest) = .ok (list, rest)

section Values
variable {t body : Text} {j : Json} {part : Part} {fuel : Nat} {gap rest : Text}

/-- The gap in front of a value counts for nothing. -/
theorem valueWithin_gap (hgap : Gap gap) {c : Char} (hc : isGap c = false) :
    valueWithin fuel (gap ++ c :: rest) = valueWithin fuel (c :: rest) := by
  cases fuel with
  | zero => rfl
  | succ fuel =>
    rw [valueWithin, valueWithin, skipGap_append_cons hgap hc, skipGap_cons hc]

theorem valueWithin_number (h : NumberToken t) (hrest : Ends rest) :
    valueWithin (fuel + 1) (t ++ rest) = .ok (.number t, rest) := by
  cases h with
  | negative h =>
    rw [List.cons_append, valueWithin, skipGap_cons (by decide)]
    simp only [h.magnitudeToken_append hrest, bind, Except.bind]
  | positive h =>
    have hread := h.magnitudeToken_append hrest
    obtain ⟨c, tail, rfl, hc⟩ := h.exists_head
    have hne : ∀ d, isAsciiDigit d = false → c ≠ d := by
      rintro d hd rfl
      rw [hc] at hd
      cases hd
    rw [List.cons_append] at hread ⊢
    rw [valueWithin, skipGap_cons (isGap_of_isAsciiDigit hc)]
    split
    · next h => cases h
    -- no other value starts with a digit
    iterate 7 next h => exact absurd (List.cons.inj h).1 (hne _ (by decide))
    next h =>
      obtain ⟨rfl, rfl⟩ := List.cons.inj h
      rw [if_pos hc, hread]
      rfl

theorem valueWithin_string (h : Letters false body t) :
    valueWithin (fuel + 1) ('\"' :: (body ++ '\"' :: rest)) = .ok (.string t, rest) := by
  rw [valueWithin, skipGap_cons isGap_quote]
  simp only [h.stringRest_eq, bind, Except.bind]

theorem valueWithin_array {list : List Json} (h : Writes t (.items list))
    (hread : itemsWithin fuel (t ++ ']' :: rest) = .ok (list, rest)) :
    valueWithin (fuel + 1) ('[' :: (t ++ ']' :: rest)) = .ok (.array list, rest) := by
  obtain ⟨gap, c, tail, rfl, hgap, hc, hclose⟩ := h.exists_head_items
  rw [← itemsWithin_skipGap, List.append_assoc, List.cons_append,
    skipGap_append_cons hgap hc] at hread
  rw [valueWithin, skipGap_cons (by decide)]
  simp only [List.append_assoc, List.cons_append, skipGap_append_cons hgap hc]
  split
  · next h => exact absurd (List.cons.inj h).1 hclose
  · rw [hread]
    rfl

theorem valueWithin_object {list : List (Text × Json)} (h : Writes t (.members list))
    (hread : membersWithin fuel (t ++ '\x7d' :: rest) = .ok (list, rest)) :
    valueWithin (fuel + 1) ('\x7b' :: (t ++ '\x7d' :: rest)) = .ok (.object list, rest) := by
  obtain ⟨gap, tail, rfl, hgap⟩ := h.exists_head_members
  rw [← membersWithin_skipGap, List.append_assoc, List.cons_append,
    skipGap_append_cons hgap isGap_quote] at hread
  rw [valueWithin, skipGap_cons (by decide)]
  simp only [List.append_assoc, List.cons_append, skipGap_append_cons hgap isGap_quote]
  split
  · next h => exact absurd (List.cons.inj h).1 (by decide)
  · rw [hread]
    rfl

/-- One item, and the bracket or the comma behind it. -/
theorem itemsWithin_last (hgap : Gap gap)
    (hread : valueWithin fuel t = .ok (j, gap ++ ']' :: rest)) :
    itemsWithin (fuel + 1) t = .ok ([j], rest) := by
  simp only [itemsWithin, hread, bind, Except.bind, skipGap_append_cons hgap isGap_bracket]

theorem itemsWithin_cons {list : List Json} {after : Text} (hgap : Gap gap)
    (hread : valueWithin fuel t = .ok (j, gap ++ ',' :: rest))
    (hrest : itemsWithin fuel rest = .ok (list, after)) :
    itemsWithin (fuel + 1) t = .ok (j :: list, after) := by
  simp only [itemsWithin, hread, bind, Except.bind, skipGap_append_cons hgap isGap_comma,
    hrest]

section Member
variable {name after gap' : Text} {list : List (Text × Json)}

/-- One member, and the brace or the comma behind it. -/
theorem membersWithin_last (hgap : Gap gap) (hname : Letters false body name) (hafter : Gap after)
    (hgap' : Gap gap') (hread : valueWithin fuel t = .ok (j, gap' ++ '\x7d' :: rest)) :
    membersWithin (fuel + 1) (gap ++ '\"' :: (body ++ '\"' :: (after ++ ':' :: t))) =
      .ok ([(name, j)], rest) := by
  simp only [membersWithin, skipGap_append_cons hgap isGap_quote, hname.stringRest_eq,
    bind, Except.bind, skipGap_append_cons hafter isGap_colon, hread,
    skipGap_append_cons hgap' isGap_brace]

theorem membersWithin_cons (hgap : Gap gap) (hname : Letters false body name) (hafter : Gap after)
    (hgap' : Gap gap') (hread : valueWithin fuel t = .ok (j, gap' ++ ',' :: rest)) {tail : Text}
    (hrest : membersWithin fuel rest = .ok (list, tail)) :
    membersWithin (fuel + 1) (gap ++ '\"' :: (body ++ '\"' :: (after ++ ':' :: t))) =
      .ok ((name, j) :: list, tail) := by
  simp only [membersWithin, skipGap_append_cons hgap isGap_quote, hname.stringRest_eq,
    bind, Except.bind, skipGap_append_cons hafter isGap_colon, hread,
    skipGap_append_cons hgap' isGap_comma, hrest]

end Member

/-- A value is not empty, and the gap in front of it counts for nothing. -/
theorem Writes.read_value (h : Writes t (.value j))
    (hread : ∀ fuel rest, Ends rest → 2 * t.length ≤ fuel + 1 →
      valueWithin (fuel + 1) (t ++ rest) = .ok (j, rest)) :
    (Part.value j).Read t := by
  intro fuel gap rest hgap hrest hfuel
  obtain ⟨c, tail, rfl, hc, -⟩ := h.exists_head
  cases fuel with
  | zero => cases hfuel
  | succ fuel =>
    rw [List.cons_append, valueWithin_gap hgap hc]
    exact hread fuel rest hrest hfuel

/-- **Every text of the grammar is read as what it writes.** -/
theorem Writes.read (h : Writes t part) : part.Read t := by
  induction h with
  | null => exact Writes.null.read_value fun fuel rest _ _ => rfl
  | boolTrue => exact Writes.boolTrue.read_value fun fuel rest _ _ => rfl
  | boolFalse => exact Writes.boolFalse.read_value fun fuel rest _ _ => rfl
  | number h =>
    exact (Writes.number h).read_value fun fuel rest hrest _ => valueWithin_number h hrest
  | string h =>
    refine (Writes.string h).read_value fun fuel rest _ _ => ?_
    rw [List.cons_append, List.append_assoc]
    exact valueWithin_string h
  | emptyArray h =>
    refine (Writes.emptyArray h).read_value fun fuel rest _ _ => ?_
    rw [List.cons_append, List.append_assoc, valueWithin, skipGap_cons (by decide)]
    simp only [List.singleton_append, skipGap_append_cons h isGap_bracket]
  | array h ih =>
    refine h.array.read_value fun fuel rest _ hfuel => ?_
    rw [List.cons_append, List.append_assoc]
    refine valueWithin_array h (ih fuel rest ?_)
    simp only [List.length_cons, List.length_append] at hfuel
    omega
  | emptyObject h =>
    refine (Writes.emptyObject h).read_value fun fuel rest _ _ => ?_
    rw [List.cons_append, List.append_assoc, valueWithin, skipGap_cons (by decide)]
    simp only [List.singleton_append, skipGap_append_cons h isGap_brace]
  | object h ih =>
    refine h.object.read_value fun fuel rest _ hfuel => ?_
    rw [List.cons_append, List.append_assoc]
    refine valueWithin_object h (ih fuel rest ?_)
    simp only [List.length_cons, List.length_append] at hfuel
    omega
  | @padded gap t after j hgap _ hafter ih =>
    refine ⟨after, hafter, fun fuel rest hrest hfuel => ?_⟩
    rw [List.append_assoc, List.append_assoc]
    refine ih fuel gap (after ++ rest) hgap (hafter.ends_append hrest) ?_
    simp only [List.length_append] at hfuel
    omega
  | lastItem _ ih =>
    obtain ⟨after, hafter, hread⟩ := ih
    intro fuel rest hfuel
    obtain ⟨fuel, rfl⟩ := Nat.exists_eq_add_of_lt hfuel
    exact itemsWithin_last hafter (hread _ _ (ends_bracket rest) (by omega))
  | @items t rest j list _ _ ih ihrest =>
    obtain ⟨after, hafter, hread⟩ := ih
    intro fuel tail hfuel
    simp only [List.length_cons, List.length_append] at hfuel
    obtain ⟨fuel, rfl⟩ := Nat.exists_eq_add_of_lt hfuel
    rw [List.append_assoc, List.cons_append]
    exact itemsWithin_cons hafter (hread _ _ (ends_comma _) (by omega))
      (ihrest _ tail (by omega))
  | member hgap hname hafter _ ih =>
    obtain ⟨after, hafter', hread⟩ := ih
    intro fuel hfuel
    simp only [List.length_cons, List.length_append] at hfuel
    simp only [List.append_assoc, List.cons_append]
    refine ⟨fun rest => ?_, fun rest list tail hrest => ?_⟩
    · exact membersWithin_last hgap hname hafter hafter'
        (hread _ _ (ends_brace rest) (by omega))
    · exact membersWithin_cons hgap hname hafter hafter'
        (hread _ _ (ends_comma rest) (by omega)) hrest
  | lastMember _ ih =>
    intro fuel rest hfuel
    obtain ⟨fuel, rfl⟩ := Nat.exists_eq_add_of_lt hfuel
    exact (ih _ (by omega)).1 rest
  | members _ _ ih ihrest =>
    intro fuel tail hfuel
    simp only [List.length_cons, List.length_append] at hfuel
    obtain ⟨fuel, rfl⟩ := Nat.exists_eq_add_of_lt hfuel
    rw [List.append_assoc, List.cons_append]
    exact (ih _ (by omega)).2 _ _ _ (ihrest _ tail (by omega))

/-! ### Whole documents -/

/-- A value without gaps around it. -/
theorem Writes.bare (h : Writes t (.value j)) : Writes t (.padded j) := by
  have hpadded := Writes.padded gap_nil h gap_nil
  rwa [List.nil_append, List.append_nil] at hpadded

/-- **A text that writes a document is read as it**, with gaps around it or without. -/
theorem Writes.document_eq (h : Writes t (.padded j)) : document t = .ok j := by
  obtain ⟨after, hafter, hread⟩ := h.read
  have hvalue := hread (2 * t.length + 2) [] ends_nil (Nat.le_add_right _ _)
  rw [List.append_nil, List.append_nil] at hvalue
  rw [document, value, hvalue]
  exact if_pos (skipGap_eq_nil hafter)

/-- A text writes at most one document. -/
theorem Writes.unique {other : Json} (h : Writes t (.padded j)) (h' : Writes t (.padded other)) :
    j = other :=
  Except.ok.inj (h.document_eq.symm.trans h'.document_eq)

end Values
end PlanetScript.Json
