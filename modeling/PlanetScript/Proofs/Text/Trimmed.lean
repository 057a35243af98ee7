import Mathlib.Data.List.DropRight
import PlanetScript.Text.DecimalDigit

/-! # Trimmed texts

A text is trimmed if no blank stands at either end.  Trimming leaves such a text as it is
(`Text.Trimmed.trim_eq`), and a trimmed text that ends in no semicolon is what is stored of it
when a semicolon closes it, with a blank before it or without (`Text.stored_closed`,
`Text.stored_blank_closed`).  What is stored of any text is trimmed (`Text.trimmed_stored`), and
storing it again changes nothing unless blanks part the semicolons that closed the text
(`Text.storable_stored_iff`, `Text.stored_eq_self_iff`).

Characters of a number are not blank, so they can stand at either end.
-/
namespace PlanetScript.Text
variable {t : Text} {c : Char} {p : Char → Bool}

/-! ### Ends -/

theorem dropEnd_concat_of_pos (t : Text) (h : p c = true) : dropEnd p (t ++ [c]) = dropEnd p t :=
  List.rdropWhile_concat_pos p t c h

theorem dropEnd_eq_self (h : ∀ c ∈ t.getLast?, p c = false) : dropEnd p t = t := by
  refine List.rdropWhile_eq_self_iff.mpr fun hne => ?_
  rw [h (t.getLast hne) (List.getLast?_eq_some_getLast hne)]
  exact Bool.false_ne_true

theorem dropWhile_eq_self (h : ∀ c ∈ t.head?, p c = false) : t.dropWhile p = t := by
  cases t with
  | nil => rfl
  | cons c t => rw [List.dropWhile_cons, h c rfl, if_neg Bool.false_ne_true]

/-- Characters are taken up to the first one that stops. -/
theorem takeWhile_append_stop (h : ∀ c ∈ t, p c = true) (hc : p c = false) (rest : Text) :
    (t ++ c :: rest).takeWhile p = t := by
  rw [List.takeWhile_append_of_pos h, List.takeWhile_cons, hc, if_neg Bool.false_ne_true]
  exact List.append_nil t

theorem dropWhile_append_stop (h : ∀ c ∈ t, p c = true) (hc : p c = false) (rest : Text) :
    (t ++ c :: rest).dropWhile p = c :: rest := by
  rw [List.dropWhile_append_of_pos h, List.dropWhile_cons, hc, if_neg Bool.false_ne_true]

theorem dropEnd_append_of_forall {tail : Text} (h : ∀ c ∈ tail, p c = true) (t : Text) :
    dropEnd p (t ++ tail) = dropEnd p t := by
  rw [dropEnd, dropEnd, List.reverse_append, List.dropWhile_append_of_pos]
  exact fun c hc => h c (List.mem_reverse.mp hc)

/-- A text is what is left when its end is dropped, and that end. -/
theorem exists_append_of_dropEnd (p : Char → Bool) (t : Text) :
    ∃ tail, t = dropEnd p t ++ tail ∧ ∀ c ∈ tail, p c = true :=
  ⟨_, (dropEnd_append_takeWhile p t).symm, fun _ hc =>
    List.mem_takeWhile_imp (List.mem_reverse.mp hc)⟩

/-- A text ends as its tail does. -/
theorem exists_getLast?_append {tail : Text} (hne : tail ≠ []) (h : ∀ c ∈ tail, p c = true)
    (t : Text) : ∃ c, (t ++ tail).getLast? = some c ∧ p c = true := by
  have hlast := List.getLast?_eq_some_getLast hne
  refine ⟨tail.getLast hne, ?_, h _ (List.getLast_mem hne)⟩
  rw [List.getLast?_append, hlast, Option.some_or]

/-- What is left when an end was dropped does not end so any more. -/
theorem last_dropEnd (p : Char → Bool) (t : Text) : ∀ c ∈ (dropEnd p t).getLast?, p c = false := by
  intro c hc
  obtain ⟨hne, hlast⟩ := List.mem_getLast?_eq_getLast hc
  rw [hlast]
  exact Bool.eq_false_iff.mpr (List.rdropWhile_last_not p t hne)

theorem head_dropWhile (p : Char → Bool) (t : Text) : ∀ c ∈ (t.dropWhile p).head?, p c = false := by
  intro c hc
  have hhead := List.head?_dropWhile_not p t
  rwa [hc] at hhead

/-- Dropping an end leaves the head where it is, unless nothing is left. -/
theorem mem_head?_of_dropEnd (h : c ∈ (dropEnd p t).head?) : c ∈ t.head? := by
  obtain ⟨rest, hrest⟩ := List.rdropWhile_prefix p t
  cases hd : dropEnd p t with
  | nil =>
    rw [hd] at h
    cases h
  | cons d kept =>
    rw [hd, List.head?_cons, Option.mem_some_iff] at h
    rw [← hrest, show t.rdropWhile p = d :: kept from hd, h]
    rfl

/-- No blank stands at either end. -/
structure Trimmed (t : Text) : Prop where
  head : ∀ c ∈ t.head?, isBlank c = false
  last : ∀ c ∈ t.getLast?, isBlank c = false

instance (t : Text) : Decidable (Trimmed t) :=
  decidable_of_iff ((t.head?.all fun c => !isBlank c) = true ∧
      (t.getLast?.all fun c => !isBlank c) = true) <| by
    simp only [Option.all_eq_true, Bool.not_eq_true']
    exact ⟨fun h => ⟨h.1, h.2⟩, fun h => ⟨h.head, h.last⟩⟩

namespace Trimmed

theorem trim_eq (h : Trimmed t) : trim t = t := by
  rw [trim, trimStart, dropWhile_eq_self h.head]
  exact dropEnd_eq_self h.last

/-- A text without blanks is trimmed. -/
theorem of_forall (h : ∀ c ∈ t, isBlank c = false) : Trimmed t :=
  ⟨fun c hc => h c (List.mem_of_mem_head? hc), fun c hc => h c (List.mem_of_mem_getLast? hc)⟩

/-- A trimmed text with a character behind it that is no blank. -/
theorem concat (h : Trimmed t) (hc : isBlank c = false) : Trimmed (t ++ [c]) where
  head := by
    intro d hd
    rw [List.head?_append] at hd
    cases hhead : t.head? with
    | none =>
      rw [hhead, Option.none_or, List.head?_cons, Option.mem_some_iff] at hd
      rwa [← hd]
    | some first =>
      rw [hhead, Option.some_or, Option.mem_some_iff] at hd
      rw [← hd]
      exact h.head first hhead
  last := by
    intro d hd
    rw [List.getLast?_concat, Option.mem_some_iff] at hd
    rwa [← hd]

/-- A blank before a trimmed text is trimmed away. -/
theorem trim_cons (h : Trimmed t) (hc : isBlank c = true) : trim (c :: t) = t := by
  rw [trim, trimStart, List.dropWhile_cons, hc, if_pos rfl]
  exact h.trim_eq

end Trimmed

/-- Trimming makes no text longer. -/
theorem length_trim_le (t : Text) : (trim t).length ≤ t.length :=
  (List.rdropWhile_prefix isBlank (trimStart t)).length_le.trans
    (List.dropWhile_suffix isBlank).length_le

theorem mem_of_mem_trim (h : c ∈ trim t) : c ∈ t :=
  (List.dropWhile_suffix isBlank).subset ((List.rdropWhile_prefix isBlank _).subset h)

theorem trimmed_trim (t : Text) : Trimmed (trim t) where
  head := fun c hc => head_dropWhile isBlank t c (mem_head?_of_dropEnd hc)
  last := last_dropEnd isBlank _

/-- Blanks in front of a text are trimmed away. -/
theorem trim_append_left {gap : Text} (h : ∀ c ∈ gap, isBlank c = true) (t : Text) :
    trim (gap ++ t) = trim t := by
  rw [trim, trim, trimStart, trimStart, List.dropWhile_append_of_pos h]

/-- Blanks behind a text are trimmed away. -/
theorem trim_append_right {gap : Text} (h : ∀ c ∈ gap, isBlank c = true) (t : Text) :
    trim (t ++ gap) = trim t := by
  rw [trim, trim, trimStart, trimStart, List.dropWhile_append]
  split
  · next hblank =>
    rw [List.isEmpty_iff.mp hblank, List.dropWhile_eq_nil_iff.mpr h]
  · exact dropEnd_append_of_forall h _

/-- A text is its trimmed middle between blanks. -/
theorem exists_trim_append (t : Text) :
    ∃ before after, t = before ++ (trim t ++ after) ∧ (∀ c ∈ before, isBlank c = true) ∧
      ∀ c ∈ after, isBlank c = true := by
  refine ⟨t.takeWhile isBlank, ((trimStart t).reverse.takeWhile isBlank).reverse, ?_, ?_, ?_⟩
  · rw [trim, trimEnd, dropEnd_append_takeWhile, trimStart, List.takeWhile_append_dropWhile]
  · exact fun c hc => List.mem_takeWhile_imp hc
  · exact fun c hc => List.mem_takeWhile_imp (List.mem_reverse.mp hc)

/-! ### Stored texts -/

/-- What is stored of a text has no blank at either end. -/
theorem trimmed_stored (t : Text) : Trimmed (stored t) where
  head := fun c hc =>
    (trimmed_trim t).head c (mem_head?_of_dropEnd (mem_head?_of_dropEnd hc))
  last := last_dropEnd isBlank _

theorem stored_prefix_trim (t : Text) : stored t <+: trim t :=
  (List.rdropWhile_prefix isBlank _).trans (List.rdropWhile_prefix (· == ';') _)

/-- Nothing is stored that does not stand in the text. -/
theorem mem_of_mem_stored (h : c ∈ stored t) : c ∈ t :=
  mem_of_mem_trim ((stored_prefix_trim t).subset h)

/-- A text that is stored as it is: trimmed, and without a semicolon at its end. -/
structure Storable (t : Text) : Prop where
  trimmed : Trimmed t
  last : ∀ c ∈ t.getLast?, c ≠ ';'

instance (t : Text) : Decidable (Storable t) :=
  decidable_of_iff (Trimmed t ∧ (t.getLast?.all fun c => c != ';') = true) <| by
    simp only [Option.all_eq_true, bne_iff_ne]
    exact ⟨fun h => ⟨h.1, h.2⟩, fun h => ⟨h.trimmed, h.last⟩⟩

theorem isBlank_semicolon : isBlank ';' = false := by decide

theorem dropEnd_semicolon (t : Text) :
    dropEnd (· == ';') (t ++ [';']) = dropEnd (· == ';') t :=
  dropEnd_concat_of_pos t (beq_self_eq_true ';')

namespace Storable

theorem dropEnd_eq (h : Storable t) : dropEnd (· == ';') t = t :=
  dropEnd_eq_self fun c hc => beq_eq_false_iff_ne.mpr (h.last c hc)

theorem stored_eq (h : Storable t) : stored t = t := by
  rw [stored, h.trimmed.trim_eq, h.dropEnd_eq]
  exact dropEnd_eq_self h.trimmed.last

/-- A storable text is what a text that is trimmed to it and a semicolon is stored as. -/
theorem stored_of_trim (h : Storable t) {raw : Text} (hraw : trim raw = t ++ [';']) :
    stored raw = t := by
  rw [stored, hraw, dropEnd_semicolon, h.dropEnd_eq]
  exact dropEnd_eq_self h.trimmed.last

theorem stored_closed (h : Storable t) : stored (t ++ [';']) = t :=
  h.stored_of_trim (h.trimmed.concat isBlank_semicolon).trim_eq

theorem stored_blank_closed (h : Storable t) : stored (' ' :: (t ++ [';'])) = t :=
  h.stored_of_trim ((h.trimmed.concat isBlank_semicolon).trim_cons (by decide))

end Storable

/-- **A text is stored as it is if and only if it is trimmed and ends in no semicolon.** -/
theorem stored_eq_self_iff : stored t = t ↔ Storable t := by
  refine ⟨fun h => ?_, Storable.stored_eq⟩
  have htrimmed : Trimmed t := h ▸ trimmed_stored t
  refine ⟨htrimmed, ?_⟩
  rintro c hc rfl
  -- without its last semicolon the text would be shorter
  obtain ⟨kept, rfl⟩ := List.getLast?_eq_some_iff.mp hc
  have hshort : stored (kept ++ [';']) <+: kept := by
    rw [stored, htrimmed.trim_eq, dropEnd_semicolon]
    exact (List.rdropWhile_prefix isBlank _).trans (List.rdropWhile_prefix (· == ';') _)
  have hlength := hshort.length_le
  rw [h, List.length_append, List.length_singleton] at hlength
  omega

/-! ### Parted semicolons -/

/-- The closing semicolons of a text are parted by blanks. -/
def PartedEnd (t : Text) : Prop :=
  ∃ kept gap run, trim t = kept ++ [';'] ++ gap ++ run ∧
    (gap ≠ [] ∧ ∀ c ∈ gap, isBlank c = true) ∧ run ≠ [] ∧ ∀ c ∈ run, c = ';'

theorem partedEnd_of_getLast?_stored (h : (stored t).getLast? = some ';') : PartedEnd t := by
  obtain ⟨run, hrun, hsemicolons⟩ := exists_append_of_dropEnd (· == ';') (trim t)
  obtain ⟨gap, hgap, hblanks⟩ := exists_append_of_dropEnd isBlank (dropEnd (· == ';') (trim t))
  have hstored : dropEnd isBlank (dropEnd (· == ';') (trim t)) = stored t := rfl
  rw [hstored] at hgap
  obtain ⟨kept, hkept⟩ := List.getLast?_eq_some_iff.mp h
  have hgapped : gap ≠ [] := by
    -- the semicolons that stand together at the end were all dropped
    rintro rfl
    have hlast := last_dropEnd (· == ';') (trim t)
    rw [hgap, List.append_nil, h] at hlast
    cases hlast ';' rfl
  have hclosed : run ≠ [] := by
    -- blanks with no semicolon behind them were trimmed
    rintro rfl
    obtain ⟨c, hc, hblank⟩ := exists_getLast?_append hgapped hblanks (stored t)
    have hlast := (trimmed_trim t).last
    rw [hrun, List.append_nil, hgap] at hlast
    cases (hlast c hc).symm.trans hblank
  refine ⟨kept, gap, run, ?_, ⟨hgapped, hblanks⟩, hclosed, fun c hc => ?_⟩
  · rw [hrun, hgap, hkept]
  · exact beq_iff_eq.mp (hsemicolons c hc)

theorem PartedEnd.getLast?_stored (h : PartedEnd t) : (stored t).getLast? = some ';' := by
  obtain ⟨kept, gap, run, htrim, ⟨hgapped, hblanks⟩, -, hsemicolons⟩ := h
  have hrun : dropEnd (· == ';') (kept ++ [';'] ++ gap ++ run) = kept ++ [';'] ++ gap := by
    rw [dropEnd_append_of_forall fun c hc => beq_iff_eq.mpr (hsemicolons c hc)]
    refine dropEnd_eq_self fun c hc => ?_
    obtain ⟨d, hd, hblank⟩ := exists_getLast?_append hgapped hblanks (kept ++ [';'])
    obtain rfl := Option.some.inj (hd.symm.trans hc)
    refine beq_eq_false_iff_ne.mpr ?_
    rintro rfl
    cases isBlank_semicolon.symm.trans hblank
  have hgap : trimEnd (kept ++ [';'] ++ gap) = kept ++ [';'] := by
    rw [trimEnd, dropEnd_append_of_forall hblanks]
    refine dropEnd_eq_self fun c hc => ?_
    rw [List.getLast?_concat, Option.mem_some_iff] at hc
    rw [← hc]
    exact isBlank_semicolon
  rw [stored, htrim, hrun, hgap, List.getLast?_concat]

/-- **What is stored of a text can be stored again as it is, unless the closing semicolons of the
text are parted.** -/
theorem storable_stored_iff : Storable (stored t) ↔ ¬ PartedEnd t := by
  constructor
  · exact fun h hparted => h.last ';' hparted.getLast?_stored rfl
  · refine fun h => ⟨trimmed_stored t, ?_⟩
    rintro c hc rfl
    exact h (partedEnd_of_getLast?_stored hc)

instance (t : Text) : Decidable (PartedEnd t) :=
  decidable_of_iff (¬ Storable (stored t)) (not_congr storable_stored_iff |>.trans not_not)

-- one run of closing semicolons is dropped, with the blanks around it
example : stored " small ;; ".toList = "small".toList ∧
    stored "small ; ;".toList = "small ;".toList := by decide

/-! ### Characters of numbers -/

/-- A digit of any script is no blank. -/
theorem isBlank_of_isDigit (h : isDigit c = true) : isBlank c = false := by
  have hapart : ∀ first ∈ digitRows, ∀ range ∈ blankRanges,
      range.2 < first ∨ first + 10 ≤ range.1 := by decide
  obtain ⟨first, hfirst, hdigit⟩ := List.any_eq_true.mp h
  refine Bool.eq_false_iff.mpr fun hblank => ?_
  obtain ⟨range, hrange, hmem⟩ := List.any_eq_true.mp hblank
  simp only [Bool.and_eq_true, decide_eq_true_eq] at hdigit hmem
  rcases hapart first hfirst range hrange with hlow | hhigh <;> omega

theorem isBlank_lineFeed : isBlank '\n' = true := by decide

end PlanetScript.Text
