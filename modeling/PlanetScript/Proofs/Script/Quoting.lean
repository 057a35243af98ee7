import PlanetScript.Proofs.Script.Naming

/-! # The quoted id of a line

An id in quotes stands behind the words `with id` and a gap.  A line can have these words more
than once, some of them without an id, and an id can have them too.  A cut of the line at one of
these places (`QuotedAt`) is told by what stands before it (`QuotedAt.unique`), and the id that is
found is that of the cut with the least text before it (`quotedId?_leftmost`).

A text is passed over if no cut starts in it (`PassedOver`).  Such a text changes nothing in front
of a line, so a place where the id is missing does not hide an id that follows.
-/
namespace PlanetScript
open Text

/-- A line that is cut where it has the words `with id`, a gap and an id in quotes. -/
structure QuotedAt (line before gap id after : Text) : Prop where
  line_eq : line = before ++ ("with id".toList ++ (gap ++ '\"' :: (id ++ '\"' :: after)))
  gap_ne_nil : gap ≠ []
  blank : ∀ c ∈ gap, isBlank c = true
  quotable : Quotable id

/-- The cut of a line that has the least text before it. -/
structure FirstQuotedAt (line before gap id after : Text) : Prop
    extends QuotedAt line before gap id after where
  least : ∀ before' gap' id' after', QuotedAt line before' gap' id' after' →
    before.length ≤ before'.length

/-- In front of a line no cut starts in a text. -/
def PassedOver (t line : Text) : Prop :=
  ∀ before gap id after, QuotedAt (t ++ line) before gap id after → t.length ≤ before.length

theorem isBlank_quote : isBlank '\"' = false := by decide

variable {t line before gap id after : Text} {c : Char}

namespace QuotedAt
variable {gap' id' after' : Text}

/-- The text before a cut can be longer or shorter. -/
theorem append_iff (t : Text) :
    QuotedAt (t ++ line) (t ++ before) gap id after ↔ QuotedAt line before gap id after := by
  have hline : t ++ line =
        (t ++ before) ++ ("with id".toList ++ (gap ++ '\"' :: (id ++ '\"' :: after))) ↔
      line = before ++ ("with id".toList ++ (gap ++ '\"' :: (id ++ '\"' :: after))) := by
    rw [List.append_assoc, List.append_right_inj]
  constructor
  · intro h
    exact ⟨hline.mp h.line_eq, h.gap_ne_nil, h.blank, h.quotable⟩
  · intro h
    exact ⟨hline.mpr h.line_eq, h.gap_ne_nil, h.blank, h.quotable⟩

/-- At one place a line has one gap and one id. -/
theorem unique (h : QuotedAt line before gap id after)
    (h' : QuotedAt line before gap' id' after') : gap = gap' ∧ id = id' ∧ after = after' := by
  have hwords : gap ++ '\"' :: (id ++ '\"' :: after) = gap' ++ '\"' :: (id' ++ '\"' :: after') := by
    have hline := h.line_eq.symm.trans h'.line_eq
    exact List.append_cancel_left (List.append_cancel_left hline)
  have hgap : gap = gap' := by
    rw [← takeWhile_append_stop h.blank isBlank_quote (id ++ '\"' :: after), hwords,
      takeWhile_append_stop h'.blank isBlank_quote]
  rw [hgap, List.append_right_inj, List.cons_inj_right] at hwords
  have hid : id = id' := by
    rw [← takeWhile_bne_append h.quotable.quote after, hwords,
      takeWhile_bne_append h'.quotable.quote]
  rw [hid, List.append_right_inj, List.cons_inj_right] at hwords
  exact ⟨hgap, hid, hwords⟩

end QuotedAt

/-! ### One place -/

/-- The id at the head of a line is that of the cut with no text before it. -/
theorem quotedIdHere?_eq_some_iff :
    quotedIdHere? line = some id ↔ ∃ gap after, QuotedAt line [] gap id after := by
  constructor
  · intro h
    unfold quotedIdHere? at h
    split at h
    · cases h
    · next words hwords =>
      split at h
      · next b gap quoted hgap hquoted =>
        split at h
        · next c id d after hid hafter =>
          cases h
          have hquote : d = '\"' := by
            have hhead := head_dropWhile (· != '\"') quoted d (by rw [hafter]; rfl)
            simpa using hhead
          have hgapped : words = (b :: gap) ++ '\"' :: quoted := by
            rw [← hgap, ← hquoted, List.takeWhile_append_dropWhile]
          have hclosed : quoted = (c :: id) ++ '\"' :: after := by
            rw [hquote] at hafter
            rw [← hid, ← hafter, List.takeWhile_append_dropWhile]
          refine ⟨b :: gap, after, ?_, List.cons_ne_nil _ _, ?_, List.cons_ne_nil _ _, ?_⟩
          · rw [rest?_eq_some_iff.mp hwords, hgapped, hclosed, List.nil_append]
          · rw [← hgap]
            exact fun c hc => List.mem_takeWhile_imp hc
          · rw [← hid]
            exact fun hc => by simpa using List.mem_takeWhile_imp hc
        · cases h
      · cases h
  · rintro ⟨gap, after, h⟩
    obtain ⟨b, gap, rfl⟩ := List.exists_cons_of_ne_nil h.gap_ne_nil
    obtain ⟨c, id, rfl⟩ := List.exists_cons_of_ne_nil h.quotable.ne_nil
    have hblank := takeWhile_append_stop h.blank isBlank_quote (c :: id ++ '\"' :: after)
    have hquoted := dropWhile_append_stop h.blank isBlank_quote (c :: id ++ '\"' :: after)
    have htake := takeWhile_bne_append h.quotable.quote after
    have hdrop := dropWhile_bne_append h.quotable.quote after
    have hwords : rest? "with id".toList line =
        some (b :: gap ++ '\"' :: (c :: id ++ '\"' :: after)) := rest?_eq_some_iff.mpr h.line_eq
    rw [quotedIdHere?, hwords]
    simp only [hblank, hquoted, htake, hdrop]

/-- Where no id is found at the head of a line, the first character is passed over. -/
theorem passedOver_of_quotedIdHere?_eq_none (h : quotedIdHere? (c :: line) = none) :
    PassedOver [c] line := by
  intro before gap id after hcut
  cases before with
  | nil =>
    rw [List.singleton_append] at hcut
    rw [quotedIdHere?_eq_some_iff.mpr ⟨gap, after, hcut⟩] at h
    cases h
  | cons d before => exact Nat.succ_le_succ (Nat.zero_le _)

/-! ### The first place -/

namespace PassedOver

/-- The cuts of a line are all there are with the text in front of it. -/
theorem quotedAt_iff (h : PassedOver t line) :
    QuotedAt (t ++ line) before gap id after ↔
      ∃ rest, before = t ++ rest ∧ QuotedAt line rest gap id after := by
  constructor
  · intro hcut
    have hbefore : before <+: t ++ line := ⟨_, hcut.line_eq.symm⟩
    obtain ⟨rest, rfl⟩ := List.prefix_of_prefix_length_le (List.prefix_append t line) hbefore
      (h _ _ _ _ hcut)
    exact ⟨rest, rfl, (QuotedAt.append_iff t).mp hcut⟩
  · rintro ⟨rest, rfl, hcut⟩
    exact (QuotedAt.append_iff t).mpr hcut

theorem firstQuotedAt_iff (h : PassedOver t line) :
    FirstQuotedAt (t ++ line) before gap id after ↔
      ∃ rest, before = t ++ rest ∧ FirstQuotedAt line rest gap id after := by
  constructor
  · intro hfirst
    obtain ⟨rest, rfl, hcut⟩ := h.quotedAt_iff.mp hfirst.toQuotedAt
    refine ⟨rest, rfl, hcut, fun rest' gap' id' after' hcut' => ?_⟩
    have hleast := hfirst.least _ _ _ _ ((QuotedAt.append_iff t).mpr hcut')
    rw [List.length_append, List.length_append] at hleast
    exact Nat.le_of_add_le_add_left hleast
  · rintro ⟨rest, rfl, hfirst⟩
    refine ⟨(QuotedAt.append_iff t).mpr hfirst.toQuotedAt, fun before' gap' id' after' hcut' => ?_⟩
    obtain ⟨rest', rfl, hrest'⟩ := h.quotedAt_iff.mp hcut'
    rw [List.length_append, List.length_append]
    exact Nat.add_le_add_left (hfirst.least _ _ _ _ hrest') _

end PassedOver

/-- The id that is found is that of the first cut. -/
theorem quotedId?_eq_some_iff :
    quotedId? line = some id ↔ ∃ before gap after, FirstQuotedAt line before gap id after := by
  induction line with
  | nil =>
    refine iff_of_false nofun ?_
    rintro ⟨before, gap, after, h⟩
    exact absurd h.line_eq (by simp)
  | cons c line ih =>
    unfold quotedId?
    cases hhere : quotedIdHere? (c :: line) with
    | some found =>
      obtain ⟨gap, after, hcut⟩ := quotedIdHere?_eq_some_iff.mp hhere
      constructor
      · intro h
        cases h
        exact ⟨[], gap, after, hcut, fun _ _ _ _ _ => Nat.zero_le _⟩
      · rintro ⟨before, gap', after', h⟩
        obtain rfl : before = [] :=
          List.length_eq_zero_iff.mp (Nat.le_zero.mp (h.least _ _ _ _ hcut))
        rw [(hcut.unique h.toQuotedAt).2.1]
    | none =>
      have hpassed := passedOver_of_quotedIdHere?_eq_none hhere
      refine ih.trans ⟨?_, ?_⟩
      · rintro ⟨before, gap, after, h⟩
        exact ⟨c :: before, gap, after, hpassed.firstQuotedAt_iff.mpr ⟨before, rfl, h⟩⟩
      · rintro ⟨before, gap, after, h⟩
        obtain ⟨rest, -, hrest⟩ := hpassed.firstQuotedAt_iff.mp h
        exact ⟨rest, gap, after, hrest⟩

theorem quotedId?_eq_none_iff :
    quotedId? line = none ↔ ∀ before gap id after, ¬ QuotedAt line before gap id after := by
  induction line with
  | nil =>
    refine iff_of_true rfl fun before gap id after h => ?_
    exact absurd h.line_eq (by simp)
  | cons c line ih =>
    unfold quotedId?
    cases hhere : quotedIdHere? (c :: line) with
    | some found =>
      obtain ⟨gap, after, hcut⟩ := quotedIdHere?_eq_some_iff.mp hhere
      exact iff_of_false (Option.some_ne_none found) fun h => h _ _ _ _ hcut
    | none =>
      have hpassed := passedOver_of_quotedIdHere?_eq_none hhere
      refine ih.trans ⟨?_, ?_⟩
      · intro h before gap id after hcut
        obtain ⟨rest, -, hrest⟩ := hpassed.quotedAt_iff.mp hcut
        exact h _ _ _ _ hrest
      · intro h before gap id after hcut
        exact h _ _ _ _ ((QuotedAt.append_iff [c]).mpr hcut)

/-- A text that is passed over hides no id. -/
theorem quotedId?_append_of_passedOver (h : PassedOver t line) :
    quotedId? (t ++ line) = quotedId? line := by
  refine Option.ext fun id =>
    quotedId?_eq_some_iff.trans (.trans ⟨?_, ?_⟩ quotedId?_eq_some_iff.symm)
  · rintro ⟨before, gap, after, hfirst⟩
    obtain ⟨rest, -, hrest⟩ := h.firstQuotedAt_iff.mp hfirst
    exact ⟨rest, gap, after, hrest⟩
  · rintro ⟨rest, gap, after, hfirst⟩
    exact ⟨t ++ rest, gap, after, h.firstQuotedAt_iff.mpr ⟨rest, rfl, hfirst⟩⟩

/-- Words without quotes behind them hide no id. -/
theorem quotedId?_unquoted {gap : Text} (hblank : ∀ c ∈ gap, isBlank c = true)
    (hline : ∀ c ∈ line.head?, isBlank c = false ∧ c ≠ '\"') :
    quotedId? ("with id".toList ++ (gap ++ line)) = quotedId? line := by
  have hhere : quotedIdHere? ("with id".toList ++ (gap ++ line)) = none := by
    refine Option.eq_none_iff_forall_ne_some.mpr fun id hid => ?_
    obtain ⟨gap', after, hcut⟩ := quotedIdHere?_eq_some_iff.mp hid
    have hwords : gap ++ line = gap' ++ '\"' :: (id ++ '\"' :: after) :=
      List.append_cancel_left hcut.line_eq
    cases line with
    | nil =>
      have hmem : '\"' ∈ gap := by
        rw [List.append_nil] at hwords
        rw [hwords]
        simp
      exact absurd (hblank _ hmem) (by decide)
    | cons c line =>
      obtain ⟨hc, hquote⟩ := hline c rfl
      have hgap : gap = gap' := by
        rw [← takeWhile_append_stop hblank hc line, hwords,
          takeWhile_append_stop hcut.blank isBlank_quote]
      rw [hgap, List.append_right_inj] at hwords
      exact hquote (List.cons.inj hwords).1
  have hkey : 'w' ∉ "ith id".toList ++ gap := by
    rw [List.mem_append, not_or]
    refine ⟨by decide, fun hmem => ?_⟩
    exact absurd (hblank _ hmem) (by decide)
  have hwords : "with id".toList ++ (gap ++ line) = 'w' :: (("ith id".toList ++ gap) ++ line) := by
    simp
  rw [hwords] at hhere ⊢
  rw [quotedId?, hhere]
  exact quotedId?_append hkey line

/-- **The id of a line is its first quoted one.**  It is the id of the cut with the least text
before it, and at that place the gap, the id and the rest of the line are the only ones; there is
no id if the line has no cut at all.  A text in which no cut starts hides nothing that follows:
neither an empty pair of quotes behind the words nor words without quotes do. -/
theorem quotedId?_leftmost (line : Text) :
    (∀ id, quotedId? line = some id ↔
        ∃ before gap after, FirstQuotedAt line before gap id after) ∧
      (∀ before gap id after gap' id' after', QuotedAt line before gap id after →
        QuotedAt line before gap' id' after' → gap = gap' ∧ id = id' ∧ after = after') ∧
      (quotedId? line = none ↔ ∀ before gap id after, ¬ QuotedAt line before gap id after) ∧
      (∀ t, PassedOver t line → quotedId? (t ++ line) = quotedId? line) ∧
      quotedId? ("with id \"\"".toList ++ line) = quotedId? line ∧
      ∀ gap, (∀ c ∈ gap, isBlank c = true) →
        (∀ c ∈ line.head?, isBlank c = false ∧ c ≠ '\"') →
        quotedId? ("with id".toList ++ (gap ++ line)) = quotedId? line :=
  ⟨fun _ => quotedId?_eq_some_iff, fun _ _ _ _ _ _ _ h h' => h.unique h', quotedId?_eq_none_iff,
    fun _ h => quotedId?_append_of_passedOver h, rfl, fun _ => quotedId?_unquoted⟩

/-- An id may have the words in it, and an earlier place without an id does not count. -/
example : quotedId? "with id \"\" with id bare with id\t\"with id \" with id \"b\"".toList =
    some "with id ".toList := by decide

end PlanetScript
