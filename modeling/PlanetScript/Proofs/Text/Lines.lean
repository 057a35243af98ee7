import PlanetScript.Proofs.Text.Trimmed

/-! # The lines of a script

A script is split at its line feeds, each piece is trimmed, and the empty ones do not count.
Joined pieces without line feeds are split again into the same pieces
(`contentLines_intercalate`), and those that count as they are written come back unchanged
(`contentLines_of_counts`).  Blanks in front of the first line or behind the last one count for
nothing (`contentLines_append_left`, `contentLines_append_right`).
-/
namespace PlanetScript
open Text

/-! ### Splitting and joining -/

theorem splitLines_eq_splitOn (t : Text) : splitLines t = t.splitOn '\n' := by
  induction t with
  | nil => rfl
  | cons c t ih =>
    rw [List.splitOn_cons_eq_if_modifyHead, ← ih, splitLines]
    by_cases hc : c = '\n'
    · simp [hc]
    · have hlines := splitLines_ne_nil t
      cases hs : splitLines t with
      | nil => exact absurd hs hlines
      | cons line lines => simp [hc]

theorem splitLines_of_notMem {t : Text} (h : '\n' ∉ t) : splitLines t = [t] := by
  induction t with
  | nil => rfl
  | cons c t ih =>
    rw [List.mem_cons, not_or] at h
    rw [splitLines, if_neg (Ne.symm h.1), ih h.2]

theorem splitLines_append_lineFeed (t s : Text) :
    splitLines (t ++ '\n' :: s) = splitLines t ++ splitLines s := by
  induction t with
  | nil => rfl
  | cons c t ih =>
    rw [List.cons_append, splitLines, splitLines, ih]
    by_cases hc : c = '\n'
    · rw [if_pos hc, if_pos hc, List.cons_append]
    · rw [if_neg hc, if_neg hc]
      cases hs : splitLines t with
      | nil => exact absurd hs (splitLines_ne_nil t)
      | cons line lines => rfl

theorem lineFeed_notMem_of_mem_splitLines {t line : Text} (h : line ∈ splitLines t) :
    '\n' ∉ line := by
  induction t generalizing line with
  | nil =>
    rw [List.mem_singleton.mp h]
    exact List.not_mem_nil
  | cons c t ih =>
    unfold splitLines at h
    by_cases hc : c = '\n'
    · rw [if_pos hc] at h
      rcases List.mem_cons.mp h with rfl | h
      · exact List.not_mem_nil
      · exact ih h
    · rw [if_neg hc] at h
      cases hs : splitLines t with
      | nil => exact absurd hs (splitLines_ne_nil t)
      | cons first rest =>
        rw [hs] at h
        rcases List.mem_cons.mp h with rfl | h
        · rw [List.mem_cons, not_or]
          exact ⟨Ne.symm hc, ih (hs ▸ List.mem_cons_self)⟩
        · exact ih (hs ▸ List.mem_cons_of_mem _ h)

/-- The lines that count among some lines of a script. -/
def countingLines (raws : List Text) : List Text := (raws.map trim).filter (· ≠ [])

theorem contentLines_eq (script : Text) :
    contentLines script = countingLines (splitLines script) := rfl

theorem countingLines_append (xs ys : List Text) :
    countingLines (xs ++ ys) = countingLines xs ++ countingLines ys := by
  simp [countingLines]

theorem contentLines_intercalate {raws : List Text} (h : ∀ raw ∈ raws, '\n' ∉ raw) :
    contentLines (['\n'].intercalate raws) = countingLines raws := by
  by_cases hraws : raws = []
  · rw [hraws]; rfl
  · rw [contentLines_eq, splitLines_eq_splitOn, List.splitOn_intercalate '\n' h hraws]

/-! ### Blanks at the ends of lines -/

/-- Blanks that stand on one line. -/
def Text.Blanks (gap : Text) : Prop := ∀ c ∈ gap, isBlank c = true ∧ c ≠ '\n'

section Blanks
variable {gap t s : Text}

theorem Text.Blanks.isBlank (h : Blanks gap) : ∀ c ∈ gap, isBlank c = true :=
  fun c hc => (h c hc).1

theorem Text.Blanks.lineFeed (h : Blanks gap) : '\n' ∉ gap := fun hc => (h '\n' hc).2 rfl

/-- A line feed ends a line whatever follows it. -/
theorem contentLines_append_lineFeed (t s : Text) :
    contentLines (t ++ '\n' :: s) = contentLines t ++ contentLines s := by
  rw [contentLines_eq, splitLines_append_lineFeed, countingLines_append]
  rfl

/-- On one line only the trimmed text counts. -/
theorem contentLines_congr_of_notMem (ht : '\n' ∉ t) (hs : '\n' ∉ s) (h : trim t = trim s) :
    contentLines t = contentLines s := by
  rw [contentLines_eq, contentLines_eq, splitLines_of_notMem ht, splitLines_of_notMem hs,
    countingLines, countingLines, List.map_singleton, List.map_singleton, h]

/-- Blanks in front of the first line count for nothing. -/
theorem contentLines_append_left (h : Blanks gap) (t : Text) :
    contentLines (gap ++ t) = contentLines t := by
  have hline : ∀ line : Text, '\n' ∉ line → contentLines (gap ++ line) = contentLines line := by
    intro line hline
    refine contentLines_congr_of_notMem ?_ hline (trim_append_left h.isBlank line)
    rw [List.mem_append, not_or]
    exact ⟨h.lineFeed, hline⟩
  by_cases hfeed : '\n' ∈ t
  · obtain ⟨line, rest, rfl, hnot⟩ := List.eq_append_cons_of_mem hfeed
    rw [← List.append_assoc, contentLines_append_lineFeed, contentLines_append_lineFeed,
      hline line hnot]
  · exact hline t hfeed

/-- Blanks behind the last line count for nothing. -/
theorem contentLines_append_right (h : Blanks gap) (t : Text) :
    contentLines (t ++ gap) = contentLines t := by
  have hline : ∀ line : Text, '\n' ∉ line → contentLines (line ++ gap) = contentLines line := by
    intro line hline
    refine contentLines_congr_of_notMem ?_ hline (trim_append_right h.isBlank line)
    rw [List.mem_append, not_or]
    exact ⟨hline, h.lineFeed⟩
  by_cases hfeed : '\n' ∈ t
  · -- the last line feed is the first one from behind
    obtain ⟨line, rest, hrev, hnot⟩ := List.eq_append_cons_of_mem (List.mem_reverse.mpr hfeed)
    obtain rfl : t = rest.reverse ++ '\n' :: line.reverse := by
      rw [← t.reverse_reverse, hrev, List.reverse_append, List.reverse_cons, List.append_assoc]
      rfl
    rw [List.append_assoc, List.cons_append, contentLines_append_lineFeed,
      contentLines_append_lineFeed, hline _ fun hmem => hnot (List.mem_reverse.mp hmem)]
  · exact hline t hfeed

end Blanks

/-! ### Lines that count as they are written -/

namespace Text

/-- A line that counts, and counts as it is written. -/
structure Counts (line : Text) : Prop where
  lineFeed : '\n' ∉ line
  trimmed : Trimmed line
  ne_nil : line ≠ []

instance (line : Text) : Decidable (Counts line) :=
  decidable_of_iff ('\n' ∉ line ∧ Trimmed line ∧ line ≠ [])
    ⟨fun h => ⟨h.1, h.2.1, h.2.2⟩, fun h => ⟨h.lineFeed, h.trimmed, h.ne_nil⟩⟩

/-- Two texts that make every text between them a line that counts. -/
structure Frames (pre post : Text) : Prop where
  head : ∃ c ∈ pre.head?, isBlank c = false
  last : ∃ c ∈ post.getLast?, isBlank c = false
  lineFeed : '\n' ∉ pre ++ post

instance (pre post : Text) : Decidable (Frames pre post) :=
  decidable_of_iff ((pre.head?.any fun c => !isBlank c) = true ∧
      (post.getLast?.any fun c => !isBlank c) = true ∧ '\n' ∉ pre ++ post) <| by
    simp only [Option.any_eq_true, Bool.not_eq_true']
    exact ⟨fun h => ⟨h.1, h.2.1, h.2.2⟩, fun h => ⟨h.head, h.last, h.lineFeed⟩⟩

theorem Frames.counts {pre post t : Text} (h : Frames pre post) (ht : '\n' ∉ t) :
    Counts (pre ++ (t ++ post)) := by
  rw [← List.append_assoc]
  obtain ⟨first, hfirst, hhead⟩ := h.head
  obtain ⟨final, hfinal, hlast⟩ := h.last
  have hbetween := h.lineFeed
  rw [List.mem_append, not_or] at hbetween
  refine ⟨?_, ⟨?_, ?_⟩, ?_⟩
  · simp only [List.mem_append, not_or]
    exact ⟨⟨hbetween.1, ht⟩, hbetween.2⟩
  · intro c hc
    rw [List.append_assoc, List.head?_append, hfirst, Option.some_or, Option.mem_some_iff] at hc
    rwa [← hc]
  · intro c hc
    rw [List.getLast?_append, hfinal, Option.some_or, Option.mem_some_iff] at hc
    rwa [← hc]
  · intro hnil
    rw [List.append_eq_nil_iff, List.append_eq_nil_iff] at hnil
    rw [hnil.1.1] at hfirst
    cases hfirst

end Text

/-- The lines of a script count as they are. -/
theorem counts_of_mem_contentLines {script line : Text} (h : line ∈ contentLines script) :
    Counts line := by
  obtain ⟨hline, hne⟩ := List.mem_filter.mp h
  obtain ⟨raw, hraw, rfl⟩ := List.mem_map.mp hline
  refine ⟨fun hfeed => ?_, trimmed_trim raw, of_decide_eq_true hne⟩
  exact lineFeed_notMem_of_mem_splitLines hraw (mem_of_mem_trim hfeed)

/-- Lines that count as they are written are the lines of the script that they make. -/
theorem contentLines_of_counts {lines : List Text} (h : ∀ line ∈ lines, Counts line) :
    contentLines (['\n'].intercalate lines) = lines := by
  have htrim : lines.map trim = lines :=
    (List.map_congr_left fun line hline => (h line hline).trimmed.trim_eq).trans lines.map_id
  rw [contentLines_intercalate fun line hline => (h line hline).lineFeed, countingLines, htrim]
  exact List.filter_eq_self.mpr fun line hline => decide_eq_true (h line hline).ne_nil

theorem Text.Counts.contentLines {line : Text} (h : Counts line) : contentLines line = [line] := by
  have hself := contentLines_of_counts (List.forall_mem_singleton.mpr h)
  rwa [List.intercalate_singleton] at hself

end PlanetScript
