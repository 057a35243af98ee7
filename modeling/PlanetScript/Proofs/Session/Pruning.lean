import PlanetScript.Proofs.Session.Following
import PlanetScript.Proofs.Text.Lines

/-! # The two block scopes

Where a block closes after content, the content and the removals that follow have no block
to speak to.  Pruning deletes these lines from a script, and what is left says under the
sticky scope what the whole script says under the other one.

The two readings do not carry the same focus: the kind is forgotten at the first content,
and the sticky reading keeps a block open that the other has closed.  But a line that is
kept either finds the block open in both, or it does not look at the focus
(`edits_pruneLines`).
-/
namespace PlanetScript
open Text

/-- Whether the line of a place is content or a removal after content, with no line in
between that opens a block. -/
def Place.Pruned (p : Place) : Prop :=
  hasContent p.before = true ∧ (p.directive = .content ∨ p.directive = .remove)

instance (p : Place) : Decidable p.Pruned := by unfold Place.Pruned; infer_instance

/-- The lines without the pruned ones. -/
def pruneLines (lines : List Text) : List Text :=
  ((places lines).filter fun p => ¬ p.Pruned).map (·.line)

theorem pruneLines_concat (lines : List Text) (line : Text) :
    pruneLines (lines ++ [line]) =
      pruneLines lines ++ if Place.Pruned ⟨lines, line⟩ then [] else [line] := by
  unfold pruneLines
  rw [places_concat, List.filter_append, List.map_append]
  by_cases h : Place.Pruned ⟨lines, line⟩ <;> simp [h]

theorem pruneLines_eq_self {lines : List Text} (h : ∀ p ∈ places lines, ¬ p.Pruned) :
    pruneLines lines = lines := by
  induction lines using List.reverseRecOn with
  | nil => rfl
  | append_singleton lines line ih =>
    rw [places_concat] at h
    have hline : ¬ Place.Pruned ⟨lines, line⟩ := h _ (by simp)
    rw [pruneLines_concat, if_neg hline, ih fun p hp => h p (List.mem_append_left _ hp)]

/-- Pruning takes nothing away that a directive other than a removal says. -/
theorem lastSaid_pruneLines {α : Type} {f : Directive → Option α} (hc : f .content = none)
    (hr : f .remove = none) (lines : List Text) :
    lastSaid f (pruneLines lines) = lastSaid f lines := by
  induction lines using List.reverseRecOn with
  | nil => rfl
  | append_singleton lines line ih =>
    rw [pruneLines_concat, lastSaid_concat]
    split
    · next h =>
      have hline : f (.ofLine line) = none := by
        rcases h.2 with hd | hd
        · exact (congrArg f hd).trans hc
        · exact (congrArg f hd).trans hr
      rw [List.append_nil, hline, Option.none_or, ih]
    · rw [lastSaid_concat, ih]

/-- Before any content the block that was opened last is open in both scopes. -/
theorem focusAt_pruneLines {lines : List Text} (h : hasContent lines = false) :
    focusAt .sticky (pruneLines lines) = focusAt .resetAfterContent lines := by
  simp only [focusAt, openBlock?, currentId?, currentKind?, h, Bool.false_eq_true, if_false,
    lastSaid_pruneLines (f := Directive.opened?) rfl rfl,
    lastSaid_pruneLines (f := Directive.subject?) rfl rfl]

theorem block_focusAt_of_hasContent {lines : List Text} (h : hasContent lines = true) :
    (focusAt .resetAfterContent lines).block = none := if_pos h

/-- **The pruned lines make the same edits where blocks stay open.** -/
theorem edits_pruneLines (lines : List Text) :
    edits .sticky (pruneLines lines) = edits .resetAfterContent lines := by
  induction lines using List.reverseRecOn with
  | nil => rfl
  | append_singleton lines line ih =>
    rw [pruneLines_concat, edits_concat]
    split
    · next h =>
      have hnone : (focusAt .resetAfterContent lines).edit? line = none :=
        Focus.edit?_eq_none_of_block (block_focusAt_of_hasContent h.1) h.2
      rw [List.append_nil, hnone, ih, Option.toList_none, List.append_nil]
    · next h =>
      rw [edits_concat, ih]
      congr 2
      cases hc : hasContent lines with
      | false => rw [focusAt_pruneLines hc]
      | true =>
        -- the focuses differ here, but a line that is kept is none that looks at them
        have hkept : ¬ (Directive.ofLine line = .content ∨ Directive.ofLine line = .remove) :=
          fun hd => h ⟨hc, hd⟩
        rw [not_or] at hkept
        exact Focus.edit?_eq_of_directive hkept.1 hkept.2 _ _

/-! ### Pruning a script -/

/-- Whether a line of a script counts and is pruned; `p` is its place among all lines. -/
def Place.Dropped (p : Place) : Prop :=
  trim p.line ≠ [] ∧ Place.Pruned ⟨countingLines p.before, trim p.line⟩

instance (p : Place) : Decidable p.Dropped := by unfold Place.Dropped; infer_instance

/-- The script without the lines that are pruned; the others stay as they were written. -/
def prune (script : Text) : Text :=
  ['\n'].intercalate (((places (splitLines script)).filter fun p => ¬ p.Dropped).map (·.line))

theorem countingLines_filter_places (raws : List Text) :
    countingLines (((places raws).filter fun p => ¬ p.Dropped).map (·.line)) =
      pruneLines (countingLines raws) := by
  induction raws using List.reverseRecOn with
  | nil => rfl
  | append_singleton raws raw ih =>
    rw [places_concat, List.filter_append, List.map_append, countingLines_append, ih,
      countingLines_append]
    by_cases hblank : trim raw = []
    · -- a blank line is kept and does not count
      have hkept : ¬ Place.Dropped ⟨raws, raw⟩ := fun h => h.1 hblank
      simp [hkept, countingLines, hblank]
    · have hcounts : countingLines [raw] = [trim raw] := by simp [countingLines, hblank]
      have hdropped : Place.Dropped ⟨raws, raw⟩ ↔
          Place.Pruned ⟨countingLines raws, trim raw⟩ := and_iff_right hblank
      rw [hcounts, pruneLines_concat]
      by_cases h : Place.Pruned ⟨countingLines raws, trim raw⟩
      · have hnone : countingLines [] = [] := rfl
        simp [hdropped, h, hnone]
      · simp [hdropped, h, hcounts]

/-- The lines of a pruned script are the pruned lines of the script. -/
theorem contentLines_prune (script : Text) :
    contentLines (prune script) = pruneLines (contentLines script) := by
  rw [prune, contentLines_intercalate, countingLines_filter_places, contentLines_eq]
  intro raw hraw
  obtain ⟨p, hp, rfl⟩ := List.mem_map.mp hraw
  obtain ⟨after, hsplit⟩ := mem_places_iff.mp (List.mem_of_mem_filter hp)
  refine lineFeed_notMem_of_mem_splitLines (t := script) ?_
  rw [hsplit]
  simp

example : prune "planets.spawn\nx: 1\ny: 2\nplanets.spawn\n\ny: 3".toList =
    "planets.spawn\nx: 1\nplanets.spawn\n\ny: 3".toList := by decide

namespace Session

/-- The session with another block scope. -/
def inScope (s : Session) (blockScope : BlockScope) : Session :=
  { s with settings := { s.settings with blockScope } }

/-- **The scope that resets after content reads a script as the sticky scope reads the
pruned one**, and where nothing is pruned the two scopes agree. -/
theorem read_resetAfterContent (s : Session) (script : Text) :
    ((s.inScope .resetAfterContent).read script).Alike
        ((s.inScope .sticky).read (prune script)) ∧
      ((∀ p ∈ places (contentLines script), ¬ p.Pruned) →
        ((s.inScope .resetAfterContent).read script).Alike
          ((s.inScope .sticky).read script)) := by
  have hcleared : (s.inScope .resetAfterContent).clear.Alike (s.inScope .sticky).clear :=
    ⟨rfl, rfl, rfl, rfl, rfl, rfl, rfl⟩
  have hread : ∀ other, contentLines other = pruneLines (contentLines script) →
      ((s.inScope .resetAfterContent).read script).Alike ((s.inScope .sticky).read other) := by
    intro other hother
    have hreset := (s.inScope .resetAfterContent).alike_read script
    have hsticky := (s.inScope .sticky).alike_read other
    have hedits : edits .sticky (contentLines other) =
        edits .resetAfterContent (contentLines script) := by
      rw [hother, edits_pruneLines]
    refine hreset.trans (Alike.trans ?_ hsticky.symm)
    show ((edits .resetAfterContent _).foldl follow _).Alike ((edits .sticky _).foldl follow _)
    rw [hedits]
    exact hcleared.foldl_follow _
  refine ⟨hread (prune script) (contentLines_prune script), fun h => hread script ?_⟩
  exact (pruneLines_eq_self h).symm

/-- The scopes agree where every field has a block of its own. -/
theorem read_resetAfterContent_one_field :
    let script := "planets.spawn\nx: 1\nnew Object:o;\nsetSizeOf with id \"o\"\nbig".toList
    (∀ p ∈ places (contentLines script), ¬ p.Pruned) ∧
      ((inScope {} .resetAfterContent).read script).Alike ((inScope {} .sticky).read script) := by
  intro script
  have hkept : ∀ p ∈ places (contentLines script), ¬ p.Pruned := by decide
  exact ⟨hkept, (read_resetAfterContent {} script).2 hkept⟩

end Session
end PlanetScript
