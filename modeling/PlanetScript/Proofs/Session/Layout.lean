import Mathlib.Logic.Relation
import PlanetScript.Proofs.Text.Lines
import PlanetScript.Session.Basic

/-! # The layout of a script

Blanks at the ends of a line, lines of blanks, carriage returns and the last line feed are layout.
One edit of the layout keeps the lines that count (`LayoutEdit.contentLines_eq`), so a session
that reads a script does the same after any number of edits (`Session.read_relaid`).

Nothing else is layout: two scripts with the same lines that count can be edited into each other
(`relaid_iff`), by way of the text that has each of these lines on a line of its own
(`relaid_standard`).
-/
namespace PlanetScript
open Text

/-! ### Edits -/

/-- A text that a line can start behind. -/
inductive StartsLine : Text → Prop
  | head : StartsLine []
  | lineFeed (t : Text) : StartsLine (t ++ ['\n'])

/-- A text that a line can end before. -/
inductive EndsLine : Text → Prop
  | last : EndsLine []
  | lineFeed (t : Text) : EndsLine ('\n' :: t)
  | carriageReturn (t : Text) : EndsLine ('\r' :: '\n' :: t)

/-- One edit of the layout: what it puts in can stand at any place of a script. -/
inductive LayoutEdit : Text → Text → Prop
  /-- Blanks at the start of a line. -/
  | indent {before gap : Text} (hstart : StartsLine before) (hgap : Blanks gap) (after : Text) :
      LayoutEdit (before ++ after) (before ++ (gap ++ after))
  /-- Blanks at the end of a line. -/
  | trail {gap after : Text} (before : Text) (hgap : Blanks gap) (hend : EndsLine after) :
      LayoutEdit (before ++ after) (before ++ (gap ++ after))
  /-- A line of blanks. -/
  | blankLine {before gap : Text} (hstart : StartsLine before) (hgap : Blanks gap) (after : Text) :
      LayoutEdit (before ++ after) (before ++ (gap ++ '\n' :: after))
  /-- A carriage return before a line feed. -/
  | carriageReturn (before after : Text) :
      LayoutEdit (before ++ '\n' :: after) (before ++ '\r' :: '\n' :: after)
  /-- A line feed at the end of the script. -/
  | lastLineFeed (t : Text) : LayoutEdit t (t ++ ['\n'])

/-- Edits of the layout, made or taken back, lead from one script to the other. -/
def Relaid (script script' : Text) : Prop := Relation.EqvGen LayoutEdit script script'

theorem contentLines_startsLine {before : Text} (h : StartsLine before) (t : Text) :
    contentLines (before ++ t) = contentLines before ++ contentLines t := by
  cases h with
  | head => rfl
  | lineFeed s =>
    have hempty : contentLines [] = [] := rfl
    rw [List.append_assoc, List.singleton_append, contentLines_append_lineFeed,
      contentLines_append_lineFeed, hempty, List.append_nil]

theorem blanks_carriageReturn : Blanks ['\r'] := by
  intro c hc
  rw [List.mem_singleton.mp hc]
  decide

/-- Blanks before a line feed count for nothing. -/
theorem contentLines_trail_lineFeed {gap : Text} (hgap : Blanks gap) (before after : Text) :
    contentLines (before ++ (gap ++ '\n' :: after)) = contentLines (before ++ '\n' :: after) := by
  rw [← List.append_assoc, contentLines_append_lineFeed, contentLines_append_lineFeed,
    contentLines_append_right hgap]

theorem contentLines_trail {gap after : Text} (hgap : Blanks gap) (hend : EndsLine after)
    (before : Text) : contentLines (before ++ (gap ++ after)) = contentLines (before ++ after) := by
  cases hend with
  | last => rw [List.append_nil, List.append_nil, contentLines_append_right hgap]
  | lineFeed t => exact contentLines_trail_lineFeed hgap before t
  | carriageReturn t =>
    have hreturn := contentLines_trail_lineFeed blanks_carriageReturn
    calc contentLines (before ++ (gap ++ '\r' :: '\n' :: t))
        = contentLines ((before ++ gap) ++ '\r' :: '\n' :: t) := by rw [List.append_assoc]
      _ = contentLines ((before ++ gap) ++ '\n' :: t) := hreturn (before ++ gap) t
      _ = contentLines (before ++ (gap ++ '\n' :: t)) := by rw [List.append_assoc]
      _ = contentLines (before ++ '\n' :: t) := contentLines_trail_lineFeed hgap before t
      _ = contentLines (before ++ '\r' :: '\n' :: t) := (hreturn before t).symm

/-- **An edit of the layout keeps the lines that count.** -/
theorem LayoutEdit.contentLines_eq {script script' : Text} (h : LayoutEdit script script') :
    contentLines script = contentLines script' := by
  cases h with
  | indent hstart hgap after =>
    rw [contentLines_startsLine hstart, contentLines_startsLine hstart,
      contentLines_append_left hgap]
  | trail before hgap hend => exact (contentLines_trail hgap hend before).symm
  | @blankLine before gap hstart hgap after =>
    have hline : contentLines gap = [] := by
      rw [← List.append_nil gap, contentLines_append_left hgap]
      rfl
    rw [contentLines_startsLine hstart, contentLines_startsLine hstart,
      contentLines_append_lineFeed, hline, List.nil_append]
  | carriageReturn before after =>
    exact (contentLines_trail_lineFeed blanks_carriageReturn before after).symm
  | lastLineFeed t =>
    rw [contentLines_append_lineFeed]
    exact (List.append_nil _).symm

namespace Relaid
variable {script script' script'' : Text}

theorem edit (h : LayoutEdit script script') : Relaid script script' :=
  Relation.EqvGen.rel _ _ h

theorem refl (script : Text) : Relaid script script := Relation.EqvGen.refl _

theorem symm (h : Relaid script script') : Relaid script' script := Relation.EqvGen.symm _ _ h

theorem trans (h : Relaid script script') (h' : Relaid script' script'') :
    Relaid script script'' :=
  Relation.EqvGen.trans _ _ _ h h'

theorem contentLines_eq (h : Relaid script script') :
    contentLines script = contentLines script' := by
  induction h with
  | rel _ _ h => exact h.contentLines_eq
  | refl _ => rfl
  | symm _ _ _ ih => exact ih.symm
  | trans _ _ _ _ _ ih ih' => exact ih.trans ih'

end Relaid

/-! ### The standard layout -/

/-- Lines, each closed by a line feed. -/
def closedLines (lines : List Text) : Text := lines.flatMap (· ++ ['\n'])

theorem closedLines_splitLines (t : Text) : closedLines (splitLines t) = t ++ ['\n'] := by
  induction t with
  | nil => rfl
  | cons c t ih =>
    rw [splitLines]
    by_cases hc : c = '\n'
    · rw [if_pos hc, closedLines, List.flatMap_cons, ← closedLines, ih, hc]
      rfl
    · rw [if_neg hc]
      cases hs : splitLines t with
      | nil => exact absurd hs (splitLines_ne_nil t)
      | cons line lines =>
        rw [hs] at ih
        rw [List.cons_append, ← ih]
        rfl

/-- Behind a place where a line can start, lines can be edited into those of them that count. -/
theorem relaid_closedLines {raws : List Text} (h : ∀ raw ∈ raws, '\n' ∉ raw) {before : Text}
    (hstart : StartsLine before) :
    Relaid (before ++ closedLines raws) (before ++ closedLines (countingLines raws)) := by
  induction raws generalizing before with
  | nil => exact .refl _
  | cons raw raws ih =>
    have hraw := h raw List.mem_cons_self
    have hraws := fun raw hmem => h raw (List.mem_cons_of_mem _ hmem)
    obtain ⟨gap, gap', hsplit, hgap, hgap'⟩ := exists_trim_append raw
    have hclosed : closedLines (raw :: raws) = raw ++ '\n' :: closedLines raws := by
      rw [closedLines, List.flatMap_cons, List.append_assoc]
      rfl
    have hfeed : ∀ c ∈ raw, c ≠ '\n' := fun c hc heq => hraw (heq ▸ hc)
    rw [hclosed]
    by_cases htrim : trim raw = []
    · have hcounting : countingLines (raw :: raws) = countingLines raws := by
        rw [countingLines, List.map_cons, htrim]
        rfl
      rw [htrim, List.nil_append] at hsplit
      have hblank : Blanks raw := by
        intro c hc
        refine ⟨?_, hfeed c hc⟩
        rw [hsplit, List.mem_append] at hc
        exact hc.elim (hgap c) (hgap' c)
      rw [hcounting]
      exact (Relaid.edit (.blankLine hstart hblank _)).symm.trans (ih hraws hstart)
    · have hcounting : closedLines (countingLines (raw :: raws)) =
          trim raw ++ '\n' :: closedLines (countingLines raws) := by
        rw [countingLines, List.map_cons, List.filter_cons_of_pos (by simpa using htrim),
          closedLines, List.flatMap_cons, List.append_assoc]
        rfl
      have hblank : Blanks gap := fun c hc =>
        ⟨hgap c hc, hfeed c (by rw [hsplit]; exact List.mem_append_left _ hc)⟩
      have hblank' : Blanks gap' := fun c hc =>
        ⟨hgap' c hc, hfeed c (by rw [hsplit]; simp [hc])⟩
      have hindent := LayoutEdit.indent hstart hblank
        (trim raw ++ (gap' ++ '\n' :: closedLines raws))
      have htrail := LayoutEdit.trail (before ++ trim raw) hblank' (.lineFeed (closedLines raws))
      have hrest := ih hraws (StartsLine.lineFeed (before ++ trim raw))
      rw [hcounting]
      nth_rewrite 1 [hsplit]
      simp only [List.append_assoc, List.cons_append, List.nil_append] at hindent htrail hrest ⊢
      exact ((Relaid.edit hindent).symm.trans (Relaid.edit htrail).symm).trans hrest

/-- A script can be edited into the text that has the lines that count and nothing else. -/
theorem relaid_standard (script : Text) : Relaid script (closedLines (contentLines script)) := by
  have hlines := relaid_closedLines
    (fun raw hraw => lineFeed_notMem_of_mem_splitLines (t := script) hraw) StartsLine.head
  rw [List.nil_append, List.nil_append, closedLines_splitLines] at hlines
  exact (Relaid.edit (.lastLineFeed script)).trans hlines

/-- **Two scripts have the same lines that count if and only if edits of the layout lead from one
to the other.** -/
theorem relaid_iff {script script' : Text} :
    Relaid script script' ↔ contentLines script = contentLines script' := by
  constructor
  · exact Relaid.contentLines_eq
  · intro h
    have hstandard := relaid_standard script'
    rw [← h] at hstandard
    exact (relaid_standard script).trans hstandard.symm

/-! ### Reading -/

namespace Session

/-- **The layout of a script does not matter.**  When edits of the layout lead from one script to
another, both have the same lines, and reading either leaves the same session: the scene, the
stage, the syncs, the requests, the clicks, the bindings and the notices. -/
theorem read_relaid {script script' : Text} (h : Relaid script script') (s : Session) :
    contentLines script = contentLines script' ∧ s.read script = s.read script' := by
  have hlines := h.contentLines_eq
  refine ⟨hlines, ?_⟩
  rw [read, read, hlines]

/-- Two blanks, an empty line and carriage returns make no difference. -/
theorem read_relaid_spawn :
    Relaid "  planets.spawn\r\n\r\nx: 5;".toList "planets.spawn\nx: 5; \n".toList ∧
      (fresh {} [] .empty).read "  planets.spawn\r\n\r\nx: 5;".toList =
        (fresh {} [] .empty).read "planets.spawn\nx: 5; \n".toList := by
  have hrelaid :
      Relaid "  planets.spawn\r\n\r\nx: 5;".toList "planets.spawn\nx: 5; \n".toList :=
    relaid_iff.mpr (by decide)
  exact ⟨hrelaid, (read_relaid hrelaid (fresh {} [] .empty)).2⟩

end Session
end PlanetScript
