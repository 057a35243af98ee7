import Mathlib.Data.List.Find
import Mathlib.Data.List.Nodup
import PlanetScript.Proofs.Script.Naming

/-! # One form for a line

The order in which the forms are tried decides nothing.  Of the forms in any order the ones that
accept a line are the one that is found, or none (`Form.filter_accepts`), so a line says the same
when the forms are tried in another order (`Form.firstOf?_of_perm`).  The form that is found can be
read off what the line says (`Directive.form?_ofLine`), and its name tells it from the others
(`Form.name_injective`).

A form other than the signature accepts the lines that start with its opening; those of a click
block also have the call somewhere (`Form.accepts_iff_prefix`).  They accept no
line that they would not accept without a semicolon behind it (`Form.accepts_of_accepts_closed`).
-/
namespace PlanetScript
open Text

/-- The form of the lines that say a directive; content has none. -/
def Directive.form? : Directive → Option Form
  | .signature => some .signature
  | .thumbnail => some .thumbnail
  | .spawn => some .spawn
  | .newBackground _ => some .newBackground
  | .newObject _ => some .newObject
  | .switchBackground _ => some .switchBackground
  | .setPosition _ => some .setPosition
  | .setTexture _ _ => some .setTexture
  | .setSize _ => some .setSize
  | .properties _ => some .properties
  | .onClick _ => some .onClick
  | .remove => some .remove
  | .content => none

namespace Form
variable {f : Form} {forms : List Form} {line : Text}

theorem nodup_all : all.Nodup := by decide

/-- Two forms have two names. -/
theorem name_injective : Function.Injective name := by
  have hall : ∀ f ∈ all, ∀ g ∈ all, f.name = g.name → f = g := by decide
  intro f g h
  exact hall f f.mem_all g g.mem_all h

/-- **In any order, the forms that accept a line are the one that is found.** -/
theorem filter_accepts (h : forms.Perm all) (line : Text) :
    (forms.filter fun f => f.accepts line) = (of? line).toList := by
  cases hof : of? line with
  | none =>
    have hnone := List.find?_eq_none.mp hof
    exact List.filter_eq_nil_iff.mpr fun f _ => hnone f f.mem_all
  | some f =>
    have hf := of?_eq_some_iff.mp hof
    have hnodup : (forms.filter fun f => f.accepts line).Nodup :=
      (h.nodup_iff.mpr nodup_all).filter _
    have hmem : ∀ g, g ∈ (forms.filter fun f => f.accepts line) ↔ g ∈ [f] := by
      intro g
      rw [List.mem_filter, h.mem_iff, and_iff_right g.mem_all, List.mem_singleton]
      constructor
      · exact fun hg => eq_of_accepts hg hf
      · rintro rfl
        exact hf
    exact List.perm_singleton.mp ((List.perm_ext_iff_of_nodup hnodup (List.nodup_singleton f)).mpr
      hmem)

/-- The form that is found first is the same in every order. -/
theorem firstOf?_of_perm (h : forms.Perm all) (line : Text) : firstOf? forms line = of? line :=
  List.find?_eq_find?_of_perm h fun _ hf _ hg => eq_of_accepts hf.2 hg.2

/-- The lines of a form start with its opening, and those of a click block also have the call. -/
theorem accepts_iff_prefix (h : f ≠ .signature) :
    f.accepts line = true ↔
      f.opening <+: line ∧ (f = .onClick → ".onclick()".toList <:+: line) := by
  have hstart : startsWith f.opening line = true ↔ f.opening <+: line := by
    refine startsWith_iff.trans ?_
    simp only [List.IsPrefix, eq_comm]
  cases f with
  | signature => exact absurd rfl h
  | onClick =>
    rw [accepts, Bool.and_eq_true, hstart, contains_iff_piece]
    exact and_congr_right fun _ => ⟨fun hcall _ => hcall, fun hcall => hcall rfl⟩
  | _ => exact hstart.trans (and_iff_left nofun).symm

/-- A form that accepts a line accepts every line that starts so, unless it is the signature. -/
theorem accepts_of_prefix {t : Text} (hf : f ≠ .signature) (ht : t <+: line)
    (h : f.accepts t = true) : f.accepts line = true := by
  obtain ⟨hopening, hcall⟩ := accepts_iff_prefix hf |>.mp h
  exact accepts_iff_prefix hf |>.mpr
    ⟨hopening.trans ht, fun hclick => (hcall hclick).trans ht.isInfix⟩

/-- A form that accepts a line with a semicolon behind it accepts the line, unless it is the
signature. -/
theorem accepts_of_accepts_closed (hf : f ≠ .signature) (h : f.accepts (line ++ [';']) = true) :
    f.accepts line = true := by
  have hopenings : ∀ f ∈ all, f ≠ .signature → ';' ∉ f.opening := by decide
  obtain ⟨hopening, hcall⟩ := accepts_iff_prefix hf |>.mp h
  have hstart : f.opening <+: line := by
    refine (List.prefix_concat_iff.mp hopening).resolve_left fun hwhole => ?_
    exact hopenings f f.mem_all hf (hwhole ▸ List.mem_concat_self)
  refine accepts_iff_prefix hf |>.mpr ⟨hstart, fun hclick => ?_⟩
  have hclosed := contains_iff_piece.mpr (hcall hclick)
  rw [contains_concat (by decide) (by decide)] at hclosed
  exact contains_iff_piece.mp hclosed

theorem form?_directive (f : Form) (line : Text) : (f.directive line).form? = some f := by
  cases f <;> rfl

end Form

namespace Directive
variable {line : Text}

/-- What a line says tells the form that accepts it. -/
theorem form?_ofLine (line : Text) : (ofLine line).form? = Form.of? line := by
  have hfind : Form.firstOf? Form.all line = Form.of? line := rfl
  rw [ofLine, ofLineBy, hfind]
  cases Form.of? line with
  | none => rfl
  | some f => exact f.form?_directive line

theorem form?_eq_none_iff {d : Directive} : d.form? = none ↔ d = .content := by
  cases d <;> simp [form?]

/-- **The table of forms is unambiguous.**  At most one form accepts a line, so in every order of
the table the same form is found and the line says the same.  The form that is found is the one
whose directive the line says, and it has a name of its own; no form is found if and only if the
line is content.  The signature accepts one line; every other form accepts exactly the lines that
start with its opening and, in the case of a click block, also have the call for the click. -/
theorem ofLine_unambiguous (line : Text) :
    (Form.all.filter fun f => f.accepts line).length ≤ 1 ∧
      (∀ forms : List Form, forms.Perm Form.all →
        (forms.filter fun f => f.accepts line) = (Form.of? line).toList ∧
          Form.firstOf? forms line = Form.of? line ∧ ofLineBy forms line = ofLine line) ∧
      (Form.of? line = (ofLine line).form? ∧ Function.Injective Form.name) ∧
      ((Form.of? line).map Form.name = none ↔ ofLine line = .content) ∧
      (Form.signature.accepts line = true ↔ line = "planets.push(new Planet);".toList) ∧
      ∀ f : Form, f ≠ .signature →
        (f.accepts line = true ↔
          f.opening <+: line ∧ (f = .onClick → ".onclick()".toList <:+: line)) := by
  refine ⟨?_, ?_, ⟨(form?_ofLine line).symm, Form.name_injective⟩, ?_, ?_, ?_⟩
  · rw [Form.filter_accepts (.refl _)]
    exact Option.length_toList_le
  · intro forms h
    have hfirst := Form.firstOf?_of_perm h line
    refine ⟨Form.filter_accepts h line, hfirst, ?_⟩
    rw [ofLine, ofLineBy, ofLineBy, hfirst]
    rfl
  · rw [Option.map_eq_none_iff, ← form?_ofLine, form?_eq_none_iff]
  · exact decide_eq_true_iff
  · exact fun f hf => Form.accepts_iff_prefix hf

/-- A click block is one when the forms are tried from the last to the first. -/
theorem ofLine_unambiguous_reversed :
    Form.all.reverse.Perm Form.all ∧ Form.onClick ≠ .signature ∧
      ofLineBy Form.all.reverse "Object:coin.onclick() \x7b".toList =
        .onClick (some "coin".toList) ∧
      "Object:".toList <+: "Object:coin.onclick() \x7b".toList := by
  have hline := ofLine_unambiguous "Object:coin.onclick() \x7b".toList
  obtain ⟨-, htable, -, -, -, hforms⟩ := hline
  refine ⟨List.reverse_perm _, by decide, ?_, ?_⟩
  · rw [(htable _ (List.reverse_perm _)).2.2]
    decide
  · exact ((hforms .onClick (by decide)).mp (by decide)).1

end Directive
end PlanetScript
