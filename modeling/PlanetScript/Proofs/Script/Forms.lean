import Mathlib.Data.List.Infix
import PlanetScript.Script.Reading

/-! # The form of a line

No opening of a form is the beginning of another one, so at most one form accepts a line
(`Form.eq_of_accepts`) and the order in which the forms are tried does not matter.  What a
line says can then be read off the one form that accepts it (`Directive.ofLine_of_accepts`),
and a line that starts with the key of a field has no form (`Directive.ofLine_of_key`).
-/
namespace PlanetScript
open Text

namespace Form
variable {f g : Form} {line : Text}

theorem mem_all (f : Form) : f ∈ all := by cases f <;> decide

/-- No opening is the beginning of another one. -/
theorem eq_of_prefix_opening (h : f.opening <+: g.opening) : f = g := by
  have hall : ∀ f ∈ all, ∀ g ∈ all, f.opening <+: g.opening → f = g := by decide
  exact hall f f.mem_all g g.mem_all h

/-- A line starts with the opening of a form that accepts it. -/
theorem opening_prefix_of_accepts (h : f.accepts line = true) : f.opening <+: line := by
  have hstart : startsWith f.opening line = true := by
    cases f with
    | signature =>
      rw [of_decide_eq_true h]
      exact startsWith_iff.mpr ⟨[], (List.append_nil _).symm⟩
    | onClick => exact (Bool.and_eq_true_iff.mp h).1
    | _ => exact h
  obtain ⟨rest, rfl⟩ := startsWith_iff.mp hstart
  exact List.prefix_append _ _

/-- At most one form accepts a line. -/
theorem eq_of_accepts (hf : f.accepts line = true) (hg : g.accepts line = true) : f = g := by
  rcases List.prefix_or_prefix_of_prefix (opening_prefix_of_accepts hf)
    (opening_prefix_of_accepts hg) with h | h
  · exact eq_of_prefix_opening h
  · exact (eq_of_prefix_opening h).symm

/-- The form of a line is the one that accepts it. -/
theorem of?_eq_some_iff : of? line = some f ↔ f.accepts line = true := by
  constructor
  · exact List.find?_some (p := fun form : Form => form.accepts line)
  · intro h
    cases hof : of? line with
    | none => exact absurd h (List.find?_eq_none.mp hof f f.mem_all)
    | some g =>
      have hg : g.accepts line = true :=
        List.find?_some (p := fun form : Form => form.accepts line) hof
      rw [eq_of_accepts h hg]

/-- A line has no form if it starts with a key that no opening agrees with. -/
theorem of?_eq_none_of_key {key : Text} (rest : Text)
    (h : ∀ f ∈ all, ¬ f.opening <+: key ∧ ¬ key <+: f.opening) : of? (key ++ rest) = none := by
  refine List.find?_eq_none.mpr fun f hf haccepts => ?_
  rcases List.prefix_or_prefix_of_prefix (opening_prefix_of_accepts haccepts)
    (List.prefix_append key rest) with hprefix | hprefix
  · exact (h f hf).1 hprefix
  · exact (h f hf).2 hprefix

/-- The id that a line declares, if it starts as the form does. -/
def declared? (form : Form) (line : Text) : Option Text := (rest? form.opening line).bind newId?

end Form

namespace Directive
variable {f : Form} {line : Text}

/-- What a line says is what the form that accepts it says. -/
theorem ofLine_of_accepts (h : f.accepts line = true) : ofLine line = f.directive line := by
  have hof : Form.firstOf? Form.all line = some f := Form.of?_eq_some_iff.mpr h
  rw [ofLine, ofLineBy, hof]

theorem ofLine_of_key {key : Text} (rest : Text)
    (h : ∀ f ∈ Form.all, ¬ f.opening <+: key ∧ ¬ key <+: f.opening) :
    ofLine (key ++ rest) = .content := by
  have hof : Form.firstOf? Form.all (key ++ rest) = none := Form.of?_eq_none_of_key rest h
  rw [ofLine, ofLineBy, hof]

/-- A line that is no content has the form that says so. -/
theorem exists_form_of_ofLine {d : Directive} (h : ofLine line = d) (hd : d ≠ .content) :
    ∃ f : Form, f.accepts line = true ∧ f.directive line = d := by
  cases hof : Form.firstOf? Form.all line with
  | none =>
    rw [ofLine, ofLineBy, hof] at h
    exact absurd h.symm hd
  | some f =>
    rw [ofLine, ofLineBy, hof] at h
    exact ⟨f, Form.of?_eq_some_iff.mp hof, h⟩

/-- The lines that declare an object. -/
theorem ofLine_eq_newObject_iff {id : Text} :
    ofLine line = .newObject (some id) ↔ Form.newObject.declared? line = some id := by
  constructor
  · intro h
    obtain ⟨f, -, hdirective⟩ := exists_form_of_ofLine h nofun
    cases f with
    | newObject => exact Directive.newObject.inj hdirective
    | _ => cases hdirective
  · intro h
    obtain ⟨rest, hrest, -⟩ := Option.bind_eq_some_iff.mp h
    have haccepts : Form.newObject.accepts line = true := Option.isSome_iff_exists.mpr ⟨rest, hrest⟩
    rw [ofLine_of_accepts haccepts, ← h]
    rfl

/-- The lines that declare a background. -/
theorem ofLine_eq_newBackground_iff {id : Text} :
    ofLine line = .newBackground (some id) ↔ Form.newBackground.declared? line = some id := by
  constructor
  · intro h
    obtain ⟨f, -, hdirective⟩ := exists_form_of_ofLine h nofun
    cases f with
    | newBackground => exact Directive.newBackground.inj hdirective
    | _ => cases hdirective
  · intro h
    obtain ⟨rest, hrest, -⟩ := Option.bind_eq_some_iff.mp h
    have haccepts : Form.newBackground.accepts line = true :=
      Option.isSome_iff_exists.mpr ⟨rest, hrest⟩
    rw [ofLine_of_accepts haccepts, ← h]
    rfl

end Directive
end PlanetScript
